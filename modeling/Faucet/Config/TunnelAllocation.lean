import Faucet.Config.TunnelVlans

/-!
# The VIDs of the tunnels of one ACL

An ACL gets the first unused VIDs from its start on, one for each destination
(`Allocating`): its tunnels are resolved one after the other (`Allocating.foldlM`), and
can be as long as the VIDs are valid (`Allocating.foldlM_ok`).
-/

set_option autoImplicit false

namespace Faucet.Config

open FirstFree

variable {AclName : Type} {config : TopConf AclName} {vlans : List (Vlan AclName)}
  {aclIn : AclName} {acl : Acl}

/-- The VIDs of VLANs. -/
def vids (vlans : List (Vlan AclName)) : List Vid := vlans.map (·.vid)

/-- The VIDs of the VLANs that are not reserved. -/
def openVids (vlans : List (Vlan AclName)) : List Vid :=
  (vlans.filter (!·.reservedInternalVlan)).map (·.vid)

theorem createVlan_eq_ok {vid : Vid} {after : List (Vlan AclName)}
    (created : createVlan vlans vid = .ok after) :
    (minVid ≤ vid ∧ vid ≤ maxVid) ∧ vids after = vids vlans ++ [vid] ∧
      openVids after = openVids vlans := by
  unfold createVlan at created
  split at created
  next => cases created
  next =>
    split at created
    next => cases created
    next inRange =>
      cases created
      rw [not_or, Nat.not_lt, Nat.not_lt] at inRange
      refine ⟨inRange, ?_, ?_⟩
      · simp [vids]
      · simp [openVids]

theorem createVlan_ok {vid : Vid} (unused : vid ∉ vids vlans) (valid : minVid ≤ vid ∧ vid ≤ maxVid) :
    ∃ after, createVlan vlans vid = .ok after := by
  have inRange : ¬ (vid < minVid ∨ maxVid < vid) := by
    rw [not_or, Nat.not_lt, Nat.not_lt]
    exact valid
  unfold createVlan
  rw [if_neg (show vid ∉ vlans.map (·.vid) from unused), if_neg inRange]
  exact ⟨_, rfl⟩

/-! ## Destinations -/

/-- The destinations of some tunnels, each once and in their order. -/
def TopConf.destinations (config : TopConf AclName) (tunnels : List Tunnel) : List Dst :=
  OrderedDict.values id (tunnels.filterMap fun tunnel => (config.resolveDst tunnel).toOption)

theorem destinations_concat (tunnels : List Tunnel) {tunnel : Tunnel} {dst : Dst}
    (found : config.resolveDst tunnel = .ok dst) :
    config.destinations (tunnels ++ [tunnel]) =
      if dst ∈ config.destinations tunnels then config.destinations tunnels
      else config.destinations tunnels ++ [dst] := by
  unfold TopConf.destinations
  rw [List.filterMap_append, List.filterMap_cons, found]
  exact OrderedDict.values_concat.trans OrderedDict.assign_id

theorem destinations_nodup (tunnels : List Tunnel) : (config.destinations tunnels).Nodup :=
  OrderedDict.nodup_values_id

theorem destinations_length_le (done rest : List Tunnel) :
    (config.destinations done).length ≤ (config.destinations (done ++ rest)).length := by
  apply List.Subperm.length_le
  apply (destinations_nodup done).subperm
  intro dst member
  unfold TopConf.destinations at member ⊢
  rw [OrderedDict.mem_values_id] at member ⊢
  rw [List.filterMap_append]
  exact List.mem_append_left _ member

/-! ## The tunnels of one ACL -/

/-- The tunnels of an ACL after some of them: the destinations so far have the first
unused VIDs from the start on. -/
structure Allocating (config : TopConf AclName) (before : List (Vlan AclName)) (start : Vid)
    (done : List Tunnel) (ids : List Vid) (tunnels : Tunnels AclName) : Prop where
  first : IsFirst (· ∈ vids before) start ids
  length : ids.length = (config.destinations done).length
  valid : ∀ id ∈ ids, minVid ≤ id ∧ id ≤ maxVid
  found : ∀ tunnel ∈ done, ∃ dst, config.resolveDst tunnel = .ok dst
  vids' : vids tunnels.vlans = vids before ++ ids
  openVids' : openVids tunnels.vlans = openVids before
  dstsToVlan : tunnels.tunnelDstsToVlan = (config.destinations done).zip ids
  dests : tunnels.tunnelDests = ids.zip (config.destinations done)

section Allocating

variable {before : List (Vlan AclName)} {start : Vid} {done : List Tunnel} {ids : List Vid}
  {tunnels after : Tunnels AclName} {tunnel : Tunnel}

theorem startPos_congr [LinearOrder AclName] (same : openVids vlans = openVids before) :
    config.startPos vlans aclIn = config.startPos before aclIn := by
  unfold TopConf.startPos
  unfold openVids at same
  rw [same]

theorem Allocating.nil : Allocating config before start []  []
    { vlans := before, tunnelDstsToVlan := [], tunnelDests := [] } where
  first := .nil
  length := rfl
  valid := by simp
  found := by simp
  vids' := (List.append_nil _).symm
  openVids' := rfl
  dstsToVlan := rfl
  dests := rfl

/-- A destination that has a VLAN keeps it. -/
theorem Allocating.again (allocating : Allocating config before start done ids tunnels) {dst : Dst}
    (found : config.resolveDst tunnel = .ok dst) {vid : Vid}
    (known : tunnels.tunnelDstsToVlan.lookup dst = some vid) :
    Allocating config before start (done ++ [tunnel]) ids
      { vlans := tunnels.vlans
        tunnelDstsToVlan := OrderedDict.set tunnels.tunnelDstsToVlan dst vid
        tunnelDests := OrderedDict.set tunnels.tunnelDests vid dst } := by
  have member := OrderedDict.mem_of_lookup known
  rw [allocating.dstsToVlan] at member
  have inDone : dst ∈ config.destinations done := (List.of_mem_zip member).1
  have same := destinations_concat done found
  rw [if_pos inDone] at same
  have keysNodup : (tunnels.tunnelDstsToVlan.map Prod.fst).Nodup := by
    rw [allocating.dstsToVlan, List.map_fst_zip allocating.length.ge]
    exact destinations_nodup done
  have vidsNodup : (tunnels.tunnelDests.map Prod.fst).Nodup := by
    rw [allocating.dests, List.map_fst_zip allocating.length.le]
    exact allocating.first.nodup
  have member' : (vid, dst) ∈ tunnels.tunnelDests := by
    rw [allocating.dests, ← List.zip_swap]
    exact List.mem_map.mpr ⟨(dst, vid), member, rfl⟩
  constructor
  · exact allocating.first
  · rw [same]
    exact allocating.length
  · exact allocating.valid
  · intro other listed
    cases List.mem_append.mp listed with
    | inl earlier => exact allocating.found other earlier
    | inr last =>
        rw [List.mem_singleton.mp last]
        exact ⟨dst, found⟩
  · exact allocating.vids'
  · exact allocating.openVids'
  · rw [same, OrderedDict.set_of_mem keysNodup (OrderedDict.mem_of_lookup known)]
    exact allocating.dstsToVlan
  · rw [same, OrderedDict.set_of_mem vidsNodup member']
    exact allocating.dests

theorem Allocating.not_done (allocating : Allocating config before start done ids tunnels) {dst : Dst}
    (unknown : tunnels.tunnelDstsToVlan.lookup dst = none) : dst ∉ config.destinations done := by
  have absent : dst ∉ tunnels.tunnelDstsToVlan.map Prod.fst := by
    intro listed
    obtain ⟨pair, member, same⟩ := List.mem_map.mp listed
    have notEqual := List.lookup_eq_none_iff.mp unknown pair member
    rw [bne_iff_ne] at notEqual
    exact notEqual same.symm
  rwa [allocating.dstsToVlan, List.map_fst_zip allocating.length.ge] at absent

theorem Allocating.first_next (allocating : Allocating config before start done ids tunnels) :
    IsFirst (· ∈ vids before) start (ids ++ [firstUnusedVlanId tunnels.vlans start]) := by
  apply allocating.first.concat
  intro id
  change id ∈ vids tunnels.vlans ↔ _
  rw [allocating.vids', List.mem_append]

/-- A new destination gets the next unused VID. -/
theorem Allocating.fresh (allocating : Allocating config before start done ids tunnels) {dst : Dst}
    (found : config.resolveDst tunnel = .ok dst)
    (unknown : tunnels.tunnelDstsToVlan.lookup dst = none) {vlans : List (Vlan AclName)}
    (created : createVlan tunnels.vlans (firstUnusedVlanId tunnels.vlans start) = .ok vlans) :
    Allocating config before start (done ++ [tunnel])
      (ids ++ [firstUnusedVlanId tunnels.vlans start])
      { vlans := vlans
        tunnelDstsToVlan := OrderedDict.set tunnels.tunnelDstsToVlan dst
          (firstUnusedVlanId tunnels.vlans start)
        tunnelDests := OrderedDict.set tunnels.tunnelDests (firstUnusedVlanId tunnels.vlans start)
          dst } := by
  obtain ⟨valid, after, openAfter⟩ := createVlan_eq_ok created
  have notDone := allocating.not_done unknown
  have absent : dst ∉ tunnels.tunnelDstsToVlan.map Prod.fst := by
    rwa [allocating.dstsToVlan, List.map_fst_zip allocating.length.ge]
  have unused : firstUnusedVlanId tunnels.vlans start ∉ ids := by
    intro listed
    have taken : firstUnusedVlanId tunnels.vlans start ∈ vids tunnels.vlans := by
      rw [allocating.vids']
      exact List.mem_append_right _ listed
    exact next_not_mem _ taken
  have absentVid : firstUnusedVlanId tunnels.vlans start ∉ tunnels.tunnelDests.map Prod.fst := by
    rwa [allocating.dests, List.map_fst_zip allocating.length.le]
  have more := destinations_concat done found
  rw [if_neg notDone] at more
  constructor
  · exact allocating.first_next
  · rw [more, List.length_append, List.length_append, allocating.length]
    rfl
  · intro id listed
    cases List.mem_append.mp listed with
    | inl earlier => exact allocating.valid id earlier
    | inr last =>
        rw [List.mem_singleton.mp last]
        exact valid
  · intro other listed
    cases List.mem_append.mp listed with
    | inl earlier => exact allocating.found other earlier
    | inr last =>
        rw [List.mem_singleton.mp last]
        exact ⟨dst, found⟩
  · rw [after, allocating.vids', List.append_assoc]
  · rw [openAfter, allocating.openVids']
  · rw [more, OrderedDict.set_of_absent absent, allocating.dstsToVlan,
      List.zip_append allocating.length.symm]
    rfl
  · rw [more, OrderedDict.set_of_absent absentVid, allocating.dests,
      List.zip_append allocating.length]
    rfl

variable [LinearOrder AclName]

/-- A tunnel without a VLAN of its own. -/
theorem resolveTunnel_eq (automatic : Key.truthy tunnel.tunnelId = none) :
    config.resolveTunnel aclIn none tunnels tunnel = (config.resolveDst tunnel).bind fun dst =>
      match tunnels.tunnelDstsToVlan.lookup dst with
      | some vid => .ok
          { vlans := tunnels.vlans
            tunnelDstsToVlan := OrderedDict.set tunnels.tunnelDstsToVlan dst vid
            tunnelDests := OrderedDict.set tunnels.tunnelDests vid dst }
      | none => (config.startPos tunnels.vlans aclIn).bind fun start =>
          (createVlan tunnels.vlans (firstUnusedVlanId tunnels.vlans start)).bind fun vlans => .ok
            { vlans := vlans
              tunnelDstsToVlan := OrderedDict.set tunnels.tunnelDstsToVlan dst
                (firstUnusedVlanId tunnels.vlans start)
              tunnelDests := OrderedDict.set tunnels.tunnelDests
                (firstUnusedVlanId tunnels.vlans start) dst } := by
  unfold TopConf.resolveTunnel TopConf.getTunnelVlan
  rw [automatic]
  cases config.resolveDst tunnel with
  | error failure => rfl
  | ok dst =>
      change Except.bind _ _ = _
      dsimp only [Except.bind]
      cases tunnels.tunnelDstsToVlan.lookup dst with
      | some vid => rfl
      | none =>
          cases config.startPos tunnels.vlans aclIn with
          | error failure => rfl
          | ok start =>
              cases created : createVlan tunnels.vlans (firstUnusedVlanId tunnels.vlans start) with
              | error failure =>
                  dsimp only [bind, Except.bind]
                  rw [created]
              | ok vlans =>
                  dsimp only [bind, Except.bind]
                  rw [created]
                  rfl

/-- One more tunnel is resolved. -/
theorem Allocating.step (allocating : Allocating config before start done ids tunnels)
    (starts : ∀ pos, config.startPos before aclIn = .ok pos → pos = start)
    (automatic : Key.truthy tunnel.tunnelId = none)
    (resolved : config.resolveTunnel aclIn none tunnels tunnel = .ok after) :
    ∃ ids', Allocating config before start (done ++ [tunnel]) ids' after := by
  rw [resolveTunnel_eq automatic] at resolved
  cases found : config.resolveDst tunnel with
  | error failure =>
      rw [found] at resolved
      cases resolved
  | ok dst =>
      rw [found] at resolved
      dsimp only [Except.bind] at resolved
      cases known : tunnels.tunnelDstsToVlan.lookup dst with
      | some vid =>
          rw [known] at resolved
          cases resolved
          exact ⟨ids, allocating.again found known⟩
      | none =>
          rw [known, startPos_congr allocating.openVids'] at resolved
          cases pos : config.startPos before aclIn with
          | error failure =>
              rw [pos] at resolved
              cases resolved
          | ok pos' =>
              cases starts pos' pos
              rw [pos] at resolved
              dsimp only at resolved
              cases created : createVlan tunnels.vlans (firstUnusedVlanId tunnels.vlans start) with
              | error failure =>
                  rw [created] at resolved
                  cases resolved
              | ok vlans =>
                  rw [created] at resolved
                  cases resolved
                  exact ⟨_, allocating.fresh found known created⟩

/-- **The tunnels that remain are resolved.** -/
theorem Allocating.foldlM (allocating : Allocating config before start done ids tunnels)
    (starts : ∀ pos, config.startPos before aclIn = .ok pos → pos = start) {rest : List Tunnel}
    (automatic : ∀ tunnel ∈ rest, Key.truthy tunnel.tunnelId = none)
    (resolved : rest.foldlM (config.resolveTunnel aclIn none) tunnels = .ok after) :
    ∃ ids', Allocating config before start (done ++ rest) ids' after := by
  induction rest generalizing tunnels done ids with
  | nil =>
      cases resolved
      exact ⟨ids, by rwa [List.append_nil]⟩
  | cons tunnel rest ih =>
      rw [List.foldlM_cons] at resolved
      cases first : config.resolveTunnel aclIn none tunnels tunnel with
      | error failure =>
          rw [first] at resolved
          cases resolved
      | ok next =>
          rw [first] at resolved
          obtain ⟨ids', allocating'⟩ := allocating.step starts (automatic tunnel List.mem_cons_self) first
          obtain ⟨ids'', finished⟩ := ih allocating'
            (fun other later => automatic other (List.mem_cons_of_mem _ later)) resolved
          exact ⟨ids'', by rwa [List.append_assoc] at finished⟩

/-- **They can be resolved** when the VIDs that they are to get are valid. -/
theorem Allocating.foldlM_ok (allocating : Allocating config before start done ids tunnels)
    (starts : config.startPos before aclIn = .ok start) {rest : List Tunnel}
    (automatic : ∀ tunnel ∈ rest, Key.truthy tunnel.tunnelId = none)
    (found : ∀ tunnel ∈ rest, ∃ dst, config.resolveDst tunnel = .ok dst) {all : List Vid}
    (first : IsFirst (· ∈ vids before) start all)
    (length : all.length = (config.destinations (done ++ rest)).length)
    (valid : ∀ id ∈ all, minVid ≤ id ∧ id ≤ maxVid) :
    ∃ after, rest.foldlM (config.resolveTunnel aclIn none) tunnels = .ok after := by
  induction rest generalizing tunnels done ids with
  | nil => exact ⟨tunnels, rfl⟩
  | cons tunnel rest ih =>
      have proceed : ∀ {ids' next}, config.resolveTunnel aclIn none tunnels tunnel = .ok next →
          Allocating config before start (done ++ [tunnel]) ids' next →
          ∃ after, (tunnel :: rest).foldlM (config.resolveTunnel aclIn none) tunnels = .ok after := by
        intro ids' next resolved allocating'
        obtain ⟨after, finished⟩ := ih allocating'
          (fun other later => automatic other (List.mem_cons_of_mem _ later))
          (fun other later => found other (List.mem_cons_of_mem _ later))
          (by rwa [List.append_assoc])
        refine ⟨after, ?_⟩
        rw [List.foldlM_cons, resolved]
        exact finished
      obtain ⟨dst, dstFound⟩ := found tunnel List.mem_cons_self
      have resolved : config.resolveTunnel aclIn none tunnels tunnel = _ :=
        resolveTunnel_eq (automatic tunnel List.mem_cons_self)
      rw [dstFound] at resolved
      dsimp only [Except.bind] at resolved
      cases known : tunnels.tunnelDstsToVlan.lookup dst with
      | some vid =>
          rw [known] at resolved
          exact proceed resolved (allocating.again dstFound known)
      | none =>
          rw [known, startPos_congr allocating.openVids', starts] at resolved
          dsimp only at resolved
          -- The next unused VID is one of those that are to be given out.
          have unused : firstUnusedVlanId tunnels.vlans start ∉ vids tunnels.vlans := next_not_mem _
          have isNext : firstUnusedVlanId tunnels.vlans start ∈ all := by
            apply allocating.first_next.subset_of_length_le first _ (by simp)
            have more : (config.destinations (done ++ [tunnel])).length ≤ _ :=
              destinations_length_le (done ++ [tunnel]) rest
            rw [destinations_concat done dstFound, if_neg (allocating.not_done known)] at more
            rw [length, List.length_append, allocating.length]
            rwa [List.append_assoc, List.length_append] at more
          obtain ⟨vlans, created⟩ := createVlan_ok unused (valid _ isNext)
          rw [created] at resolved
          exact proceed resolved (allocating.fresh dstFound known created)

/-- Some tunnel has been resolved, so that there was a start. -/
theorem startPos_of_foldlM {rest : List Tunnel} (nonempty : rest ≠ [])
    (automatic : ∀ tunnel ∈ rest, Key.truthy tunnel.tunnelId = none)
    (resolved : rest.foldlM (config.resolveTunnel aclIn none)
      { vlans := before, tunnelDstsToVlan := [], tunnelDests := [] } = .ok after) :
    ∃ pos, config.startPos before aclIn = .ok pos := by
  cases rest with
  | nil => exact absurd rfl nonempty
  | cons tunnel rest =>
      rw [List.foldlM_cons, resolveTunnel_eq (automatic tunnel List.mem_cons_self)] at resolved
      cases found : config.resolveDst tunnel with
      | error failure =>
          rw [found] at resolved
          cases resolved
      | ok dst =>
          rw [found] at resolved
          cases starts : config.startPos before aclIn with
          | ok pos => exact ⟨pos, rfl⟩
          | error failure =>
              dsimp only [Except.bind, List.lookup_nil] at resolved
              rw [starts] at resolved
              cases resolved

end Allocating

/-! ## The start of an ACL -/

section Start

variable [LinearOrder AclName]

/-- The start of an ACL above the configured VLANs. -/
def TopConf.start (config : TopConf AclName) (aclIn : AclName) : Vid :=
  (config.startPos config.vlans aclIn).toOption.getD 0

theorem startPos_eq_start {pos : Vid} (starts : config.startPos config.vlans aclIn = .ok pos) :
    pos = config.start aclIn := by
  rw [TopConf.start, starts]
  rfl

/-- In a sorted list the lesser name comes first. -/
theorem idxOf_lt_idxOf {names : List AclName} (sorted : names.Pairwise (· ≤ ·)) {lesser greater : AclName}
    (member : lesser ∈ names) (member' : greater ∈ names) (less : lesser < greater) :
    names.idxOf lesser < names.idxOf greater := by
  by_contra notBefore
  have inRange := List.idxOf_lt_length_of_mem member
  have inRange' := List.idxOf_lt_length_of_mem member'
  cases Nat.lt_or_eq_of_le (Nat.not_lt.mp notBefore) with
  | inl before =>
      have ordered := List.pairwise_iff_getElem.mp sorted _ _ inRange' inRange before
      rw [List.getElem_idxOf inRange, List.getElem_idxOf inRange'] at ordered
      exact absurd less (not_lt.mpr ordered)
  | inr same =>
      have eq : names[names.idxOf greater] = names[names.idxOf lesser] := by
        congr 1
      rw [List.getElem_idxOf, List.getElem_idxOf] at eq
      exact absurd eq.symm less.ne

/-- Lesser names start lower. -/
theorem start_le_start {lesser greater : AclName} (less : lesser < greater)
    (member : lesser ∈ config.acls.map Prod.fst) (member' : greater ∈ config.acls.map Prod.fst) :
    config.start lesser ≤ config.start greater := by
  unfold TopConf.start TopConf.startPos
  split
  next => exact le_rfl
  next vlanOffset _ =>
    change vlanOffset + _ ≤ vlanOffset + _
    apply Nat.add_le_add_left
    have before := idxOf_lt_idxOf (List.pairwise_insertionSort (· ≤ ·) (config.acls.map Prod.fst))
      ((List.mem_insertionSort _).mpr member) ((List.mem_insertionSort _).mpr member') less
    have isPrefix : ∀ {i j : ℕ} (counts : List ℕ), i ≤ j → (counts.take i).sum ≤ (counts.take j).sum := by
      intro i j counts le
      obtain ⟨rest, eq⟩ := List.take_prefix_take_left le (l := counts)
      rw [← eq, List.sum_append]
      exact Nat.le_add_right _ _
    exact isPrefix _ (Nat.succ_le_succ before.le)

end Start

end Faucet.Config
