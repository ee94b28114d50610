import Faucet.Config.TunnelAllocation

/-!
# Whether the DPs agree on the VLANs of tunnels

The start of an ACL leaves room for its own tunnels and those of the ACLs with lesser
names, but below the start and not above it. So an ACL with more destinations than there
are unused VIDs up to the start of another one takes the VIDs of that one if it is
resolved first, and the DPs, which resolve ACLs in the order of their references, need
not agree (`tunnelsAgree_iff`).
-/

set_option autoImplicit false

namespace Faucet.Config

open FirstFree

variable {AclName : Type} {config : TopConf AclName} {vlans : List (Vlan AclName)}
  {aclIn : AclName} {acl : Acl}

/-! ## A DP while it resolves ACLs -/

section Runs

variable [LinearOrder AclName] {resolution next : Resolution AclName} {aclName other : AclName}
  {reference : AclName × Option Vid}

/-- No tunnel has a VLAN of its own. -/
def Automatic (config : TopConf AclName) : Prop :=
  ∀ entry ∈ config.acls, ∀ tunnel ∈ entry.2.tunnels, Key.truthy tunnel.tunnelId = none

theorem Automatic.of_lookup (automatic : Automatic config) (listed : config.acls.lookup aclName = some acl) :
    ∀ tunnel ∈ acl.tunnels, Key.truthy tunnel.tunnelId = none :=
  automatic _ (OrderedDict.mem_of_lookup listed)

/-- What an ACL has when it is resolved. -/
structure AclResolved (config : TopConf AclName) (resolution : Resolution AclName) (aclName : AclName)
    (acl : Acl) (ids : List Vid) : Prop where
  length : ids.length = (config.destinations acl.tunnels).length
  dests : resolution.tunnelDests aclName = ids.zip (config.destinations acl.tunnels)
  nodup : ids.Nodup
  valid : ∀ id ∈ ids, minVid ≤ id ∧ id ≤ maxVid
  unconfigured : ∀ id ∈ ids, id ∉ vids config.vlans
  found : ∀ tunnel ∈ acl.tunnels, ∃ dst, config.resolveDst tunnel = .ok dst
  starts : acl.tunnels ≠ [] → config.startPos config.vlans aclName = .ok (config.start aclName)

/-- What holds while a DP resolves ACLs in any order. -/
structure Resolved (config : TopConf AclName) (resolution : Resolution AclName) : Prop where
  openVids' : openVids resolution.vlans = openVids config.vlans
  used : ∀ id, id ∈ vids resolution.vlans ↔
    id ∈ vids config.vlans ∨ ∃ aclName dst, (id, dst) ∈ resolution.tunnelDests aclName
  own : ∀ aclName ∈ resolution.portsResolved, ∃ acl ids, config.acls.lookup aclName = some acl ∧
    AclResolved config resolution aclName acl ids
  notYet : ∀ aclName ∉ resolution.portsResolved, resolution.tunnelDests aclName = []
  apart : ∀ aclName other, aclName ≠ other → ∀ id dst dst',
    (id, dst) ∈ resolution.tunnelDests aclName → (id, dst') ∉ resolution.tunnelDests other

theorem initial_resolved : Resolved config config.initial where
  openVids' := rfl
  used id := ⟨.inl, fun either => either.resolve_right fun ⟨_, _, member⟩ => by cases member⟩
  own := nofun
  notYet _ _ := rfl
  apart := nofun

/-- The two ways to resolve an ACL: it has been resolved before, or its tunnels are. -/
theorem resolveAcl_cases (automatic : Automatic config)
    (openVids' : openVids resolution.vlans = openVids config.vlans)
    (resolved : config.resolveAcl resolution reference = .ok next) :
    ∃ acl, config.acls.lookup reference.1 = some acl ∧
      ((reference.1 ∈ resolution.portsResolved ∧ next = resolution) ∨
        (reference.1 ∉ resolution.portsResolved ∧ ∃ tunnels ids,
          Allocating config resolution.vlans (config.start reference.1) acl.tunnels ids tunnels ∧
          (acl.tunnels ≠ [] → config.startPos config.vlans reference.1 =
            .ok (config.start reference.1)) ∧
          next = {
            vlans := tunnels.vlans
            portsResolved := reference.1 :: resolution.portsResolved
            tunnelDests := Function.update resolution.tunnelDests reference.1 tunnels.tunnelDests })) := by
  unfold TopConf.resolveAcl at resolved
  cases listed : config.acls.lookup reference.1 with
  | none =>
      rw [listed] at resolved
      cases resolved
  | some acl =>
      rw [listed] at resolved
      refine ⟨acl, rfl, ?_⟩
      dsimp only at resolved
      split at resolved
      next before =>
        cases resolved
        exact .inl ⟨before, rfl⟩
      next notBefore =>
        refine .inr ⟨notBefore, ?_⟩
        cases folded : acl.tunnels.foldlM (config.resolveTunnel reference.1 reference.2)
            { vlans := resolution.vlans, tunnelDstsToVlan := [], tunnelDests := [] } with
        | error failure =>
            rw [folded] at resolved
            cases resolved
        | ok tunnels =>
            rw [folded] at resolved
            cases resolved
            have auto := automatic.of_lookup listed
            -- A VLAN's ACL has no tunnels.
            have folded' : acl.tunnels.foldlM (config.resolveTunnel reference.1 none)
                { vlans := resolution.vlans, tunnelDstsToVlan := [], tunnelDests := [] } =
                .ok tunnels := by
              cases vlanAcl : reference.2 with
              | none => rwa [vlanAcl] at folded
              | some vid =>
                  rw [vlanAcl] at folded
                  cases none : acl.tunnels with
                  | nil => rwa [none] at folded
                  | cons tunnel rest =>
                      rw [none, List.foldlM_cons] at folded
                      cases folded
            have starts : ∀ pos, config.startPos resolution.vlans reference.1 = .ok pos →
                pos = config.start reference.1 := by
              intro pos found
              rw [startPos_congr openVids'] at found
              exact startPos_eq_start found
            obtain ⟨ids, allocating⟩ := Allocating.nil.foldlM starts auto folded'
            refine ⟨tunnels, ids, allocating, fun nonempty => ?_, rfl⟩
            obtain ⟨pos, found⟩ := startPos_of_foldlM nonempty auto folded'
            rw [startPos_congr openVids'] at found
            rw [found, startPos_eq_start found]

theorem exists_mem_zip {ids : List Vid} {dsts : List Dst} (length : ids.length ≤ dsts.length) {id : Vid}
    (member : id ∈ ids) : ∃ dst, (id, dst) ∈ ids.zip dsts := by
  have isFirst : id ∈ (ids.zip dsts).map Prod.fst := by
    rwa [List.map_fst_zip length]
  obtain ⟨pair, listed, rfl⟩ := List.mem_map.mp isFirst
  exact ⟨pair.2, listed⟩

/-- The destinations of a resolved ACL and their VIDs. -/
theorem AclResolved.mem_dests {ids : List Vid} (own : AclResolved config resolution aclName acl ids)
    {id : Vid} : id ∈ ids ↔ ∃ dst, (id, dst) ∈ resolution.tunnelDests aclName := by
  rw [own.dests]
  constructor
  · exact exists_mem_zip own.length.le
  · intro someDst
    obtain ⟨dst, listed⟩ := someDst
    exact (List.of_mem_zip listed).1

theorem AclResolved.congr {ids : List Vid} (own : AclResolved config resolution aclName acl ids)
    (same : next.tunnelDests aclName = resolution.tunnelDests aclName) :
    AclResolved config next aclName acl ids :=
  { own with dests := same.trans own.dests }

/-- **One more ACL is resolved.** -/
theorem Resolved.resolveAcl (automatic : Automatic config) (sound : Resolved config resolution)
    (resolved : config.resolveAcl resolution reference = .ok next) : Resolved config next := by
  obtain ⟨acl, listed, cases'⟩ := resolveAcl_cases automatic sound.openVids' resolved
  cases cases' with
  | inl before => rwa [before.2]
  | inr fresh =>
      obtain ⟨notBefore, tunnels, ids, allocating, starts, rfl⟩ := fresh
      have elsewhere : ∀ other, other ≠ reference.1 →
          Function.update resolution.tunnelDests reference.1 tunnels.tunnelDests other =
            resolution.tunnelDests other :=
        fun other different => Function.update_of_ne different _ _
      have here : Function.update resolution.tunnelDests reference.1 tunnels.tunnelDests reference.1 =
          ids.zip (config.destinations acl.tunnels) := by
        rw [Function.update_self, allocating.dests]
      have notUsed : ∀ id ∈ ids, id ∉ vids config.vlans ∧
          ¬ ∃ aclName dst, (id, dst) ∈ resolution.tunnelDests aclName := by
        intro id member
        rw [← not_or, ← sound.used]
        exact allocating.first.free id member
      have own : AclResolved config
          { vlans := tunnels.vlans
            portsResolved := reference.1 :: resolution.portsResolved
            tunnelDests := Function.update resolution.tunnelDests reference.1 tunnels.tunnelDests }
          reference.1 acl ids :=
        { length := allocating.length
          dests := here
          nodup := allocating.first.nodup
          valid := allocating.valid
          unconfigured := fun id member => (notUsed id member).1
          found := allocating.found
          starts := starts }
      constructor
      · exact allocating.openVids'.trans sound.openVids'
      · intro id
        dsimp only
        rw [allocating.vids', List.mem_append, sound.used, own.mem_dests]
        constructor
        · intro either
          cases either with
          | inl earlier =>
              refine earlier.imp_right fun some => ?_
              obtain ⟨aclName, dst, member⟩ := some
              refine ⟨aclName, dst, ?_⟩
              rw [elsewhere]
              · exact member
              · intro same
                rw [same, sound.notYet _ notBefore] at member
                cases member
          | inr new =>
              obtain ⟨dst, member⟩ := new
              exact .inr ⟨reference.1, dst, member⟩
        · intro either
          cases either with
          | inl configured => exact .inl (.inl configured)
          | inr some =>
              obtain ⟨aclName, dst, member⟩ := some
              by_cases same : aclName = reference.1
              · rw [same] at member
                exact .inr ⟨dst, member⟩
              · rw [elsewhere aclName same] at member
                exact .inl (.inr ⟨aclName, dst, member⟩)
      · intro aclName isResolved
        by_cases same : aclName = reference.1
        · rw [same]
          exact ⟨acl, ids, listed, own⟩
        · obtain ⟨acl', ids', listed', own'⟩ := sound.own aclName
            ((List.mem_cons.mp isResolved).resolve_left same)
          exact ⟨acl', ids', listed', own'.congr (elsewhere aclName same)⟩
      · intro aclName notResolved
        rw [List.mem_cons, not_or] at notResolved
        exact (elsewhere aclName notResolved.1).trans (sound.notYet aclName notResolved.2)
      · intro aclName other different id dst dst' member member'
        dsimp only at member member'
        by_cases first : aclName = reference.1
        · rw [first] at member different
          rw [elsewhere other different.symm] at member'
          exact (notUsed id (own.mem_dests.mpr ⟨dst, member⟩)).2 ⟨other, dst', member'⟩
        · rw [elsewhere aclName first] at member
          by_cases second : other = reference.1
          · rw [second] at member'
            exact (notUsed id (own.mem_dests.mpr ⟨dst', member'⟩)).2 ⟨aclName, dst, member⟩
          · rw [elsewhere other second] at member'
            exact sound.apart aclName other different id dst dst' member member'

/-- An ACL that has been resolved keeps its tunnels, and the one named has been. -/
theorem resolveAcl_keeps (automatic : Automatic config) (sound : Resolved config resolution)
    (resolved : config.resolveAcl resolution reference = .ok next) :
    reference.1 ∈ next.portsResolved ∧ ∀ aclName ∈ resolution.portsResolved,
      aclName ∈ next.portsResolved ∧ next.tunnelDests aclName = resolution.tunnelDests aclName := by
  obtain ⟨acl, _, cases'⟩ := resolveAcl_cases automatic sound.openVids' resolved
  cases cases' with
  | inl before =>
      rw [before.2]
      exact ⟨before.1, fun aclName isResolved => ⟨isResolved, rfl⟩⟩
  | inr fresh =>
      obtain ⟨notBefore, tunnels, ids, _, _, rfl⟩ := fresh
      refine ⟨List.mem_cons_self, fun aclName isResolved => ⟨List.mem_cons_of_mem _ isResolved, ?_⟩⟩
      apply Function.update_of_ne
      intro same
      exact notBefore (same ▸ isResolved)

theorem foldlM_cons_ok {references : List (AclName × Option Vid)} {final : Resolution AclName}
    (resolved : (reference :: references).foldlM config.resolveAcl resolution = .ok final) :
    ∃ next, config.resolveAcl resolution reference = .ok next ∧
      references.foldlM config.resolveAcl next = .ok final := by
  rw [List.foldlM_cons] at resolved
  cases first : config.resolveAcl resolution reference with
  | error failure =>
      rw [first] at resolved
      cases resolved
  | ok next =>
      rw [first] at resolved
      exact ⟨next, rfl, resolved⟩

/-- **A list of ACLs is resolved.** -/
theorem Resolved.foldlM (automatic : Automatic config) (sound : Resolved config resolution)
    {references : List (AclName × Option Vid)} {final : Resolution AclName}
    (resolved : references.foldlM config.resolveAcl resolution = .ok final) :
    Resolved config final ∧ (∀ reference ∈ references, reference.1 ∈ final.portsResolved) ∧
      ∀ aclName ∈ resolution.portsResolved,
        aclName ∈ final.portsResolved ∧ final.tunnelDests aclName = resolution.tunnelDests aclName := by
  induction references generalizing resolution with
  | nil =>
      cases resolved
      exact ⟨sound, nofun, fun aclName isResolved => ⟨isResolved, rfl⟩⟩
  | cons reference references ih =>
      obtain ⟨next, first, rest⟩ := foldlM_cons_ok resolved
      obtain ⟨named, kept⟩ := resolveAcl_keeps automatic sound first
      obtain ⟨sound', listed, kept'⟩ := ih (sound.resolveAcl automatic first) rest
      refine ⟨sound', fun other member => ?_, fun aclName isResolved => ?_⟩
      · cases List.mem_cons.mp member with
        | inl same =>
            rw [same]
            exact (kept' _ named).1
        | inr later => exact listed other later
      · obtain ⟨still, same⟩ := kept aclName isResolved
        obtain ⟨finally', same'⟩ := kept' aclName still
        exact ⟨finally', same'.trans same⟩

/-! ## Room between the starts -/

/-- The VIDs that an ACL gets when it is resolved first. -/
def IsCanonical (config : TopConf AclName) (aclName : AclName) (acl : Acl) (ids : List Vid) : Prop :=
  IsFirst (· ∈ vids config.vlans) (config.start aclName) ids ∧
    ids.length = (config.destinations acl.tunnels).length

/-- **There is room for every ACL** below the start of any later one that has a tunnel:
as many unused VIDs as it has destinations. -/
def Roomy (config : TopConf AclName) : Prop :=
  ∀ earlier later acl acl', config.acls.lookup earlier = some acl →
    config.acls.lookup later = some acl' → acl'.tunnels ≠ [] → earlier < later →
    (config.destinations acl.tunnels).length ≤
      room (· ∈ vids config.vlans) (config.start earlier) (config.start later)

theorem exists_canonical (config : TopConf AclName) (aclName : AclName) (acl : Acl) :
    ∃ ids, IsCanonical config aclName acl ids :=
  IsFirst.exists_length (fun _ => Iff.rfl) _ _

theorem IsCanonical.unique {ids ids' : List Vid} (canonical : IsCanonical config aclName acl ids)
    (canonical' : IsCanonical config aclName acl ids') : ids = ids' :=
  canonical.1.unique canonical'.1 (canonical.2.trans canonical'.2.symm)

theorem mem_of_lookup_acls (listed : config.acls.lookup aclName = some acl) :
    aclName ∈ config.acls.map Prod.fst :=
  List.mem_map.mpr ⟨_, OrderedDict.mem_of_lookup listed, rfl⟩

theorem IsCanonical.ne_nil {ids : List Vid} (canonical : IsCanonical config aclName acl ids)
    (found : ∀ tunnel ∈ acl.tunnels, ∃ dst, config.resolveDst tunnel = .ok dst)
    (nonempty : acl.tunnels ≠ []) : ids ≠ [] := by
  intro none
  obtain ⟨tunnel, rest, eq⟩ := List.exists_cons_of_ne_nil nonempty
  obtain ⟨dst, dstFound⟩ := found tunnel (eq ▸ List.mem_cons_self)
  have member : dst ∈ config.destinations acl.tunnels := by
    unfold TopConf.destinations
    rw [OrderedDict.mem_values_id, eq, List.filterMap_cons, dstFound]
    exact List.mem_cons_self
  have length := canonical.2
  rw [none] at length
  rw [List.length_eq_zero_iff.mp length.symm] at member
  cases member

/-- With room two ACLs do not meet. -/
theorem Roomy.disjoint (roomy : Roomy config) {acl' : Acl} {ids ids' : List Vid}
    (listed : config.acls.lookup aclName = some acl) (listed' : config.acls.lookup other = some acl')
    (canonical : IsCanonical config aclName acl ids) (canonical' : IsCanonical config other acl' ids')
    (different : aclName ≠ other) : ids.Disjoint ids' := by
  have ordered : ∀ {lesser greater : AclName} {acl acl' : Acl} {ids ids' : List Vid},
      config.acls.lookup lesser = some acl → config.acls.lookup greater = some acl' →
      IsCanonical config lesser acl ids → IsCanonical config greater acl' ids' →
      lesser < greater → ids.Disjoint ids' := by
    intro lesser greater acl acl' ids ids' listed listed' canonical canonical' less
    by_cases none : ids' = []
    · rw [none]
      exact List.disjoint_nil_right _
    · have nonempty : acl'.tunnels ≠ [] := by
        intro noTunnels
        have length := canonical'.2
        rw [noTunnels] at length
        exact none (List.length_eq_zero_iff.mp length)
      have le := start_le_start less (mem_of_lookup_acls listed) (mem_of_lookup_acls listed')
      rw [canonical.1.disjoint_iff canonical'.1 le none, canonical.2]
      exact roomy lesser greater acl acl' listed listed' nonempty less
  cases lt_or_gt_of_ne different with
  | inl less => exact ordered listed listed' canonical canonical' less
  | inr greater => exact (ordered listed' listed canonical' canonical greater).symm

/-- Every ACL that has been resolved has the VIDs that it would have got first. -/
def Canonical (config : TopConf AclName) (resolution : Resolution AclName) : Prop :=
  ∀ aclName ∈ resolution.portsResolved, ∃ acl ids, config.acls.lookup aclName = some acl ∧
    IsCanonical config aclName acl ids ∧
    resolution.tunnelDests aclName = ids.zip (config.destinations acl.tunnels)

/-- The VIDs that an ACL would have got first are unused until it is resolved. -/
theorem Canonical.unused (canonical : Canonical config resolution) (roomy : Roomy config)
    (sound : Resolved config resolution) (listed : config.acls.lookup aclName = some acl)
    (notYet : aclName ∉ resolution.portsResolved) {ids : List Vid}
    (own : IsCanonical config aclName acl ids) : ∀ id ∈ ids, id ∉ vids resolution.vlans := by
  intro id member isUsed
  cases (sound.used id).mp isUsed with
  | inl configured => exact own.1.free id member configured
  | inr some =>
      obtain ⟨other, dst, listedDst⟩ := some
      have otherResolved : other ∈ resolution.portsResolved := by
        by_contra notResolved
        rw [sound.notYet other notResolved] at listedDst
        cases listedDst
      obtain ⟨acl', ids', listed', canonical', dests⟩ := canonical other otherResolved
      have different : aclName ≠ other := by
        intro same
        exact notYet (same ▸ otherResolved)
      rw [dests] at listedDst
      exact roomy.disjoint listed listed' own canonical' different member (List.of_mem_zip listedDst).1

/-- The first VIDs among the configured ones are the first among those used now. -/
theorem Canonical.isFirst (canonical : Canonical config resolution) (roomy : Roomy config)
    (sound : Resolved config resolution) (listed : config.acls.lookup aclName = some acl)
    (notYet : aclName ∉ resolution.portsResolved) {ids : List Vid}
    (own : IsCanonical config aclName acl ids) :
    IsFirst (· ∈ vids resolution.vlans) (config.start aclName) ids :=
  own.1.widen (fun id configured => (sound.used id).mpr (.inl configured))
    (canonical.unused roomy sound listed notYet own)

/-- **With room an ACL gets the same VIDs whenever it is resolved.** -/
theorem Canonical.resolveAcl (canonical : Canonical config resolution) (roomy : Roomy config)
    (automatic : Automatic config) (sound : Resolved config resolution)
    (resolved : config.resolveAcl resolution reference = .ok next) : Canonical config next := by
  obtain ⟨acl, listed, cases'⟩ := resolveAcl_cases automatic sound.openVids' resolved
  cases cases' with
  | inl before => rwa [before.2]
  | inr fresh =>
      obtain ⟨notBefore, tunnels, ids, allocating, _, rfl⟩ := fresh
      intro aclName isResolved
      by_cases same : aclName = reference.1
      · obtain ⟨first, own⟩ := exists_canonical config reference.1 acl
        have eq : ids = first := allocating.first.unique
          (canonical.isFirst roomy sound listed notBefore own) (allocating.length.trans own.2.symm)
        rw [same]
        refine ⟨acl, first, listed, own, ?_⟩
        rw [← eq]
        exact (Function.update_self _ _ _).trans allocating.dests
      · obtain ⟨acl', ids', listed', own', dests⟩ :=
          canonical aclName ((List.mem_cons.mp isResolved).resolve_left same)
        exact ⟨acl', ids', listed', own', (Function.update_of_ne same _ _).trans dests⟩

theorem Canonical.foldlM (canonical : Canonical config resolution) (roomy : Roomy config)
    (automatic : Automatic config) (sound : Resolved config resolution)
    {references : List (AclName × Option Vid)} {final : Resolution AclName}
    (resolved : references.foldlM config.resolveAcl resolution = .ok final) : Canonical config final := by
  induction references generalizing resolution with
  | nil =>
      cases resolved
      exact canonical
  | cons reference references ih =>
      obtain ⟨next, first, rest⟩ := foldlM_cons_ok resolved
      exact ih (canonical.resolveAcl roomy automatic sound first) (sound.resolveAcl automatic first) rest

/-- The ACL can be resolved: its destinations are found and its VIDs are valid. -/
def Resolvable (config : TopConf AclName) (aclName : AclName) (acl : Acl) : Prop :=
  (∀ tunnel ∈ acl.tunnels, ∃ dst, config.resolveDst tunnel = .ok dst) ∧
    (acl.tunnels ≠ [] → config.startPos config.vlans aclName = .ok (config.start aclName)) ∧
    ∀ ids, IsCanonical config aclName acl ids → ∀ id ∈ ids, minVid ≤ id ∧ id ≤ maxVid

/-- **With room an ACL can be resolved at any time.** -/
theorem Canonical.resolveAcl_ok (canonical : Canonical config resolution) (roomy : Roomy config)
    (automatic : Automatic config) (sound : Resolved config resolution)
    (listed : config.acls.lookup aclName = some acl) (resolvable : Resolvable config aclName acl) :
    ∃ next, config.resolveAcl resolution (aclName, none) = .ok next := by
  unfold TopConf.resolveAcl
  dsimp only
  rw [listed]
  dsimp only
  split
  next => exact ⟨_, rfl⟩
  next notYet =>
    obtain ⟨found, starts, valid⟩ := resolvable
    obtain ⟨ids, own⟩ := exists_canonical config aclName acl
    have folded : ∃ tunnels, acl.tunnels.foldlM (config.resolveTunnel aclName none)
        { vlans := resolution.vlans, tunnelDstsToVlan := [], tunnelDests := [] } = .ok tunnels := by
      by_cases nonempty : acl.tunnels = []
      · rw [nonempty]
        exact ⟨_, rfl⟩
      · have starts' : config.startPos resolution.vlans aclName = .ok (config.start aclName) := by
          rw [startPos_congr sound.openVids', starts nonempty]
        exact Allocating.nil.foldlM_ok starts' (automatic.of_lookup listed) found
          (canonical.isFirst roomy sound listed notYet own) own.2 (valid ids own)
    obtain ⟨tunnels, eq⟩ := folded
    rw [eq]
    exact ⟨_, rfl⟩

theorem Canonical.foldlM_ok (canonical : Canonical config resolution) (roomy : Roomy config)
    (automatic : Automatic config) (sound : Resolved config resolution) {names : List AclName}
    (resolvable : ∀ aclName ∈ names, ∃ acl, config.acls.lookup aclName = some acl ∧
      Resolvable config aclName acl) :
    ∃ final, (names.map (·, none)).foldlM config.resolveAcl resolution = .ok final := by
  induction names generalizing resolution with
  | nil => exact ⟨resolution, rfl⟩
  | cons aclName names ih =>
      obtain ⟨acl, listed, isResolvable⟩ := resolvable aclName List.mem_cons_self
      obtain ⟨next, first⟩ := canonical.resolveAcl_ok roomy automatic sound listed isResolvable
      obtain ⟨final, rest⟩ := ih (canonical.resolveAcl roomy automatic sound first)
        (sound.resolveAcl automatic first) fun other later => resolvable other (List.mem_cons_of_mem _ later)
      refine ⟨final, ?_⟩
      rw [List.map_cons, List.foldlM_cons, first]
      exact rest

/-! ## Agreement -/

/-- The DPs are accepted. -/
structure Accepted (config : TopConf AclName) : Prop where
  someDp : config.dps ≠ []
  resolved : ∀ dp ∈ config.dps, ∃ resolution, config.resolveAcls dp = .ok resolution

/-- **The DPs agree** on the VID of every tunnel, distinct tunnels have distinct VIDs that
no configured VLAN has, and the order in which a DP resolves its ACLs makes no
difference. -/
structure TunnelsAgree (config : TopConf AclName) : Prop where
  agree : ∀ dp ∈ config.dps, ∀ dp' ∈ config.dps, ∀ resolution resolution',
    config.resolveAcls dp = .ok resolution → config.resolveAcls dp' = .ok resolution' →
    ∀ aclName vid dst, (vid, dst) ∈ resolution.tunnelDests aclName ↔
      (vid, dst) ∈ resolution'.tunnelDests aclName
  allocated : ∀ dp ∈ config.dps, ∀ resolution, config.resolveAcls dp = .ok resolution →
    ∀ aclName acl, config.acls.lookup aclName = some acl → ∀ tunnel ∈ acl.tunnels,
      ∃ vid dst, config.resolveDst tunnel = .ok dst ∧ (vid, dst) ∈ resolution.tunnelDests aclName
  distinct : ∀ dp ∈ config.dps, ∀ resolution, config.resolveAcls dp = .ok resolution →
    ∀ aclName other vid vid' dst dst', (vid, dst) ∈ resolution.tunnelDests aclName →
      (vid', dst') ∈ resolution.tunnelDests other →
      (vid = vid' ↔ aclName = other ∧ dst = dst')
  unconfigured : ∀ dp ∈ config.dps, ∀ resolution, config.resolveAcls dp = .ok resolution →
    ∀ aclName vid dst, (vid, dst) ∈ resolution.tunnelDests aclName → vid ∉ vids config.vlans
  anyOrder : ∀ dp ∈ config.dps, ∀ resolution, config.resolveAcls dp = .ok resolution →
    ∀ names : List AclName, (∀ aclName ∈ names, (config.acls.lookup aclName).isSome) →
      ∃ resolution', config.resolveReferences ((names ++ config.tunnelAcls).map (·, none)) =
          .ok resolution' ∧
        ∀ aclName vid dst, (vid, dst) ∈ resolution'.tunnelDests aclName ↔
          (vid, dst) ∈ resolution.tunnelDests aclName

theorem resolveAcls_eq_ok {dp : Dp AclName} (accepted : config.resolveAcls dp = .ok resolution) :
    config.resolveReferences (config.references dp) = .ok resolution := by
  unfold TopConf.resolveAcls at accepted
  split at accepted
  · cases accepted
  · exact accepted

theorem mem_tunnelAcls (listed : config.acls.lookup aclName = some acl) (nonempty : acl.tunnels ≠ []) :
    aclName ∈ config.tunnelAcls := by
  refine List.mem_map.mpr ⟨_, List.mem_filter.mpr ⟨OrderedDict.mem_of_lookup listed, ?_⟩, rfl⟩
  rw [Acl.isTunnelAcl, Bool.not_eq_true', List.isEmpty_eq_false_iff]
  exact nonempty

/-- What a list of ACLs leads to that ends with all tunnel ACLs. -/
theorem resolveReferences_sound (automatic : Automatic config)
    {references : List (AclName × Option Vid)}
    (resolved : config.resolveReferences (references ++ config.tunnelAcls.map (·, none)) =
      .ok resolution) :
    Resolved config resolution ∧ ∀ aclName acl, config.acls.lookup aclName = some acl →
      acl.tunnels ≠ [] → ∃ ids, AclResolved config resolution aclName acl ids := by
  obtain ⟨sound, all, _⟩ := initial_resolved.foldlM automatic resolved
  refine ⟨sound, fun aclName acl listed nonempty => ?_⟩
  have isResolved := all (aclName, none) (List.mem_append_right _
    (List.mem_map.mpr ⟨aclName, mem_tunnelAcls listed nonempty, rfl⟩))
  obtain ⟨acl', ids, listed', own⟩ := sound.own aclName isResolved
  cases listed.symm.trans listed'
  exact ⟨ids, own⟩

theorem initial_canonical : Canonical config config.initial := nofun

/-- With room two orders lead to the same VIDs. -/
theorem tunnelDests_eq (automatic : Automatic config) (roomy : Roomy config)
    {references references' : List (AclName × Option Vid)} {resolution' : Resolution AclName}
    (resolved : config.resolveReferences (references ++ config.tunnelAcls.map (·, none)) =
      .ok resolution)
    (resolved' : config.resolveReferences (references' ++ config.tunnelAcls.map (·, none)) =
      .ok resolution') : resolution.tunnelDests = resolution'.tunnelDests := by
  have without : ∀ {references : List (AclName × Option Vid)} {resolution : Resolution AclName},
      config.resolveReferences (references ++ config.tunnelAcls.map (·, none)) = .ok resolution →
      ∀ aclName, (∀ acl, config.acls.lookup aclName = some acl → acl.tunnels = []) →
      resolution.tunnelDests aclName = [] := by
    intro references resolution resolved aclName noTunnels
    obtain ⟨sound, _⟩ := resolveReferences_sound automatic resolved
    by_cases isResolved : aclName ∈ resolution.portsResolved
    · obtain ⟨acl, ids, listed, own⟩ := sound.own aclName isResolved
      rw [own.dests, noTunnels acl listed]
      exact List.zip_nil_right
    · exact sound.notYet aclName isResolved
  have withTunnels : ∀ {references : List (AclName × Option Vid)} {resolution : Resolution AclName},
      config.resolveReferences (references ++ config.tunnelAcls.map (·, none)) = .ok resolution →
      ∀ aclName acl ids, config.acls.lookup aclName = some acl → acl.tunnels ≠ [] →
      IsCanonical config aclName acl ids →
      resolution.tunnelDests aclName = ids.zip (config.destinations acl.tunnels) := by
    intro references resolution resolved aclName acl ids listed nonempty canonical
    obtain ⟨_, all, _⟩ := initial_resolved.foldlM automatic resolved
    have isResolved := all (aclName, none) (List.mem_append_right _
      (List.mem_map.mpr ⟨aclName, mem_tunnelAcls listed nonempty, rfl⟩))
    obtain ⟨acl', ids', listed', canonical', dests⟩ :=
      initial_canonical.foldlM roomy automatic initial_resolved resolved aclName isResolved
    cases listed.symm.trans listed'
    rw [dests, canonical.unique canonical']
  funext aclName
  by_cases noTunnels : ∀ acl, config.acls.lookup aclName = some acl → acl.tunnels = []
  · rw [without resolved aclName noTunnels, without resolved' aclName noTunnels]
  · simp only [not_forall] at noTunnels
    obtain ⟨acl, listed, nonempty⟩ := noTunnels
    obtain ⟨ids, canonical⟩ := exists_canonical config aclName acl
    rw [withTunnels resolved aclName acl ids listed nonempty canonical,
      withTunnels resolved' aclName acl ids listed nonempty canonical]

/-- One ACL has one VID for a destination and the other way round. -/
theorem AclResolved.eq_iff {ids : List Vid} (own : AclResolved config resolution aclName acl ids)
    {vid vid' : Vid} {dst dst' : Dst} (member : (vid, dst) ∈ resolution.tunnelDests aclName)
    (member' : (vid', dst') ∈ resolution.tunnelDests aclName) : vid = vid' ↔ dst = dst' := by
  rw [own.dests] at member member'
  constructor
  · intro same
    have nodup : ((ids.zip (config.destinations acl.tunnels)).map Prod.fst).Nodup := by
      rw [List.map_fst_zip own.length.le]
      exact own.nodup
    exact congrArg Prod.snd (List.inj_on_of_nodup_map nodup member member' same)
  · intro same
    have nodup : ((ids.zip (config.destinations acl.tunnels)).map Prod.snd).Nodup := by
      rw [List.map_snd_zip own.length.ge]
      exact destinations_nodup _
    exact congrArg Prod.fst (List.inj_on_of_nodup_map nodup member member' same)

/-- Distinct tunnels of a DP have distinct VIDs. -/
theorem Resolved.eq_iff (sound : Resolved config resolution) {vid vid' : Vid} {dst dst' : Dst}
    (member : (vid, dst) ∈ resolution.tunnelDests aclName)
    (member' : (vid', dst') ∈ resolution.tunnelDests other) :
    vid = vid' ↔ aclName = other ∧ dst = dst' := by
  have isResolved : aclName ∈ resolution.portsResolved := by
    by_contra notResolved
    rw [sound.notYet aclName notResolved] at member
    cases member
  by_cases same : aclName = other
  · subst same
    obtain ⟨acl, ids, _, own⟩ := sound.own aclName isResolved
    rw [own.eq_iff member member']
    exact (and_iff_right rfl).symm
  · constructor
    · intro sameVid
      rw [← sameVid] at member'
      exact absurd member' (sound.apart aclName other same vid dst dst' member)
    · exact fun both => absurd both.1 same

/-- What a DP that is accepted shows of an ACL. -/
theorem resolvable_of_accepted (automatic : Automatic config) (roomy : Roomy config)
    {references : List (AclName × Option Vid)}
    (resolved : config.resolveReferences (references ++ config.tunnelAcls.map (·, none)) =
      .ok resolution) (listed : config.acls.lookup aclName = some acl) :
    Resolvable config aclName acl := by
  by_cases noTunnels : acl.tunnels = []
  · unfold Resolvable
    rw [noTunnels]
    refine ⟨by simp, fun nonempty => absurd rfl nonempty, fun ids canonical id member => ?_⟩
    have length := canonical.2
    rw [noTunnels] at length
    rw [List.length_eq_zero_iff.mp length] at member
    cases member
  · obtain ⟨_, tunnelAcls⟩ := resolveReferences_sound automatic resolved
    obtain ⟨ids, own⟩ := tunnelAcls aclName acl listed noTunnels
    refine ⟨own.found, own.starts, fun ids' canonical id member => ?_⟩
    obtain ⟨_, all, _⟩ := initial_resolved.foldlM automatic resolved
    have isResolved := all (aclName, none) (List.mem_append_right _
      (List.mem_map.mpr ⟨aclName, mem_tunnelAcls listed noTunnels, rfl⟩))
    obtain ⟨acl', ids'', listed', canonical', dests⟩ :=
      initial_canonical.foldlM roomy automatic initial_resolved resolved aclName isResolved
    cases listed.symm.trans listed'
    rw [canonical.unique canonical'] at member
    obtain ⟨dst, inZip⟩ := exists_mem_zip canonical'.2.le member
    exact own.valid id (own.mem_dests.mpr ⟨dst, dests ▸ inZip⟩)

/-- An ACL that is resolved first has its first VIDs. -/
theorem canonical_of_first (automatic : Automatic config)
    (listed : config.acls.lookup aclName = some acl)
    (resolved : config.resolveReferences (([aclName] ++ config.tunnelAcls).map (·, none)) =
      .ok resolution) :
    ∃ ids, IsCanonical config aclName acl ids ∧
      resolution.tunnelDests aclName = ids.zip (config.destinations acl.tunnels) := by
  obtain ⟨next, first, rest⟩ := foldlM_cons_ok resolved
  obtain ⟨acl', listed', cases'⟩ := resolveAcl_cases automatic rfl first
  cases listed.symm.trans listed'
  obtain ⟨named, _⟩ := resolveAcl_keeps automatic initial_resolved first
  obtain ⟨_, _, kept⟩ := (initial_resolved.resolveAcl automatic first).foldlM automatic rest
  cases cases' with
  | inl before => cases before.1
  | inr fresh =>
      obtain ⟨_, tunnels, ids, allocating, _, rfl⟩ := fresh
      refine ⟨ids, ⟨allocating.first, allocating.length⟩, (kept aclName named).2.trans ?_⟩
      exact (Function.update_self _ _ _).trans allocating.dests

/-- **The DPs agree exactly when there is room for every ACL.** -/
theorem tunnelsAgree_iff (automatic : Automatic config) (accepted : Accepted config) :
    TunnelsAgree config ↔ Roomy config := by
  constructor
  · intro tunnelsAgree earlier later acl acl' listed listed' nonempty less
    by_cases noTunnels : acl.tunnels = []
    · rw [noTunnels]
      exact Nat.zero_le _
    · obtain ⟨dp, dps, dpsEq⟩ := List.exists_cons_of_ne_nil accepted.someDp
      have member : dp ∈ config.dps := dpsEq ▸ List.mem_cons_self
      obtain ⟨resolution, resolved⟩ := accepted.resolved dp member
      -- Each of the two comes first in an order of its own, and both orders have one result.
      obtain ⟨one, first, sameOne⟩ := tunnelsAgree.anyOrder dp member resolution resolved [earlier]
        fun name isName => by rw [List.mem_singleton.mp isName, listed]; rfl
      obtain ⟨two, second, sameTwo⟩ := tunnelsAgree.anyOrder dp member resolution resolved [later]
        fun name isName => by rw [List.mem_singleton.mp isName, listed']; rfl
      obtain ⟨ids, canonical, dests⟩ := canonical_of_first automatic listed first
      obtain ⟨ids', canonical', dests'⟩ := canonical_of_first automatic listed' second
      obtain ⟨_, tunnelAcls⟩ := resolveReferences_sound automatic (resolveAcls_eq_ok resolved)
      obtain ⟨_, own⟩ := tunnelAcls later acl' listed' nonempty
      have le := start_le_start less (mem_of_lookup_acls listed) (mem_of_lookup_acls listed')
      have disjoint : ids.Disjoint ids' := by
        intro vid inFirst inSecond
        obtain ⟨dst, inZip⟩ := exists_mem_zip canonical.2.le inFirst
        obtain ⟨dst', inZip'⟩ := exists_mem_zip canonical'.2.le inSecond
        rw [← dests] at inZip
        rw [← dests'] at inZip'
        have same := (tunnelsAgree.distinct dp member resolution resolved earlier later vid vid dst dst'
          ((sameOne _ _ _).mp inZip) ((sameTwo _ _ _).mp inZip')).mp rfl
        exact absurd same.1 less.ne
      rw [← canonical.2]
      exact (canonical.1.disjoint_iff canonical'.1 le
        (canonical'.ne_nil own.found nonempty)).mp disjoint
  · intro roomy
    constructor
    · intro dp _ dp' _ resolution resolution' resolved resolved' aclName vid dst
      rw [tunnelDests_eq automatic roomy (resolveAcls_eq_ok resolved) (resolveAcls_eq_ok resolved')]
    · intro dp _ resolution resolved aclName acl listed tunnel member
      have nonempty : acl.tunnels ≠ [] := List.ne_nil_of_mem member
      obtain ⟨_, tunnelAcls⟩ := resolveReferences_sound automatic (resolveAcls_eq_ok resolved)
      obtain ⟨ids, own⟩ := tunnelAcls aclName acl listed nonempty
      obtain ⟨dst, found⟩ := own.found tunnel member
      have isDst : dst ∈ (ids.zip (config.destinations acl.tunnels)).map Prod.snd := by
        rw [List.map_snd_zip own.length.ge]
        unfold TopConf.destinations
        rw [OrderedDict.mem_values_id]
        exact List.mem_filterMap.mpr ⟨tunnel, member, by rw [found]; rfl⟩
      obtain ⟨pair, inZip, rfl⟩ := List.mem_map.mp isDst
      exact ⟨pair.1, pair.2, found, own.dests ▸ inZip⟩
    · intro dp _ resolution resolved aclName other vid vid' dst dst' member member'
      exact (resolveReferences_sound automatic (resolveAcls_eq_ok resolved)).1.eq_iff member member'
    · intro dp _ resolution resolved aclName vid dst member configured
      obtain ⟨sound, _⟩ := resolveReferences_sound automatic (resolveAcls_eq_ok resolved)
      have isResolved : aclName ∈ resolution.portsResolved := by
        by_contra notResolved
        rw [sound.notYet aclName notResolved] at member
        cases member
      obtain ⟨acl, ids, _, own⟩ := sound.own aclName isResolved
      exact own.unconfigured vid (own.mem_dests.mpr ⟨dst, member⟩) configured
    · intro dp _ resolution resolved names known
      have resolvable : ∀ aclName ∈ names ++ config.tunnelAcls, ∃ acl,
          config.acls.lookup aclName = some acl ∧ Resolvable config aclName acl := by
        intro aclName member
        have isSome : ∃ acl, config.acls.lookup aclName = some acl := by
          cases List.mem_append.mp member with
          | inl inNames => exact Option.isSome_iff_exists.mp (known aclName inNames)
          | inr isTunnel =>
              obtain ⟨entry, inAcls, rfl⟩ := List.mem_map.mp isTunnel
              rw [← Option.isSome_iff_exists, List.lookup_isSome_iff]
              exact ⟨entry, (List.mem_filter.mp inAcls).1, beq_self_eq_true _⟩
        obtain ⟨acl, listed⟩ := isSome
        exact ⟨acl, listed,
          resolvable_of_accepted automatic roomy (resolveAcls_eq_ok resolved) listed⟩
      obtain ⟨resolution', resolved'⟩ :=
        initial_canonical.foldlM_ok roomy automatic initial_resolved resolvable
      refine ⟨resolution', resolved', fun aclName vid dst => ?_⟩
      have split : config.resolveReferences
          (names.map (·, none) ++ config.tunnelAcls.map (·, none)) = .ok resolution' := by
        rw [← List.map_append]
        exact resolved'
      rw [tunnelDests_eq automatic roomy split (resolveAcls_eq_ok resolved)]

end Runs

/-! ## A configuration -/

/-- A DP with ports 1 to 4, the first of which has the ACLs. -/
def labDp (name : String) (aclsIn : List ℕ) : Dp ℕ where
  name := name
  ports := [⟨1, "1", false, aclsIn, false, false⟩, ⟨2, "2", false, [], false, false⟩,
    ⟨3, "3", false, [], false, false⟩, ⟨4, "4", false, [], false, false⟩]
  authAcl := none
  noauthAcl := none
  dpAcls := []

/-- A tunnel to a port. -/
def labTunnel (port : ℕ) : Tunnel := ⟨"t1", some (.number port), none⟩

/-- Two DPs and two ACLs; the second DP refers to the second ACL, which has one tunnel. -/
def lab (ports : List ℕ) : TopConf ℕ where
  dps := [labDp "t1" [], labDp "t2" [2]]
  vlans := [⟨100, "100", false, [], []⟩]
  acls := [(1, ⟨[ports.map labTunnel], false⟩), (2, ⟨[[labTunnel 4]], false⟩)]
  aclsNodup := by simp

theorem lab_automatic (ports : List ℕ) : Automatic (lab ports) := by
  intro entry listed tunnel member
  cases List.mem_cons.mp listed with
  | inl first =>
      rw [first, Acl.tunnels, List.flatten_singleton] at member
      obtain ⟨port, _, rfl⟩ := List.mem_map.mp member
      rfl
  | inr second =>
      rw [List.mem_singleton.mp second, Acl.tunnels, List.flatten_singleton] at member
      rw [List.mem_singleton.mp member]
      rfl

theorem mem_lab_dps {ports : List ℕ} {dp : Dp ℕ} (member : dp ∈ (lab ports).dps) :
    dp = labDp "t1" [] ∨ dp = labDp "t2" [2] := by
  simpa [lab] using member

/-- With one destination each there is room. -/
theorem tunnelsAgree_lab : TunnelsAgree (lab [3]) := by
  refine (tunnelsAgree_iff (lab_automatic [3]) ⟨by decide, fun dp member => ?_⟩).mpr ?_
  · obtain rfl | rfl := mem_lab_dps member
    · exact ⟨_, rfl⟩
    · exact ⟨_, rfl⟩
  · intro earlier later acl acl' listed listed' _ less
    have isFirst : earlier = 1 ∧ later = 2 := by
      have one := mem_of_lookup_acls listed
      have two := mem_of_lookup_acls listed'
      simp only [lab, List.map_cons, List.map_nil, List.mem_cons, List.not_mem_nil, or_false] at one two
      omega
    obtain ⟨rfl, rfl⟩ := isFirst
    cases listed
    decide

/-- An ACL with three destinations has no room: the DP that resolves the other ACL first
gives it a VID that the other DP gives to the first ACL. -/
theorem not_tunnelsAgree_lab :
    ¬ ∀ config : TopConf ℕ, Automatic config → Accepted config → TunnelsAgree config := by
  intro always
  have accepted : Accepted (lab [1, 2, 3]) := by
    refine ⟨by decide, fun dp member => ?_⟩
    obtain rfl | rfl := mem_lab_dps member
    · exact ⟨_, rfl⟩
    · exact ⟨_, rfl⟩
  have tunnelsAgree := always (lab [1, 2, 3]) (lab_automatic [1, 2, 3]) accepted
  have same := tunnelsAgree.agree (labDp "t1" []) List.mem_cons_self (labDp "t2" [2])
    (List.mem_cons_of_mem _ List.mem_cons_self) _ _ rfl rfl 2 106 ⟨"t1", some 4⟩
  exact absurd (same.mp (by decide)) (by decide)

end Faucet.Config
