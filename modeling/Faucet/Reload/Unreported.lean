import Faucet.Reload.Changes

/-!
# What is not reported to be changed

Without a cold start the reported changes are complete: a port that is not reported has its
settings, its mirrors and its VLANs as before (`PortKept`), and a VLAN that is not reported has
its settings and its ports as before (`VlanKept`), but for descriptions. What is reported is there: a changed VLAN is
in both configurations, and a changed port in the new one (`Reported`).

The settings of a port have the keys of its VLANs. A key has to mean what it meant before, where
both VLANs are still there (`SameKeys`). Else a port goes into another VLAN and nothing is
reported (`moved_silently`).
-/

set_option autoImplicit false

namespace Faucet.Reload

open OpenFlow
open Flooding (Vid)
open KeyedChanges

variable {K R : Type}

/-! ## Ports and their VLANs -/

namespace Config

variable {config : Config K R} {port : PortConf K R} {vid : Vid} {vids : Finset Vid}
  {number : PortNo}

/-- The keys of the VLANs of a port. -/
def vlanKeys (port : PortConf K R) : List K :=
  port.settings.nativeVlan.toList ++ port.settings.taggedVlans

theorem mem_portVids : vid ∈ config.portVids port ↔
    ∃ key ∈ vlanKeys port, config.vlanByKey key = some vid := by
  simp only [portVids, nativeVlan, taggedVlans, vlanKeys, List.mem_toFinset, List.mem_append,
    List.mem_filterMap, Option.mem_toList, Option.bind_eq_some_iff, or_and_right, exists_or]

theorem vlan_of_portVids (known : port ∈ config.ports) (isIn : vid ∈ config.portVids port) :
    ∃ vlan ∈ config.vlans, vlan.vid = vid := by
  obtain ⟨key, listed, isKey⟩ := mem_portVids.mp isIn
  obtain ⟨vlan, there, isKey'⟩ := config.keys port known key listed
  exact ⟨vlan, there, Option.some.inj (isKey'.symm.trans isKey)⟩

theorem mem_vlanPorts : port ∈ config.vlanPorts vid ↔
    port ∈ config.ports ∧ vid ∈ config.portVids port := by
  simp only [vlanPorts, portVids, List.mem_append, List.mem_filter, decide_eq_true_eq,
    List.mem_toFinset, Option.mem_toList, ← and_or_left]
  exact and_congr_right fun _ => or_comm

theorem mem_portsOf : number ∈ config.portsOf vids ↔
    ∃ port ∈ config.ports, port.number = number ∧ ∃ vid ∈ config.portVids port, vid ∈ vids := by
  simp only [portsOf, List.mem_toFinset, List.mem_flatMap, List.mem_filter, List.mem_map,
    decide_eq_true_eq, mem_vlanPorts]
  constructor
  · rintro ⟨vlan, ⟨_, listed⟩, port, ⟨known, isIn⟩, isNumber⟩
    exact ⟨port, known, isNumber, vlan.vid, isIn, listed⟩
  · rintro ⟨port, known, isNumber, vid, isIn, listed⟩
    obtain ⟨vlan, there, rfl⟩ := vlan_of_portVids known isIn
    exact ⟨vlan, ⟨there, listed⟩, port, ⟨known, isIn⟩, isNumber⟩

theorem port?_eq (known : port ∈ config.ports) (isNumber : port.number = number) :
    config.port? number = some port := find?_eq_some config.numbers known isNumber

theorem vlan?_eq {vlan : VlanConf K R} (known : vlan ∈ config.vlans) (isVid : vlan.vid = vid) :
    config.vlan? vid = some vlan := find?_eq_some config.vids known isVid

theorem vidsOf_eq (known : port ∈ config.ports) (isNumber : port.number = number) :
    config.vidsOf number = config.portVids port := by
  rw [vidsOf, port?_eq known isNumber, Option.elim_some]

/-- A VLAN of a port is there. -/
theorem vlan_of_vidsOf (isIn : vid ∈ config.vidsOf number) : vid ∈ config.vlans.map (·.vid) := by
  rw [vidsOf] at isIn
  cases found : config.port? number with
  | none =>
      rw [found] at isIn
      cases isIn
  | some port =>
      rw [found] at isIn
      exact List.mem_map.mpr (vlan_of_portVids (List.mem_of_find?_eq_some found) isIn)

end Config

/-! ## What stays -/

variable (old new : Config K R)

/-- A key stands for a VLAN as before, where the VLAN is there in both configurations. -/
def SameKeys : Prop := ∀ key vid,
  (new.vlanByKey key = some vid → vid ∈ old.vlans.map (·.vid) → old.vlanByKey key = some vid) ∧
    (old.vlanByKey key = some vid → vid ∈ new.vlans.map (·.vid) → new.vlanByKey key = some vid)

variable {old new} in
theorem sameKeys_of_eq (same : old.vlanByKey = new.vlanByKey) : SameKeys old new :=
  fun _ _ => ⟨fun isKey _ => same ▸ isKey, fun isKey _ => same ▸ isKey⟩

/-- The ACLs and their contents are the same. -/
structure AclsKept (ids ids' : List K) : Prop where
  ids : ids = ids'
  contents : ∀ acl ∈ new.acls, acl.1 ∈ ids' → acl ∈ old.acls

/-- The VLAN has the same settings apart from the description, the same ports and, unless it is
reported for its ACLs, ACLs. -/
structure VlanKept (aclVlans : Finset Vid) (vid : Vid) (vlan vlan' : VlanConf K R) : Prop where
  settings : vlan.settings.withoutDescription = vlan'.settings.withoutDescription
  ports : ∀ number, number ∈ (old.vlanPorts vid).map (·.number) ↔
    number ∈ (new.vlanPorts vid).map (·.number)
  acls : vid ∉ aclVlans → AclsKept old new vlan.aclsIn vlan'.aclsIn

/-- The port has the same settings apart from the description, the same mirrors, VLANs and,
unless it is reported for its ACLs, ACLs. Its VLANs have the same settings and ACLs, too. -/
structure PortKept (aclPorts : Finset PortNo) (port port' : PortConf K R) : Prop where
  settings : port.settings.withoutDescription = port'.settings.withoutDescription
  mirror : port.mirror = port'.mirror
  nativeVlan : old.nativeVlan port = new.nativeVlan port'
  taggedVlans : old.taggedVlans port = new.taggedVlans port'
  vlans : ∀ vid ∈ new.portVids port', ∃ vlan ∈ old.vlans, ∃ vlan' ∈ new.vlans, vlan.vid = vid ∧
    vlan'.vid = vid ∧
      vlan.settings.withoutDescription = vlan'.settings.withoutDescription ∧
        AclsKept old new vlan.aclsIn vlan'.aclsIn
  acls : port.number ∉ aclPorts → AclsKept old new port.aclsIn port'.aclsIn

/-- What is reported is there, and what is not reported stays. -/
structure Reported (changes : Changes K) : Prop where
  deletedPorts : ∀ number, number ∈ changes.deletedPorts ↔
    number ∈ old.ports.map (·.number) ∧ number ∉ new.ports.map (·.number)
  addedPorts : ∀ number, number ∈ changes.addedPorts ↔
    number ∈ new.ports.map (·.number) ∧ number ∉ old.ports.map (·.number)
  changedPorts : ∀ number ∈ changes.changedPorts, number ∈ new.ports.map (·.number)
  changedAclPorts : ∀ number ∈ changes.changedAclPorts,
    number ∈ old.ports.map (·.number) ∧ number ∈ new.ports.map (·.number)
  deletedVlans : ∀ vid, vid ∈ changes.deletedVlans ↔
    vid ∈ old.vlans.map (·.vid) ∧ vid ∉ new.vlans.map (·.vid)
  addedVlans : ∀ vid, vid ∈ changes.addedVlans ↔
    vid ∈ new.vlans.map (·.vid) ∧ vid ∉ old.vlans.map (·.vid)
  changedVlans : ∀ vid ∈ changes.changedVlans,
    vid ∈ old.vlans.map (·.vid) ∧ vid ∈ new.vlans.map (·.vid)
  changedAclVlans : ∀ vid ∈ changes.changedAclVlans,
    vid ∈ old.vlans.map (·.vid) ∧ vid ∈ new.vlans.map (·.vid)
  ports : ∀ port ∈ old.ports, ∀ port' ∈ new.ports, port.number = port'.number →
    port.number ∉ changes.changedPorts → PortKept old new changes.changedAclPorts port port'
  vlans : ∀ vlan ∈ old.vlans, ∀ vlan' ∈ new.vlans, vlan.vid = vlan'.vid →
    vlan.vid ∉ changes.changedVlans → VlanKept old new changes.changedAclVlans vlan.vid vlan vlan'

/-! ## Comparisons -/

variable [DecidableEq K] [DecidableEq R] {old new} {number : PortNo} {vid : Vid}
  {port port' : PortConf K R} {vlan vlan' : VlanConf K R}

theorem alike_iff {S : Type} [DecidableEq S] {withoutDescription : S → S} {settings settings' : S} :
    alike withoutDescription settings settings' = true ↔
      withoutDescription settings = withoutDescription settings' := by
  rw [alike, decide_eq_true_iff]
  exact or_iff_right_of_imp (congrArg withoutDescription)

theorem aclsKept_of_not_refChanges {ids ids' : List K}
    (unchanged : aclRefChanges (changedAcls old new) ids ids' = false) :
    AclsKept old new ids ids' := by
  rw [aclRefChanges, Bool.or_eq_false_iff, decide_eq_false_iff_not, not_not,
    List.any_eq_false] at unchanged
  obtain ⟨noContent, same⟩ := unchanged
  refine ⟨same, fun acl known listed => ?_⟩
  have notChanged : acl.1 ∉ changedAcls old new := by simpa using noContent acl.1 listed
  simp only [changedAcls, Finset.mem_union, not_or, mem_added, not_and, not_not] at notChanged
  obtain ⟨there, unchanged⟩ := notChanged
  obtain ⟨earlier, known', isId⟩ := List.mem_map.mp (there (List.mem_map_of_mem known))
  have alike := alike_of_unchanged old.aclIds known' known isId rfl unchanged
  have same : earlier = acl := Prod.ext isId (of_decide_eq_true alike)
  exact same ▸ known'

/-- The settings of a VLAN that is in both and not reported. -/
theorem settings_of_vlan (known : vlan ∈ old.vlans) (known' : vlan' ∈ new.vlans)
    (isVid : vlan.vid = vid) (isVid' : vlan'.vid = vid)
    (unchanged : vid ∉ (vlanChanges old new).changed) :
    vlan.settings.withoutDescription = vlan'.settings.withoutDescription :=
  alike_iff.mp (alike_of_unchanged old.vids known known' isVid isVid' unchanged)

theorem settings_of_port (known : port ∈ old.ports) (known' : port' ∈ new.ports)
    (isNumber : port.number = number) (isNumber' : port'.number = number)
    (unchanged : number ∉ (portChanges old new).changed) :
    port.settings.withoutDescription = port'.settings.withoutDescription :=
  alike_iff.mp (alike_of_unchanged old.numbers known known' isNumber isNumber' unchanged)

/-- The ACLs of a VLAN with the same settings. -/
theorem acls_of_vlan (known : vlan ∈ old.vlans) (known' : vlan' ∈ new.vlans)
    (isVid : vlan.vid = vid) (isVid' : vlan'.vid = vid)
    (same : vlan.settings.withoutDescription = vlan'.settings.withoutDescription)
    (unreported : vid ∉ changedAclVlans old new) :
    AclsKept old new vlan.aclsIn vlan'.aclsIn := by
  refine aclsKept_of_not_refChanges (Bool.eq_false_of_not_eq_true fun changed => unreported ?_)
  refine Finset.mem_filter.mpr ⟨(mem_same old.vids).mpr
    ⟨vlan, known, vlan', known', isVid, isVid', alike_iff.mpr same⟩, ?_⟩
  rwa [Config.vlan?_eq known isVid, Config.vlan?_eq known' isVid']

theorem acls_of_port (known : port ∈ old.ports) (known' : port' ∈ new.ports)
    (isNumber : port.number = number) (isNumber' : port'.number = number)
    (same : port.settings.withoutDescription = port'.settings.withoutDescription)
    (unreported : number ∉ changedAclPorts old new) :
    AclsKept old new port.aclsIn port'.aclsIn := by
  refine aclsKept_of_not_refChanges (Bool.eq_false_of_not_eq_true fun changed => unreported ?_)
  refine Finset.mem_filter.mpr ⟨(mem_same old.numbers).mpr
    ⟨port, known, port', known', isNumber, isNumber', alike_iff.mpr same⟩, ?_⟩
  rwa [Config.port?_eq known isNumber, Config.port?_eq known' isNumber']

theorem mirror_of_port (known : port ∈ old.ports) (known' : port' ∈ new.ports)
    (isNumber : port.number = number) (isNumber' : port'.number = number)
    (same : port.settings.withoutDescription = port'.settings.withoutDescription)
    (unreported : number ∉ remirrored old new) :
    port.mirror = port'.mirror := by
  by_contra other
  refine unreported (Finset.mem_filter.mpr ⟨(mem_same old.numbers).mpr
    ⟨port, known, port', known', isNumber, isNumber', alike_iff.mpr same⟩, ?_⟩)
  rw [Config.port?_eq known isNumber, Config.port?_eq known' isNumber']
  exact fun mirrors => other (Option.some.inj mirrors)

/-! ## VLANs of ports -/

/-- The VLAN of a port that is not reported is not reported either. -/
theorem vlan_of_unreported (known' : port' ∈ new.ports) (isNumber' : port'.number = number)
    (direct : number ∉ directlyChanged old new)
    (inVlans : number ∉ new.portsOf ((vlanChanges old new).added ∪ (vlanChanges old new).changed))
    (isIn : vid ∈ new.portVids port') :
    ∃ vlan ∈ old.vlans, ∃ vlan' ∈ new.vlans, vlan.vid = vid ∧ vlan'.vid = vid ∧
      vlan.settings.withoutDescription = vlan'.settings.withoutDescription ∧
        AclsKept old new vlan.aclsIn vlan'.aclsIn := by
  have outside : vid ∉ (vlanChanges old new).added ∪ (vlanChanges old new).changed :=
    fun reported => inVlans (Config.mem_portsOf.mpr ⟨port', known', isNumber', vid, isIn, reported⟩)
  rw [Finset.mem_union, not_or] at outside
  obtain ⟨notAdded, notChanged⟩ := outside
  obtain ⟨vlan', there', isVid'⟩ := Config.vlan_of_portVids known' isIn
  have before : vid ∈ old.vlans.map (·.vid) := by
    by_contra absent
    exact notAdded (mem_added.mpr ⟨List.mem_map.mpr ⟨vlan', there', isVid'⟩, absent⟩)
  obtain ⟨vlan, there, isVid⟩ := List.mem_map.mp before
  have same := settings_of_vlan there there' isVid isVid' notChanged
  refine ⟨vlan, there, vlan', there', isVid, isVid', same,
    acls_of_vlan there there' isVid isVid' same fun reported => direct ?_⟩
  exact Finset.mem_union_right _
    (Config.mem_portsOf.mpr ⟨port', known', isNumber', vid, isIn, reported⟩)

omit [DecidableEq K] [DecidableEq R] in
/-- The same settings have the same keys of VLANs. -/
theorem vlanKeys_of_alike
    (same : port.settings.withoutDescription = port'.settings.withoutDescription) :
    port.settings.nativeVlan = port'.settings.nativeVlan ∧
      port.settings.taggedVlans = port'.settings.taggedVlans := by
  have native := congrArg PortSettings.nativeVlan same
  have tagged := congrArg PortSettings.taggedVlans same
  exact ⟨native, tagged⟩

/-- A key of a port that is not reported means the same VLAN. -/
theorem vlanByKey_of_unreported (keys : SameKeys old new) (known' : port' ∈ new.ports)
    (isNumber' : port'.number = number)
    (same : port.settings.withoutDescription = port'.settings.withoutDescription)
    (direct : number ∉ directlyChanged old new)
    (inVlans : number ∉ new.portsOf ((vlanChanges old new).added ∪ (vlanChanges old new).changed))
    {key : K} (listed : key ∈ Config.vlanKeys port) : old.vlanByKey key = new.vlanByKey key := by
  have listed' : key ∈ Config.vlanKeys port' := by
    rw [Config.vlanKeys, ← (vlanKeys_of_alike same).1, ← (vlanKeys_of_alike same).2]
    exact listed
  obtain ⟨vlan', _, isKey'⟩ := new.keys port' known' key listed'
  obtain ⟨vlan, there, _, _, isVid, _⟩ := vlan_of_unreported known' isNumber' direct inVlans
    (Config.mem_portVids.mpr ⟨key, listed', isKey'⟩)
  rw [isKey']
  exact (keys key vlan'.vid).1 isKey' (List.mem_map.mpr ⟨vlan, there, isVid⟩)

/-- **A port that is not reported** stays as it is. -/
theorem portKept_of_unreported (keys : SameKeys old new) (known : port ∈ old.ports)
    (known' : port' ∈ new.ports) (isNumber : port.number = number)
    (isNumber' : port'.number = number) (direct : number ∉ directlyChanged old new)
    (mirrors : number ∉ remirrored old new)
    (inVlans : number ∉ new.portsOf ((vlanChanges old new).added ∪ (vlanChanges old new).changed)) :
    PortKept old new (changedAclPorts old new) port port' := by
  have same := settings_of_port known known' isNumber isNumber'
    fun changed => direct (Finset.mem_union_left _ changed)
  have byKey : ∀ key ∈ Config.vlanKeys port, old.vlanByKey key = new.vlanByKey key :=
    fun key listed => vlanByKey_of_unreported keys known' isNumber' same direct inVlans listed
  refine ⟨same, mirror_of_port known known' isNumber isNumber' same mirrors, ?_, ?_,
    fun vid isIn => vlan_of_unreported known' isNumber' direct inVlans isIn,
    fun unreported => acls_of_port known known' isNumber isNumber' same (isNumber ▸ unreported)⟩
  · rw [Config.nativeVlan, Config.nativeVlan, ← (vlanKeys_of_alike same).1]
    cases native : port.settings.nativeVlan with
    | none => rfl
    | some key =>
        refine byKey key (List.mem_append_left _ ?_)
        rw [native, Option.toList_some]
        exact List.mem_singleton_self key
  · rw [Config.taggedVlans, Config.taggedVlans, ← (vlanKeys_of_alike same).2]
    exact List.filterMap_congr fun key listed => byKey key (List.mem_append_right _ listed)

/-- The VLANs that a port joins or leaves are reported, unless they are new or gone. -/
theorem portVids_of_unreported (keys : SameKeys old new) (known : port ∈ old.ports)
    (known' : port' ∈ new.ports) (isNumber : port.number = number)
    (isNumber' : port'.number = number) (untouched : vid ∉ touchedVlans old new)
    (before : vid ∈ old.vlans.map (·.vid)) (after : vid ∈ new.vlans.map (·.vid)) :
    vid ∈ old.portVids port ↔ vid ∈ new.portVids port' := by
  by_cases direct : number ∈ directlyChanged old new
  · have outside : vid ∉ symmDiff (old.vidsOf number) (new.vidsOf number) := by
      refine fun inside => untouched (Finset.mem_union_left _ (Finset.mem_union_left _
        (Finset.mem_biUnion.mpr ⟨number, Finset.mem_filter.mpr ⟨direct, ?_⟩, inside⟩)))
      rw [Config.port?_eq known isNumber]
      rfl
    rw [Config.vidsOf_eq known isNumber, Config.vidsOf_eq known' isNumber',
      Finset.mem_symmDiff] at outside
    tauto
  · have same := settings_of_port known known' isNumber isNumber'
      fun changed => direct (Finset.mem_union_left _ changed)
    rw [Config.mem_portVids, Config.mem_portVids, Config.vlanKeys, Config.vlanKeys,
      (vlanKeys_of_alike same).1, (vlanKeys_of_alike same).2]
    exact exists_congr fun key => and_congr_right fun _ =>
      ⟨fun isKey => (keys key vid).2 isKey after, fun isKey => (keys key vid).1 isKey before⟩

/-- **The ports of a VLAN that is not reported** stay. -/
theorem ports_of_unreported (keys : SameKeys old new) (untouched : vid ∉ touchedVlans old new)
    (before : vid ∈ old.vlans.map (·.vid)) (after : vid ∈ new.vlans.map (·.vid)) :
    number ∈ (old.vlanPorts vid).map (·.number) ↔ number ∈ (new.vlanPorts vid).map (·.number) := by
  simp only [List.mem_map, Config.mem_vlanPorts]
  constructor
  · rintro ⟨port, ⟨known, isIn⟩, isNumber⟩
    by_cases there : number ∈ new.ports.map (·.number)
    · obtain ⟨port', known', isNumber'⟩ := List.mem_map.mp there
      exact ⟨port', ⟨known', (portVids_of_unreported keys known known' isNumber isNumber' untouched
        before after).mp isIn⟩, isNumber'⟩
    · have deleted : number ∈ (portChanges old new).deleted :=
        mem_deleted.mpr ⟨List.mem_map.mpr ⟨port, known, isNumber⟩, there⟩
      refine absurd (Finset.mem_union_left _ (Finset.mem_union_right _
        (Finset.mem_biUnion.mpr ⟨number, deleted, ?_⟩))) untouched
      rwa [Config.vidsOf_eq known isNumber]
  · rintro ⟨port', ⟨known', isIn⟩, isNumber'⟩
    by_cases there : number ∈ old.ports.map (·.number)
    · obtain ⟨port, known, isNumber⟩ := List.mem_map.mp there
      exact ⟨port, ⟨known, (portVids_of_unreported keys known known' isNumber isNumber' untouched
        before after).mpr isIn⟩, isNumber⟩
    · have added : number ∈ (portChanges old new).added :=
        mem_added.mpr ⟨List.mem_map.mpr ⟨port', known', isNumber'⟩, there⟩
      refine absurd (Finset.mem_union_right _
        (Finset.mem_biUnion.mpr ⟨number, added, ?_⟩)) untouched
      rwa [Config.vidsOf_eq known' isNumber']

/-! ## Without a cold start -/

section NotCold

variable {tfm : Bool} (notCold : restartType old new tfm ≠ some .cold)

include notCold

theorem kept_of_not_cold : pipelineChange old new tfm = false ∧
    (getConfigChanges old new).allPortsChanged = false := by
  rw [← Bool.or_eq_false_iff]
  by_contra changed
  exact notCold (if_pos (Bool.eq_true_of_not_eq_false changed))

theorem settings_of_not_cold : ¬ (new.routers ≠ old.routers ∨ old.settings ≠ new.settings) := by
  intro changed
  have allChanged := (kept_of_not_cold notCold).2
  rw [getConfigChanges, if_pos changed] at allChanged
  exact Bool.noConfusion allChanged

theorem allPortsChanged_of_not_cold : allPortsChanged old new = false := by
  have kept := (kept_of_not_cold notCold).2
  rwa [getConfigChanges, if_neg (settings_of_not_cold notCold)] at kept

/-- The changes of which some may lead to a warm restart. -/
theorem getConfigChanges_of_not_cold : getConfigChanges old new =
    { deletedPorts := (portChanges old new).deleted
      changedPorts := directlyChanged old new ∪ remirrored old new ∪
        new.portsOf ((vlanChanges old new).added ∪ (vlanChanges old new).changed)
      addedPorts := (portChanges old new).added
      changedAclPorts := changedAclPorts old new
      addedVlans := (vlanChanges old new).added
      deletedVlans := (vlanChanges old new).deleted
      changedVlans := (((vlanChanges old new).changed ∪ touchedVlans old new) \
        (vlanChanges old new).added) \ (vlanChanges old new).deleted
      changedAclVlans := changedAclVlans old new
      allPortsChanged := false
      allMetersChanged := decide ((meterChanges old new).deleted ∪ (meterChanges old new).added ∪
        (meterChanges old new).changed ≠ ∅)
      deletedMeters := (meterChanges old new).deleted
      addedMeters := (meterChanges old new).added
      changedMeters := (meterChanges old new).changed } := by
  rw [getConfigChanges, if_neg (settings_of_not_cold notCold)]
  simp only [allPortsChanged_of_not_cold notCold, Bool.false_eq_true, if_false]

end NotCold

theorem vlan_of_touched (touched : vid ∈ touchedVlans old new) :
    vid ∈ old.vlans.map (·.vid) ∨ vid ∈ new.vlans.map (·.vid) := by
  simp only [touchedVlans, Finset.mem_union, Finset.mem_biUnion, Finset.mem_symmDiff] at touched
  rcases touched with (⟨_, _, ⟨isIn, _⟩ | ⟨isIn, _⟩⟩ | ⟨_, _, isIn⟩) | ⟨_, _, isIn⟩
  · exact .inl (Config.vlan_of_vidsOf isIn)
  · exact .inr (Config.vlan_of_vidsOf isIn)
  · exact .inl (Config.vlan_of_vidsOf isIn)
  · exact .inr (Config.vlan_of_vidsOf isIn)

theorem port_of_changed (changed : number ∈ directlyChanged old new ∪ remirrored old new ∪
      new.portsOf ((vlanChanges old new).added ∪ (vlanChanges old new).changed)) :
    number ∈ new.ports.map (·.number) := by
  have inVlans : ∀ vids, number ∈ new.portsOf vids → number ∈ new.ports.map (·.number) := by
    intro vids listed
    obtain ⟨port', known', isNumber', _⟩ := Config.mem_portsOf.mp listed
    exact List.mem_map.mpr ⟨port', known', isNumber'⟩
  rcases Finset.mem_union.mp changed with changed | listed
  · rcases Finset.mem_union.mp changed with direct | mirrors
    · rcases Finset.mem_union.mp direct with changed | listed
      · exact (both_of_changed old.numbers changed).2
      · exact inVlans _ listed
    · exact (both_of_same old.numbers (Finset.mem_filter.mp mirrors).1).2
  · exact inVlans _ listed

/-- A VLAN that is changed or touched, and neither new nor gone, is in both. -/
theorem vlan_of_changed (changed : vid ∈ (((vlanChanges old new).changed ∪ touchedVlans old new) \
      (vlanChanges old new).added) \ (vlanChanges old new).deleted) :
    vid ∈ old.vlans.map (·.vid) ∧ vid ∈ new.vlans.map (·.vid) := by
  simp only [Finset.mem_sdiff, Finset.mem_union] at changed
  obtain ⟨⟨changed, notAdded⟩, notDeleted⟩ := changed
  have either : vid ∈ old.vlans.map (·.vid) ∨ vid ∈ new.vlans.map (·.vid) := by
    rcases changed with changed | touched
    · exact .inl (both_of_changed old.vids changed).1
    · exact vlan_of_touched touched
  constructor
  · by_contra absent
    exact notAdded (mem_added.mpr ⟨either.resolve_left absent, absent⟩)
  · by_contra absent
    exact notDeleted (mem_deleted.mpr ⟨either.resolve_right absent, absent⟩)

theorem unchanged_of_unreported (before : vid ∈ old.vlans.map (·.vid))
    (after : vid ∈ new.vlans.map (·.vid))
    (unreported : vid ∉ (((vlanChanges old new).changed ∪ touchedVlans old new) \
      (vlanChanges old new).added) \ (vlanChanges old new).deleted) :
    vid ∉ (vlanChanges old new).changed ∧ vid ∉ touchedVlans old new := by
  have notAdded : vid ∉ (vlanChanges old new).added := fun added => (mem_added.mp added).2 before
  have notDeleted : vid ∉ (vlanChanges old new).deleted :=
    fun deleted => (mem_deleted.mp deleted).2 after
  have inside : vid ∉ (vlanChanges old new).changed ∪ touchedVlans old new := fun changed =>
    unreported (Finset.mem_sdiff.mpr ⟨Finset.mem_sdiff.mpr ⟨changed, notAdded⟩, notDeleted⟩)
  exact ⟨fun changed => inside (Finset.mem_union_left _ changed),
    fun touched => inside (Finset.mem_union_right _ touched)⟩

/-- **What is not reported stays**, unless there is a cold start, as long as the keys of VLANs
mean what they meant. -/
theorem reported_of_not_cold {tfm : Bool} (keys : SameKeys old new)
    (notCold : restartType old new tfm ≠ some .cold) :
    Reported old new (getConfigChanges old new) := by
  rw [getConfigChanges_of_not_cold notCold]
  refine
    { deletedPorts := fun _ => by rw [portChanges, mem_deleted]
      addedPorts := fun _ => by rw [portChanges, mem_added]
      changedPorts := fun _ => port_of_changed
      changedAclPorts := fun _ changed =>
        both_of_same old.numbers (Finset.mem_filter.mp changed).1
      deletedVlans := fun _ => by rw [vlanChanges, mem_deleted]
      addedVlans := fun _ => by rw [vlanChanges, mem_added]
      changedVlans := fun _ => vlan_of_changed
      changedAclVlans := fun _ changed => both_of_same old.vids (Finset.mem_filter.mp changed).1
      ports := ?_
      vlans := ?_ }
  · intro port known port' known' same unreported
    simp only [Finset.mem_union, not_or] at unreported
    obtain ⟨⟨direct, mirrors⟩, inVlans⟩ := unreported
    exact portKept_of_unreported keys known known' rfl same.symm
      (by simpa only [directlyChanged, Finset.mem_union, not_or] using direct) mirrors inVlans
  · intro vlan known vlan' known' same unreported
    have before := List.mem_map_of_mem (f := (·.vid)) known
    have after : vlan.vid ∈ new.vlans.map (·.vid) := List.mem_map.mpr ⟨vlan', known', same.symm⟩
    obtain ⟨unchanged, untouched⟩ := unchanged_of_unreported before after unreported
    have settings := settings_of_vlan known known' rfl same.symm unchanged
    exact ⟨settings, fun number => ports_of_unreported keys untouched before after,
      fun kept => acls_of_vlan known known' rfl same.symm settings kept⟩

/-! ## A datapath with two ports -/

/-- A port with one VLAN, without a tag. -/
def labPort (number : PortNo) (key : Bool) (aclsIn : List Bool) : PortConf Bool ℕ :=
  ⟨number, ⟨none, some key, [], false, false, 0⟩, [], aclsIn⟩

/-- What two keys stand for, before or after they are swapped. -/
def labKeys (swapped key : Bool) : Option Vid := some (if key = swapped then 200 else 100)

/-- What an ACL table is made for. -/
def labContents : Pipeline.AclContents := ⟨false, false, [(3, false)], []⟩

/-- A datapath that needs nothing but tables for these ACLs. -/
def labPipeline (portAcls vlanAcls : List Bool) : Pipeline.Dp where
  staticTableIds := false
  aclTables := ⟨if portAcls = [] then none else some labContents,
    if vlanAcls = [] then none else some labContents, none⟩
  ipvs := []
  hairpinPorts := false
  useClassification := false
  egressOption := false
  coprocessorPorts := false
  hasExternals := false
  restrictedBcastArpnd := false

/-- Two ports, of which the second one has a VLAN by this key. -/
def labPorts (key : Bool) (portAcls : List Bool) : List (PortConf Bool ℕ) :=
  [labPort 1 false portAcls, labPort 2 key []]

/-- Two VLANs, of which the second one has these ACLs. -/
def labVlans (vlanAcls : List Bool) : List (VlanConf Bool ℕ) :=
  [⟨100, ⟨none, [], 0⟩, []⟩, ⟨200, ⟨none, [], 0⟩, vlanAcls⟩]

theorem labStatic : false = staticTableIds "Open vSwitch" := by decide

theorem nodup_labPorts (key : Bool) (portAcls : List Bool) :
    ((labPorts key portAcls).map (·.number)).Nodup := by simp [labPorts, labPort]

theorem nodup_labVlans (vlanAcls : List Bool) : ((labVlans vlanAcls).map (·.vid)).Nodup := by
  simp [labVlans]

theorem nodup_labAcls : ([(false, 0)].map (Prod.fst (α := Bool) (β := ℕ))).Nodup :=
  List.nodup_singleton false

theorem exists_labVlan (swapped key : Bool) (vlanAcls : List Bool) :
    ∃ vlan ∈ labVlans vlanAcls, labKeys swapped key = some vlan.vid := by
  rw [labKeys]
  split
  next => exact ⟨⟨200, ⟨none, [], 0⟩, vlanAcls⟩, by simp [labVlans], rfl⟩
  next => exact ⟨⟨100, ⟨none, [], 0⟩, []⟩, by simp [labVlans], rfl⟩

/-- Two ports, of which the second one has a VLAN by this key, and the first one may have ACLs;
two VLANs, of which the second one may have ACLs. -/
def lab (key swapped : Bool) (portAcls vlanAcls : List Bool) : Config Bool ℕ where
  settings := ⟨[], [], 0⟩
  routers := 0
  hardware := "Open vSwitch"
  pipeline := labPipeline portAcls vlanAcls
  shown := fun _ => 0
  ports := labPorts key portAcls
  vlans := labVlans vlanAcls
  acls := [(false, 0)]
  meters := []
  vlanByKey := labKeys swapped
  static := labStatic
  numbers := nodup_labPorts key portAcls
  vids := nodup_labVlans vlanAcls
  aclIds := nodup_labAcls
  meterIds := List.nodup_nil
  keys := fun _ _ key _ => exists_labVlan swapped key vlanAcls

/-- A port that goes into another VLAN is reported. -/
theorem reported_of_port_moved :
    restartType (lab true false [] []) (lab false false [] []) false = some .warm ∧
    Reported (lab true false [] []) (lab false false [] [])
      (getConfigChanges (lab true false [] []) (lab false false [] [])) :=
  have warm : restartType (lab true false [] []) (lab false false [] []) false = some .warm := by
    decide +kernel
  ⟨warm, reported_of_not_cold (sameKeys_of_eq rfl) (by
    rw [warm]
    decide)⟩

/-- When the keys of two VLANs are swapped, the ports of these swap their VLANs and nothing
is reported. -/
theorem moved_silently : restartType (lab true false [] []) (lab true true [] []) false = none ∧
    (lab true false [] []).portVids (labPort 2 true []) = {100} ∧
    (lab true true [] []).portVids (labPort 2 true []) = {200} := by
  decide +kernel

end Faucet.Reload
