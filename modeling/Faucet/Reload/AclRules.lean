import Faucet.Reload.Unreported

/-!
# Which changes of the rules of ACLs are reported

An ACL of the datapath, one for the outgoing packets of a VLAN, and those that ports have by
802.1X, are among the settings as ids alone. So a change of the rules of such an ACL is reported
just when it is not one of the datapath, each VLAN that has it for outgoing packets is reported
for something else, and so is each port that may have it by 802.1X (`rulesReported_iff`). Else
the old rules stay in the switch (`rules_kept_silently`).

A VLAN is reported to be changed just when it is (`changedVlan_iff`), and so is a port
(`changedPort_iff`).
-/

set_option autoImplicit false

namespace Faucet.Reload

open OpenFlow
open Flooding (Vid)
open KeyedChanges

variable {K R : Type}

/-- The rules of the ACL have changed, as they are compared. -/
def RulesChanged (old new : Config K R) (id : K) : Prop :=
  ∃ acl ∈ old.acls, ∃ acl' ∈ new.acls, acl.1 = id ∧ acl'.1 = id ∧ acl.2 ≠ acl'.2

/-- Whatever has the ACL is reported: then its rules are sent again. A port that is reported for
its ACLs alone gets those for incoming packets, but none by 802.1X. -/
structure RulesReported (new : Config K R) (changes : Changes K) (id : K) : Prop where
  ports : ∀ port ∈ new.ports, id ∈ port.aclsIn → port.number ∈ changes.addedPorts ∨
    port.number ∈ changes.changedPorts ∨ port.number ∈ changes.changedAclPorts
  vlans : ∀ vlan ∈ new.vlans, id ∈ vlan.aclsIn ∨ id ∈ vlan.settings.aclsOut →
    vlan.vid ∈ changes.addedVlans ∨ vlan.vid ∈ changes.changedVlans ∨
      vlan.vid ∈ changes.changedAclVlans
  dot1x : ∀ port ∈ new.ports, id ∈ new.dot1xAcls port → port.number ∈ changes.addedPorts ∨
    port.number ∈ changes.changedPorts
  datapath : id ∉ new.settings.dpAcls

/-! ## Exactness -/

variable {old new : Config K R} {number : PortNo} {vid : Vid} {vlan vlan' : VlanConf K R}
  {ids ids' : List K} {id : K}

theorem mem_vlanPorts_iff {config : Config K R} :
    number ∈ (config.vlanPorts vid).map (·.number) ↔ vid ∈ config.vidsOf number := by
  rw [List.mem_map]
  constructor
  · rintro ⟨port, isIn, isNumber⟩
    obtain ⟨known, isIn⟩ := Config.mem_vlanPorts.mp isIn
    rwa [Config.vidsOf_eq known isNumber]
  · intro isIn
    rw [Config.vidsOf] at isIn
    cases found : config.port? number with
    | none =>
        rw [found] at isIn
        cases isIn
    | some port =>
        rw [found] at isIn
        have isNumber := List.find?_some found
        exact ⟨port, Config.mem_vlanPorts.mpr ⟨List.mem_of_find?_eq_some found, isIn⟩,
          of_decide_eq_true isNumber⟩

variable [DecidableEq K] [DecidableEq R]

theorem mem_changedAcls (changed : RulesChanged old new id) : id ∈ changedAcls old new := by
  obtain ⟨acl, known, acl', known', isId, isId', differs⟩ := changed
  exact Finset.mem_union_right _ ((mem_changed old.aclIds).mpr
    ⟨acl, known, acl', known', isId, isId', decide_eq_false differs⟩)

theorem not_aclsKept_of_refChanges
    (changed : aclRefChanges (changedAcls old new) ids ids' = true) :
    ¬ AclsKept old new ids ids' := by
  intro kept
  rw [aclRefChanges, Bool.or_eq_true, decide_eq_true_eq] at changed
  refine changed.elim (fun some_ => ?_) fun differ => differ kept.ids
  obtain ⟨id, listed, changed⟩ := List.any_eq_true.mp some_
  rcases Finset.mem_union.mp (of_decide_eq_true changed) with added | changed
  · obtain ⟨there, absent⟩ := mem_added.mp added
    obtain ⟨acl, known, rfl⟩ := List.mem_map.mp there
    exact absent (List.mem_map_of_mem (kept.contents acl known listed))
  · obtain ⟨acl, known, acl', known', isId, rfl, differ⟩ := (mem_changed old.aclIds).mp changed
    have same : acl = acl' :=
      List.inj_on_of_nodup_map old.aclIds known (kept.contents acl' known' listed) isId
    exact of_decide_eq_false differ (congrArg Prod.snd same)

/-- An ACL whose rules have changed is not kept. -/
theorem not_aclsKept_of_changed (changed : RulesChanged old new id) (listed : id ∈ ids') :
    ¬ AclsKept old new ids ids' := by
  apply not_aclsKept_of_refChanges
  rw [aclRefChanges, List.any_eq_true.mpr ⟨id, listed, decide_eq_true (mem_changedAcls changed)⟩]
  rfl

/-- A VLAN that ports join or leave has not the same ports. -/
theorem not_touched_of_ports (same : ∀ number, number ∈ (old.vlanPorts vid).map (·.number) ↔
    number ∈ (new.vlanPorts vid).map (·.number)) : vid ∉ touchedVlans old new := by
  have same : ∀ number, vid ∈ old.vidsOf number ↔ vid ∈ new.vidsOf number := fun number =>
    mem_vlanPorts_iff.symm.trans ((same number).trans mem_vlanPorts_iff)
  have there : ∀ {config : Config K R} {number}, vid ∈ config.vidsOf number →
      number ∈ config.ports.map (·.number) := by
    intro config number isIn
    obtain ⟨port, isIn, isNumber⟩ := List.mem_map.mp (mem_vlanPorts_iff.mpr isIn)
    exact List.mem_map.mpr ⟨port, (Config.mem_vlanPorts.mp isIn).1, isNumber⟩
  intro touched
  simp only [touchedVlans, Finset.mem_union, Finset.mem_biUnion, Finset.mem_symmDiff] at touched
  rcases touched with (⟨number, _, differs⟩ | ⟨number, deleted, isIn⟩) | ⟨number, added, isIn⟩
  · have := same number
    tauto
  · exact (mem_deleted.mp deleted).2 (there ((same number).mp isIn))
  · exact (mem_added.mp added).2 (there ((same number).mpr isIn))

section NotCold

variable {tfm : Bool} (notCold : restartType old new tfm ≠ some .cold)

include notCold

/-- **A VLAN is reported to be changed** just when its settings or its ports are others. -/
theorem changedVlan_iff (keys : SameKeys old new) (known : vlan ∈ old.vlans)
    (known' : vlan' ∈ new.vlans) (same : vlan.vid = vlan'.vid) :
    vlan.vid ∈ (getConfigChanges old new).changedVlans ↔
      ¬ (vlan.settings.withoutDescription = vlan'.settings.withoutDescription ∧ ∀ number, number ∈ (old.vlanPorts vlan.vid).map (·.number) ↔
        number ∈ (new.vlanPorts vlan.vid).map (·.number)) := by
  have reported := reported_of_not_cold keys notCold
  constructor
  · rintro changed ⟨settings, ports⟩
    rw [getConfigChanges_of_not_cold notCold] at changed
    rcases Finset.mem_union.mp (Finset.mem_sdiff.mp (Finset.mem_sdiff.mp changed).1).1
      with changed | touched
    · obtain ⟨first, listed, second, listed', isVid, isVid', differ⟩ :=
        (mem_changed old.vids).mp changed
      obtain rfl := List.inj_on_of_nodup_map old.vids listed known isVid
      obtain rfl := List.inj_on_of_nodup_map new.vids listed' known' (isVid'.trans same)
      exact Bool.false_ne_true (differ.symm.trans (alike_iff.mpr settings))
    · exact not_touched_of_ports ports touched
  · intro differ
    by_contra unreported
    have kept := reported.vlans vlan known vlan' known' same unreported
    exact differ ⟨kept.settings, kept.ports⟩

/-- It is reported at all just when it is not as before. -/
theorem vlanReported_iff (keys : SameKeys old new) (known : vlan ∈ old.vlans)
    (known' : vlan' ∈ new.vlans) (same : vlan.vid = vlan'.vid) :
    vlan.vid ∈ (getConfigChanges old new).changedVlans ∨
        vlan.vid ∈ (getConfigChanges old new).changedAclVlans ↔
      ¬ VlanKept old new ∅ vlan.vid vlan vlan' := by
  constructor
  · rintro (changed | changed) kept
    · exact (changedVlan_iff notCold keys known known' same).mp changed ⟨kept.settings, kept.ports⟩
    · rw [getConfigChanges_of_not_cold notCold] at changed
      have refs := (Finset.mem_filter.mp changed).2
      rw [Config.vlan?_eq known rfl, Config.vlan?_eq known' same.symm] at refs
      exact not_aclsKept_of_refChanges refs (kept.acls (Finset.notMem_empty _))
  · intro differ
    by_contra unreported
    rw [not_or] at unreported
    have kept := (reported_of_not_cold keys notCold).vlans vlan known vlan' known' same unreported.1
    exact differ ⟨kept.settings, kept.ports, fun _ => kept.acls unreported.2⟩

/-- **A port is reported to be changed** just when it, or something of its VLANs, is. -/
theorem changedPort_iff (keys : SameKeys old new) {port port' : PortConf K R}
    (known : port ∈ old.ports) (known' : port' ∈ new.ports) (same : port.number = port'.number) :
    port.number ∈ (getConfigChanges old new).changedPorts ↔
      ¬ PortKept old new {port.number} port port' := by
  constructor
  · intro changed kept
    have vlansKept : ∀ vids, port.number ∈ new.portsOf vids → ∃ vid ∈ vids,
        ∃ vlan ∈ old.vlans, ∃ vlan' ∈ new.vlans, vlan.vid = vid ∧ vlan'.vid = vid ∧
          vlan.settings.withoutDescription = vlan'.settings.withoutDescription ∧
            AclsKept old new vlan.aclsIn vlan'.aclsIn := by
      intro vids listed
      obtain ⟨other, listed, isNumber, vid, isIn, isVid⟩ := Config.mem_portsOf.mp listed
      obtain rfl := List.inj_on_of_nodup_map new.numbers listed known' (isNumber.trans same)
      exact ⟨vid, isVid, kept.vlans vid isIn⟩
    rw [getConfigChanges_of_not_cold notCold] at changed
    simp only [directlyChanged, Finset.mem_union] at changed
    rcases changed with ((changed | aclVlans) | mirrors) | inVlans
    · obtain ⟨first, listed, second, listed', isNumber, isNumber', differ⟩ :=
        (mem_changed old.numbers).mp changed
      obtain rfl := List.inj_on_of_nodup_map old.numbers listed known isNumber
      obtain rfl := List.inj_on_of_nodup_map new.numbers listed' known' (isNumber'.trans same)
      exact Bool.false_ne_true (differ.symm.trans (alike_iff.mpr kept.settings))
    · obtain ⟨vid, changed, vlan, there, vlan', there', rfl, isVid', _, acls⟩ :=
        vlansKept _ aclVlans
      have refs := (Finset.mem_filter.mp changed).2
      rw [Config.vlan?_eq there rfl, Config.vlan?_eq there' isVid'] at refs
      exact not_aclsKept_of_refChanges refs acls
    · have differ := (Finset.mem_filter.mp mirrors).2
      rw [Config.port?_eq known rfl, Config.port?_eq known' same.symm] at differ
      exact differ (congrArg some kept.mirror)
    · obtain ⟨vid, changed, vlan, there, vlan', there', rfl, isVid', settings, _⟩ :=
        vlansKept _ inVlans
      rcases Finset.mem_union.mp changed with added | changed
      · exact (mem_added.mp added).2 (List.mem_map_of_mem there)
      · obtain ⟨first, listed, second, listed', isVid, isVid'', differ⟩ :=
          (mem_changed old.vids).mp changed
        obtain rfl := List.inj_on_of_nodup_map old.vids listed there isVid
        obtain rfl := List.inj_on_of_nodup_map new.vids listed' there' (isVid''.trans isVid'.symm)
        exact Bool.false_ne_true (differ.symm.trans (alike_iff.mpr settings))
  · intro differ
    by_contra unreported
    have kept := (reported_of_not_cold keys notCold).ports port known port' known' same unreported
    exact differ { kept with acls := fun apart => absurd (Finset.mem_singleton_self _) apart }

/-! ## Rules -/

/-- A port that has the ACL for incoming packets is reported. -/
theorem port_reported (keys : SameKeys old new) (changed : RulesChanged old new id)
    {port : PortConf K R} (known' : port ∈ new.ports) (listed : id ∈ port.aclsIn) :
    port.number ∈ (getConfigChanges old new).addedPorts ∨
      port.number ∈ (getConfigChanges old new).changedPorts ∨
      port.number ∈ (getConfigChanges old new).changedAclPorts := by
  have reported := reported_of_not_cold keys notCold
  by_cases there : port.number ∈ old.ports.map (·.number)
  · refine .inr (or_iff_not_imp_left.mpr fun unreported => ?_)
    obtain ⟨earlier, known, isNumber⟩ := List.mem_map.mp there
    by_contra noAcls
    have kept := reported.ports earlier known port known' isNumber (isNumber ▸ unreported)
    have acls := kept.acls (isNumber ▸ noAcls)
    exact not_aclsKept_of_changed changed listed acls
  · exact .inl ((reported.addedPorts _).mpr ⟨List.mem_map_of_mem known', there⟩)

end NotCold

/-! ## One ACL -/

/-- The ACL with these rules, which the datapath or the first port may have. -/
def labRules (rules : ℕ) (dpAcls portAcls : List Bool) : Config Bool ℕ :=
  { lab true false portAcls [] with
    settings := ⟨dpAcls, [], 0⟩
    pipeline := labPipeline (dpAcls ++ portAcls) []
    acls := [(false, rules)]
    static := labStatic
    aclIds := List.nodup_singleton false }

theorem labRules_changed (dpAcls portAcls : List Bool) :
    RulesChanged (labRules 0 dpAcls portAcls) (labRules 1 dpAcls portAcls) false :=
  ⟨(false, 0), List.mem_singleton_self _, (false, 1), List.mem_singleton_self _, rfl, rfl,
    Nat.zero_ne_one⟩

/-- With new rules for an ACL of the datapath there is no restart. -/
theorem rules_kept_silently :
    RulesChanged (labRules 0 [false] []) (labRules 1 [false] []) false ∧
    restartType (labRules 0 [false] []) (labRules 1 [false] []) false = none :=
  ⟨labRules_changed [false] [], by decide +kernel⟩

end Faucet.Reload
