import Faucet.Flooding.SafeCalls

/-!
# Cold starts

A cold start sends the flows that drop and the rules and groups of all VLANs to an
emptied switch. It leaves the wanted rules installed
(`installed_of_coldStart`), and every datapath can be started (`exists_coldStart`).
-/

set_option autoImplicit false

namespace Faucet.Flooding

open OpenFlow TransitionSystem

section Rules

variable {dp : Dp} {ports : List Port} {conf : VlanConf} {dst : FloodDst}
  {inPort : Option Port} {floodActs : List Act} {flow : FlowId}

/-! ## The flows of the table -/

theorem ruleId_of_config {start : List Port}
    (config : ports.map Port.config = start.map Port.config) (isRule : dp.RuleId ports flow) :
    dp.RuleId start flow := by
  obtain ⟨conf, known, unreserved, dst, listed, inPort, member, rfl⟩ := isRule
  refine ⟨conf, known, unreserved, dst, listed, ?_⟩
  cases inPort with
  | none => exact ⟨none, by rintro _ ⟨⟩, rfl⟩
  | some port =>
      obtain ⟨other, member', same⟩ := exists_config config (member port rfl)
      refine ⟨some other, ?_, ?_⟩
      · rintro _ ⟨⟩
        exact member'
      · rw [Option.map_some, Option.map_some, Port.number_of_config same]

/-- A rule that is wanted at some time of the call is a rule of its VLAN. -/
theorem ruleId_of_wanted {snapshot : List Port}
    (config : snapshot.map Port.config = ports.map Port.config) (known : conf ∈ dp.vlans)
    (unreserved : conf.reservedInternalVlan = false) (listed : dst ∈ dp.vlanFloodDsts conf)
    (wanted : dp.ruleActs (conf.resetPorts snapshot) dst inPort = some floodActs) :
    dp.RuleId ports (dp.flowId conf.vid (inPort.map (·.number)) dst) := by
  refine ruleId_of_config config ⟨conf, known, unreserved, dst, listed, inPort, ?_, rfl⟩
  rintro port ⟨⟩
  exact (mem_allPorts.mp (Dp.ruleActs_port_iff.mp wanted).1).1

theorem of_initialFlows {entry : FlowEntry} (initial : dp.initialFlows flow = some entry) :
    ∃ ethDst, dp.floodDrop ethDst ∈ dp.coldStartDrops ∧
      (dp.floodDrop ethDst).names flow = true ∧ entry = (dp.floodDrop ethDst).entry := by
  obtain ⟨mod, found, rfl⟩ := Option.map_eq_some_iff.mp initial
  have member := List.mem_of_find?_eq_some found
  have named := List.find?_some found
  obtain ⟨ethDst, rfl⟩ := Dp.eq_floodDrop member
  exact ⟨ethDst, member, named, rfl⟩

theorem match_of_names_floodDrop {ethDst : Option (ℕ × ℕ)}
    (named : (dp.floodDrop ethDst).names flow = true) :
    flow.matchFields = (dp.floodDrop ethDst).matchFields := by
  rw [FlowMod.names, Bool.and_eq_true, beq_iff_eq] at named
  exact named.2.symm

/-- A flow that drops is of no VLAN. -/
theorem vlan_not_mem_of_names_floodDrop {ethDst : Option (ℕ × ℕ)} {vid : Vid}
    (named : (dp.floodDrop ethDst).names flow = true) :
    ⟨6, vid + 0x1000, none⟩ ∉ flow.matchFields.items := by
  rw [match_of_names_floodDrop named]
  cases ethDst with
  | none => exact List.not_mem_nil
  | some =>
      intro member
      cases List.mem_singleton.mp member

theorem floodDrop_inj {ethDst other : Option (ℕ × ℕ)}
    (same : (dp.floodDrop ethDst).matchFields = (dp.floodDrop other).matchFields) :
    ethDst = other := by
  have items := congrArg Match.items same
  rcases ethDst with _ | ⟨address, mask⟩ <;> rcases other with _ | ⟨address', mask'⟩ <;>
    simp_all [Dp.floodDrop, Match.any, Match.single]

/-! ## The groups -/

theorem deletesEntry_iff {ofmsg : Ofmsg} {groupId : ℕ} :
    deletesEntry Ofmsg.groupMod? ofpgAll groupId ofmsg = true ↔
      ∃ other, ofmsg = .groupMod (.delete other) ∧ (other = ofpgAll ∨ other = groupId) := by
  cases ofmsg with
  | groupMod mod => cases mod <;> simp [deletesEntry, Ofmsg.groupMod?]
  | _ => simp [deletesEntry, Ofmsg.groupMod?]

theorem addedContent_iff {ofmsg : Ofmsg} {groupId : ℕ} {content : Group} :
    addedContent Ofmsg.groupMod? groupId ofmsg = some content ↔
      ofmsg = .groupMod (.add groupId content) := by
  cases ofmsg with
  | groupMod mod => cases mod <;> simp [addedContent, Ofmsg.groupMod?]
  | _ => simp [addedContent, Ofmsg.groupMod?]

theorem findSome?_of_only {α β : Type} {f : α → Option β} {xs : List α} {x : α} {y : β}
    (member : x ∈ xs) (found : f x = some y) (only : ∀ x' ∈ xs, ∀ y', f x' = some y' → y' = y) :
    xs.findSome? f = some y := by
  cases first : xs.findSome? f with
  | none =>
      rw [List.findSome?_eq_none_iff] at first
      rw [first x member] at found
      cases found
  | some y' =>
      obtain ⟨x', member', found'⟩ := List.exists_of_findSome?_eq_some first
      rw [only x' member' y' found']

theorem concerns_of_floodGroup {snapshot : List Port} {unicast : Bool} {mod : EntryMod Group}
    (group : dp.useGroupTable = true) (known : conf ∈ dp.vlans)
    (about : mod = .delete ((conf.resetPorts snapshot).floodGroupId unicast) ∨
      ∃ content, mod = .add ((conf.resetPorts snapshot).floodGroupId unicast) content) :
    dp.concerns (.groupMod mod) = true := by
  have isGroup : dp.isFloodGroup ((conf.resetPorts snapshot).floodGroupId unicast) = true := by
    rw [Dp.isFloodGroup, Bool.or_eq_true, List.any_eq_true]
    refine .inr ⟨conf, known, ?_⟩
    rw [Vlan.floodGroupId]
    split <;> simp [Dp.resetPorts_vid]
  rcases about with rfl | ⟨content, rfl⟩ <;> rw [Dp.concerns, group, isGroup] <;> rfl

end Rules

/-! ## A cold start -/

section ColdStart

variable {dp : Dp} {ports : List Port} {input : List Ofmsg} {emptied switch : Switch}
  {shuffle : Shuffle} {useBarriers : Bool} {conf : VlanConf} {dst : FloodDst}
  {inPort : Option Port} {floodActs : List Act} {flow : FlowId} {ofmsg : Ofmsg}

theorem mem_coldStartMessages : ofmsg ∈ dp.coldStartMessages ports ↔
    (∃ ethDst, dp.floodDrop ethDst ∈ dp.coldStartDrops ∧ ofmsg = .flowMod (dp.floodDrop ethDst)) ∨
      ∃ conf ∈ dp.vlans, conf.reservedInternalVlan = false ∧
        ofmsg ∈ dp.buildFloodRules (conf.resetPorts ports) .add true := by
  rw [Dp.coldStartMessages, List.mem_append, List.mem_flatMap]
  refine or_congr ?_ ?_
  · rw [List.mem_map]
    constructor
    · rintro ⟨mod, member, rfl⟩
      obtain ⟨ethDst, rfl⟩ := Dp.eq_floodDrop member
      exact ⟨ethDst, member, rfl⟩
    · rintro ⟨ethDst, member, rfl⟩
      exact ⟨_, member, rfl⟩
  · constructor
    · rintro ⟨vlan, listed, sent⟩
      obtain ⟨conf, known, rfl⟩ := List.mem_map.mp listed
      obtain ⟨unreserved, built⟩ := mem_addVlan.mp sent
      exact ⟨conf, known, unreserved, built⟩
    · rintro ⟨conf, known, unreserved, built⟩
      exact ⟨_, List.mem_map.mpr ⟨conf, known, rfl⟩, mem_addVlan.mpr ⟨unreserved, built⟩⟩

variable (numbers : (ports.map (·.number)).Nodup)
  (batch : input.filter dp.concerns = dp.coldStartMessages ports)
  (noFlows : ∀ flow, emptied.flows flow = none) (noGroups : ∀ groupId, emptied.groups groupId = none)
  (delivers : emptied.deliver shuffle useBarriers input = some switch)

include batch

theorem mem_input_of_concerns (concerns : dp.concerns ofmsg = true) :
    ofmsg ∈ input ↔ ofmsg ∈ dp.coldStartMessages ports := by
  rw [← batch, List.mem_filter, concerns]
  exact (and_iff_left rfl).symm

theorem oneTable_of_coldStart : OneTable dp.floodTable dp.flowCookie input := by
  have ofTable : ∀ mod, .flowMod mod ∈ input →
      mod.tableId = dp.floodTable.val ∨ mod.tableId = ofpttAll →
      mod.tableId = dp.floodTable.val ∧ mod.cookie = dp.flowCookie := by
    intro mod member inTable
    rcases mem_coldStartMessages.mp
      ((mem_input_of_concerns batch (concerns_of_table inTable)).mp member) with
      ⟨ethDst, _, same⟩ | ⟨conf, _, _, built⟩
    · cases same
      exact ⟨rfl, rfl⟩
    · obtain ⟨dst, _, ⟨_, _, _, rfl⟩ | ⟨isFalse, _⟩⟩ := Dp.mem_buildFloodRules.mp built
      · exact ⟨rfl, rfl⟩
      · cases isFalse
  refine ⟨fun mod member all => ?_, fun mod member inTable => (ofTable mod member (.inl inTable)).2⟩
  exact Nat.ne_of_lt dp.floodTable.isLt ((ofTable mod member (.inr all)).1.symm.trans all)

/-- A flow is one that drops, or it is a rule that is wanted. -/
theorem setter_of_coldStart (inTable : flow.tableId = dp.floodTable) (member : ofmsg ∈ input)
    (isSet : sets flow ofmsg = true) :
    (∃ ethDst, dp.floodDrop ethDst ∈ dp.coldStartDrops ∧
      (dp.floodDrop ethDst).names flow = true ∧ ofmsg = .flowMod (dp.floodDrop ethDst)) ∨
    ∃ conf ∈ dp.vlans, conf.reservedInternalVlan = false ∧
      ofmsg ∈ dp.buildFloodRules (conf.resetPorts ports) .add true := by
  rcases mem_coldStartMessages.mp ((mem_input_of_concerns batch
    (concerns_of_sets inTable isSet)).mp member) with ⟨ethDst, initial, rfl⟩ | built
  · rw [sets, Bool.and_eq_true] at isSet
    exact .inl ⟨ethDst, initial, isSet.2, rfl⟩
  · exact .inr built

include numbers noFlows delivers in
theorem rule_of_coldStart (known : conf ∈ dp.vlans) (unreserved : conf.reservedInternalVlan = false)
    (listed : dst ∈ dp.vlanFloodDsts conf)
    (watched : Watched ports (conf.resetPorts ports) dst inPort) :
    switch.flows (dp.flowId conf.vid (inPort.map (·.number)) dst) =
      (dp.ruleActs (conf.resetPorts ports) dst inPort).map dp.floodEntry := by
  have notDrop : ∀ {ethDst},
      ¬ (dp.floodDrop ethDst).names (dp.flowId conf.vid (inPort.map (·.number)) dst) = true :=
    fun named => vlan_not_mem_of_names_floodDrop named vlan_mem_floodMatch
  cases wanted : dp.ruleActs (conf.resetPorts ports) dst inPort with
  | some floodActs =>
      have member : .flowMod (dp.buildFloodRule .add conf.vid (inPort.map (·.number)) dst floodActs) ∈
          input := by
        refine (mem_input_of_concerns batch (concerns_of_table (.inl rfl))).mpr
          (mem_coldStartMessages.mpr (.inr ⟨conf, known, unreserved, ?_⟩))
        exact Dp.mem_buildFloodRules.mpr ⟨dst, listed, .inl ⟨inPort, floodActs, wanted, rfl⟩⟩
      refine (oneTable_of_coldStart batch).deliver_only rfl delivers member
        (sets_buildFloodRule floodActs (.inl rfl)) (fun ofmsg member isSet => ?_) rfl
      · rcases setter_of_coldStart batch rfl member isSet with
          ⟨_, _, named, _⟩ | ⟨other, known', _, built⟩
        · exact absurd named notDrop
        · exact only_setter numbers known known' listed wanted built isSet
  | none =>
      refine deliver_gone delivers ?_ (by simp [noFlows])
      intro added
      obtain ⟨mod, member, isAdd, isSet⟩ := adds_iff.mp added
      rcases setter_of_coldStart batch rfl member isSet with
        ⟨_, _, named, _⟩ | ⟨other, known', _, built⟩
      · exact absurd named notDrop
      · obtain ⟨dst', listed', inPort', floodActs, wanted', same, _⟩ := setter_of_vlan built isSet
        obtain ⟨sameVid, number, rfl⟩ :=
          Dp.flowId_inj (Dp.mem_allFloodDsts listed) (Dp.mem_allFloodDsts listed') same
        cases eq_of_vid known known' sameVid
        cases inPort' with
        | none =>
            cases inPort with
            | none => exact absurd (wanted.symm.trans wanted') nofun
            | some => cases number
        | some port' =>
            obtain ⟨port, rfl, sameNumber⟩ := Option.map_eq_some_iff.mp number
            have inVlan' := (mem_allPorts.mp (Dp.ruleActs_port_iff.mp wanted').1).1
            rw [eq_of_number numbers inVlan' (watched port rfl).1 sameNumber.symm, wanted] at wanted'
            cases wanted'

include noFlows delivers in
theorem other_of_coldStart (inTable : flow.tableId = dp.floodTable)
    (notRule : ¬ dp.RuleId ports flow) : switch.flows flow = dp.initialFlows flow := by
  have ofDrop : ∀ {ofmsg}, ofmsg ∈ input → sets flow ofmsg = true → ∃ ethDst,
      dp.floodDrop ethDst ∈ dp.coldStartDrops ∧ (dp.floodDrop ethDst).names flow = true ∧
        ofmsg = .flowMod (dp.floodDrop ethDst) := by
    intro ofmsg member isSet
    refine (setter_of_coldStart batch inTable member isSet).resolve_right ?_
    rintro ⟨conf, known, unreserved, built⟩
    obtain ⟨dst, listed, inPort, floodActs, wanted, rfl, _⟩ := setter_of_vlan built isSet
    exact notRule (ruleId_of_wanted rfl known unreserved listed wanted)
  cases initial : dp.initialFlows flow with
  | some entry =>
      obtain ⟨ethDst, listed, named, rfl⟩ := of_initialFlows initial
      have isSet : sets flow (.flowMod (dp.floodDrop ethDst)) = true := by
        rw [sets, named]
        rfl
      have member : .flowMod (dp.floodDrop ethDst) ∈ input :=
        (mem_input_of_concerns batch (concerns_of_table (.inl rfl))).mpr
          (mem_coldStartMessages.mpr (.inl ⟨ethDst, listed, rfl⟩))
      refine (oneTable_of_coldStart batch).deliver_only inTable delivers member isSet
        (fun ofmsg member isSet => ?_) rfl
      · obtain ⟨other, _, named', rfl⟩ := ofDrop member isSet
        rw [floodDrop_inj ((match_of_names_floodDrop named').symm.trans
          (match_of_names_floodDrop named))]
  | none =>
      refine deliver_gone delivers ?_ (by simp [noFlows])
      intro added
      obtain ⟨mod, member, isAdd, isSet⟩ := adds_iff.mp added
      obtain ⟨ethDst, listed, named', _⟩ := ofDrop member isSet
      rw [Dp.initialFlows, Option.map_eq_none_iff] at initial
      exact List.find?_eq_none.mp initial _ listed named'

include noGroups delivers in
theorem group_of_coldStart (group : dp.useGroupTable = true) (known : conf ∈ dp.vlans)
    (unreserved : conf.reservedInternalVlan = false) (unicast : Bool) :
    switch.groups ((conf.resetPorts ports).floodGroupId unicast) =
      some ((conf.resetPorts ports).floodGroup unicast) := by
  rw [(oneTable_of_coldStart batch).deliver_groups delivers, noGroups, ite_self, Option.none_or]
  have about : dp.concerns (.groupMod (.add ((conf.resetPorts ports).floodGroupId unicast)
      ((conf.resetPorts ports).floodGroup unicast))) = true :=
    concerns_of_floodGroup group known (.inr ⟨_, rfl⟩)
  refine findSome?_of_only ((mem_input_of_concerns batch about).mpr
    (mem_coldStartMessages.mpr (.inr ⟨conf, known, unreserved, ?_⟩))) (addedContent_iff.mpr rfl) ?_
  · exact groupMod_mem_buildFloodRules.mpr ⟨group, mem_floodGroupMods.mpr ⟨unicast, .inr rfl⟩⟩
  · intro ofmsg member content adds
    rw [addedContent_iff] at adds
    subst adds
    have about : dp.concerns (.groupMod (.add ((conf.resetPorts ports).floodGroupId unicast)
        content)) = true := concerns_of_floodGroup group known (.inr ⟨content, rfl⟩)
    rcases mem_coldStartMessages.mp ((mem_input_of_concerns batch about).mp member) with
      ⟨_, _, same⟩ | ⟨other, known', _, built⟩
    · cases same
    · obtain ⟨_, listed⟩ := groupMod_mem_buildFloodRules.mp built
      obtain ⟨unicast', isDelete | isAdd⟩ := mem_floodGroupMods.mp listed
      · cases isDelete
      · obtain ⟨sameId, rfl⟩ := EntryMod.add.inj isAdd
        have sameVid : (other.resetPorts ports).vid = (conf.resetPorts ports).vid :=
          vid_of_floodGroupId (dp.vidValid other known').2 (dp.vidValid conf known).2 sameId.symm
        cases eq_of_vid known' known sameVid
        exact floodGroup_of_id sameId.symm

end ColdStart

/-- **A cold start installs the wanted rules.** -/
theorem installed_of_coldStart {dp : Dp} {ports : List Port} {switch : Switch}
    (numbers : (ports.map (·.number)).Nodup) (cold : dp.ColdStart ports switch) :
    Installed dp ports switch := by
  obtain ⟨emptied, shuffle, useBarriers, input, noFlows, noGroups, batch, delivers⟩ := cold
  exact {
    rules := fun conf known unreserved dst listed inPort watched =>
      rule_of_coldStart numbers batch noFlows delivers known unreserved listed watched
    others := fun flow inTable notRule =>
      other_of_coldStart batch noFlows delivers inTable notRule
    groups := fun group conf known unreserved unicast =>
      group_of_coldStart batch noGroups delivers group known unreserved unicast }

section Progress

variable {dp : Dp} {vlan : Vlan} {flowCommand : FlowCommand} {coldStart : Bool}
  {conf : VlanConf} {ports snapshot : List Port} {ofmsg : Ofmsg}

/-- What is sent for a VLAN is about flooding. -/
theorem concerns_of_built (known : conf ∈ dp.vlans)
    (built : ofmsg ∈ dp.buildFloodRules (conf.resetPorts snapshot) flowCommand coldStart) :
    dp.concerns ofmsg = true := by
  cases ofmsg with
  | flowMod mod =>
      refine concerns_of_table (.inl ?_)
      obtain ⟨_, _, ⟨_, _, _, rfl⟩ | ⟨_, _, _, _, rfl⟩⟩ := Dp.mem_buildFloodRules.mp built
      · rfl
      · rfl
  | groupMod mod =>
      obtain ⟨group, listed⟩ := groupMod_mem_buildFloodRules.mp built
      obtain ⟨unicast, about⟩ := mem_floodGroupMods.mp listed
      exact concerns_of_floodGroup group known (about.imp_right fun isAdd => ⟨_, isAdd⟩)
  | _ =>
      rw [Dp.buildFloodRules, List.mem_append] at built
      rcases built with rule | rule
      · obtain ⟨_, _, same⟩ := List.mem_map.mp rule
        cases same
      · split at rule
        next =>
          rcases List.mem_append.mp rule with rule | rule
          · obtain ⟨_, _, same⟩ := List.mem_map.mp rule
            cases same
          · obtain ⟨_, _, same⟩ := List.mem_map.mp rule
            cases same
        next => cases rule

theorem filter_concerns {ofmsgs : List Ofmsg} (all : ∀ ofmsg ∈ ofmsgs, dp.concerns ofmsg = true) :
    ofmsgs.filter dp.concerns = ofmsgs :=
  List.filter_eq_self.mpr all

/-- A shuffle that keeps the order. -/
def noShuffle : Shuffle := ⟨id, Shuffle.perm_id⟩

/-- Every datapath can be started. -/
theorem exists_coldStart (dp : Dp) (ports : List Port) : ∃ switch, dp.ColdStart ports switch := by
  have batch : (dp.coldStartMessages ports).filter dp.concerns = dp.coldStartMessages ports := by
    refine filter_concerns fun ofmsg sent => ?_
    rcases mem_coldStartMessages.mp sent with ⟨ethDst, _, rfl⟩ | ⟨conf, known, _, built⟩
    · exact concerns_of_table (.inl rfl)
    · exact concerns_of_built known built
  let emptied : Switch := ⟨fun _ => none, fun _ => none, fun _ => none⟩
  have started : ∃ switch, emptied.deliver noShuffle true (dp.coldStartMessages ports) =
      some switch := (oneTable_of_coldStart batch).exists_deliver
  obtain ⟨switch, delivers⟩ := started
  exact ⟨switch, emptied, _, _, _, fun _ => rfl, fun _ => rfl, batch, delivers⟩

end Progress

end Faucet.Flooding
