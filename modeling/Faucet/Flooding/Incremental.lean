import Faucet.Flooding.ColdStart

/-!
# Flooding that follows the ports

A cold start installs the wanted rules (`installed_of_coldStart`) and a safe call leaves
them installed (`installed_of_step`). So in every run of safe calls the flood table does
what that of a cold start does in the same state of the ports
(`sameFlooding_of_safe`).

With a group table every deletion of a port of a VLAN is unsafe: the groups are
recreated, the rules that send to them go with the old ones, and the modifies that
follow find nothing.
-/

set_option autoImplicit false

namespace Faucet.Flooding

open OpenFlow TransitionSystem

section Call

variable {dp : Dp} {command : PortsCommand} {order : SetOrder} {handled : PortsBatch}
  {ports : List Port} {portNums : List PortNo} {input : List Ofmsg} {switch next : Switch}
  {shuffle : Shuffle} {useBarriers : Bool} {conf : VlanConf} {dst : FloodDst}
  {inPort : Option Port} {floodActs : List Act} {flow : FlowId}

/-! ## The other flows of the table -/

/-- A flow that is not a rule of the VLANs is as the cold start left it. -/
theorem other_after (calls : Handled dp command ports handled) (installed : Installed dp ports switch)
    (sends : Sends dp command handled input)
    (delivers : switch.deliver shuffle useBarriers input = some next)
    (inTable : flow.tableId = dp.floodTable) (notRule : ¬ dp.RuleId handled.ports flow) :
    next.flows flow = dp.initialFlows flow := by
  have before := installed.others flow inTable fun isRule =>
    notRule (ruleId_of_config calls.follows.config.symm isRule)
  cases initial : dp.initialFlows flow with
  | none =>
      have notAdded : ¬ Adds input flow := by
        intro added
        obtain ⟨mod, member, isAdd, isSet⟩ := adds_iff.mp added
        obtain ⟨vlan, flowCommand, builds, dst, listed, inPort, floodActs, wanted, same, sameMod⟩ :=
          sends.setter inTable member isSet
        cases sameMod
        refine notRule (same ▸ ?_)
        cases builds with
        | early sent unreserved =>
            obtain ⟨conf, known, snapshot, config, rfl, _⟩ := calls.follows.early _ sent
            exact ruleId_of_wanted (config.trans calls.follows.config.symm) known unreserved listed
              wanted
        | final known _ unreserved =>
            cases command with
            | add => exact ruleId_of_wanted rfl known (unreserved rfl) listed wanted
            | delete => cases isAdd
      refine deliver_gone delivers notAdded fun entry present => ?_
      rw [before, initial] at present
      cases present
  | some entry =>
      rw [initial] at before
      obtain ⟨ethDst, _, named, rfl⟩ := of_initialFlows initial
      rw [deliver_kept delivers, before]
      · intro ofmsg member
        by_contra isSet
        obtain ⟨vlan, _, _, dst, _, inPort, _, _, same, _⟩ :=
          sends.setter inTable member (by simpa using isSet)
        rw [same] at named
        exact vlan_not_mem_of_names_floodDrop named vlan_mem_floodMatch
      · intro entry present removed
        rw [before] at present
        cases present
        rcases sends.removed inTable removed with
          ⟨vlan, _, _, dst, _, port, _, _, covers, _⟩ | ⟨groupId, _, refers⟩
        · exact vlan_not_mem_of_names_floodDrop named
            (Match.mem_of_covers rfl covers vlan_mem_floodMatch)
        · cases refers

/-! ## The groups -/

/-- An add of a group of a VLAN is sent with the rules of that VLAN. -/
theorem builds_of_group_add {snapshot : List Port} {unicast : Bool} {content : Group}
    (calls : Handled dp command ports handled) (sends : Sends dp command handled input)
    (group : dp.useGroupTable = true) (known : conf ∈ dp.vlans)
    (member : .groupMod (.add ((conf.resetPorts snapshot).floodGroupId unicast) content) ∈ input) :
    ∃ vlan flowCommand, Builds dp command handled vlan flowCommand ∧ vlan.vid = conf.vid ∧
      ∃ unicast', vlan.floodGroupId unicast' = (conf.resetPorts snapshot).floodGroupId unicast ∧
        content = vlan.floodGroup unicast' := by
  obtain ⟨vlan, flowCommand, builds, built⟩ :=
    (sends.built _ (concerns_of_floodGroup group known (.inr ⟨content, rfl⟩))).mp member
  obtain ⟨_, listed⟩ := groupMod_mem_buildFloodRules.mp built
  obtain ⟨unicast', isDelete | isAdd⟩ := mem_floodGroupMods.mp listed
  · cases isDelete
  · obtain ⟨sameId, rfl⟩ := EntryMod.add.inj isAdd
    obtain ⟨other, known', snapshot', _, rfl, _⟩ := builds.exists_conf calls.follows
    refine ⟨_, _, builds, ?_, unicast', sameId.symm, rfl⟩
    exact vid_of_floodGroupId (dp.vidValid other known').2 (dp.vidValid conf known).2 sameId.symm

/-- A group of a VLAN is as it is wanted after the call. -/
theorem group_after (calls : Handled dp command ports handled) (installed : Installed dp ports switch)
    (safe : CallSafe dp ports switch command portNums handled)
    (sends : Sends dp command handled input)
    (delivers : switch.deliver shuffle useBarriers input = some next)
    (group : dp.useGroupTable = true) (known : conf ∈ dp.vlans)
    (unreserved : conf.reservedInternalVlan = false) (unicast : Bool) :
    next.groups ((conf.resetPorts handled.ports).floodGroupId unicast) =
      some ((conf.resetPorts handled.ports).floodGroup unicast) := by
  rw [sends.oneTable.deliver_groups delivers]
  by_cases touched : conf.vid ∈ handled.touched
  · have builds : Builds dp command handled (conf.resetPorts handled.ports) command.flowCommand :=
      .final known touched fun _ => unreserved
    have sent : ∀ mod ∈ (conf.resetPorts handled.ports).floodGroupMods,
        dp.concerns (.groupMod mod) = true → .groupMod mod ∈ input := by
      intro mod listed concerns
      exact (sends.built _ concerns).mpr
        ⟨_, _, builds, groupMod_mem_buildFloodRules.mpr ⟨group, listed⟩⟩
    have deleted : input.any (deletesEntry Ofmsg.groupMod? ofpgAll
        ((conf.resetPorts handled.ports).floodGroupId unicast)) = true := by
      refine List.any_eq_true.mpr ⟨_, sent _ (mem_floodGroupMods.mpr ⟨unicast, .inl rfl⟩)
        (concerns_of_floodGroup group known (.inl rfl)), ?_⟩
      exact deletesEntry_iff.mpr ⟨_, rfl, .inr rfl⟩
    rw [if_pos deleted, Option.none_or]
    refine findSome?_of_only (sent _ (mem_floodGroupMods.mpr ⟨unicast, .inr rfl⟩)
      (concerns_of_floodGroup group known (.inr ⟨_, rfl⟩))) (addedContent_iff.mpr rfl) ?_
    intro ofmsg member content adds
    rw [addedContent_iff] at adds
    subst adds
    obtain ⟨vlan, flowCommand, builds', sameVid, unicast', sameId, rfl⟩ :=
      builds_of_group_add calls sends group known member
    cases builds' with
    | early sent' =>
        exact safe.sameGroups group vlan sent' conf known sameVid.symm unicast' unicast sameId
    | final known' =>
        rw [Dp.resetPorts_vid] at sameVid
        cases eq_of_vid known' known sameVid
        exact floodGroup_of_id sameId
  · have notDeleted : ¬ input.any (deletesEntry Ofmsg.groupMod? ofpgAll
        ((conf.resetPorts handled.ports).floodGroupId unicast)) = true := by
      intro deleted
      obtain ⟨ofmsg, member, deletes⟩ := List.any_eq_true.mp deleted
      obtain ⟨groupId, rfl, isGroup⟩ := deletesEntry_iff.mp deletes
      exact touched (touched_of_group_delete calls sends group known rfl
        (isGroup.imp_right Eq.symm) member)
    have present := installed.groups group conf known unreserved unicast
    rw [← calls.frame conf touched] at present
    rw [if_neg notDeleted, present]
    rfl

/-- **A safe call leaves the wanted rules installed.** -/
theorem installed_of_call (calls : Handled dp command ports handled)
    (installed : Installed dp ports switch)
    (safe : CallSafe dp ports switch command portNums handled)
    (batch : input.filter dp.concerns = dp.batchMessages command order handled)
    (delivers : switch.deliver shuffle useBarriers input = some next) :
    Installed dp handled.ports next where
  rules := by
    intro conf known unreserved dst listed inPort watched
    by_cases touched : conf.vid ∈ handled.touched
    · cases wanted : dp.ruleActs (conf.resetPorts handled.ports) dst inPort with
      | none =>
          exact rule_absent calls installed safe batch delivers known unreserved touched listed
            watched wanted
      | some floodActs =>
          exact rule_installed calls installed safe batch delivers known unreserved touched listed
            watched wanted
    · obtain ⟨before, number, watched', same⟩ := calls.before_untouched touched watched
      have present := installed.rules conf known unreserved dst listed before watched'
      rw [← number, ← same, ← present]
      exact rule_kept calls (sends_of_filter batch) known listed touched delivers present
  others := fun flow inTable notRule =>
    other_after calls installed (sends_of_filter batch) delivers inTable notRule
  groups := fun group conf known unreserved unicast =>
    group_after calls installed safe (sends_of_filter batch) delivers group known unreserved unicast

end Call

/-! ## Runs -/

/-- The run invariant: the ports have different numbers, and the wanted rules are installed. -/
def Sound (dp : Dp) (state : State) : Prop :=
  (state.ports.map (·.number)).Nodup ∧ Installed dp state.ports state.switch

theorem step_cases {dp : Dp} {state next : State} {event : Event}
    (taken : dp.step state event = some next) :
    event.batch.filter dp.concerns = dp.batchMessages event.command event.order
        (dp.handlePorts event.command state.ports event.portNums) ∧
      next.ports = (dp.handlePorts event.command state.ports event.portNums).ports ∧
      state.switch.deliver event.shuffle event.useBarriers event.batch = some next.switch := by
  rw [Dp.step] at taken
  split at taken
  next batch =>
    obtain ⟨switch, delivers, rfl⟩ := Option.map_eq_some_iff.mp taken
    exact ⟨batch, rfl, delivers⟩
  next => cases taken

theorem installed_of_step {dp : Dp} {state next : State} {event : Event} (sound : Sound dp state)
    (safe : StepSafe dp state event) (taken : dp.step state event = some next) : Sound dp next := by
  obtain ⟨numbers, installed⟩ := sound
  obtain ⟨batch, ports, delivers⟩ := step_cases taken
  have calls := handled_of_unnoticed numbers safe.disabled
  rw [Sound, ports]
  exact ⟨calls.numbers_after, installed_of_call calls installed safe batch delivers⟩

/-- **Incremental flooding equals flooding from scratch along safe calls.** After a cold
start and any calls that are safe, the flood table does what it does after a cold start
in the state that the ports are in then. -/
theorem sameFlooding_of_safe (dp : Dp) {ports : List Port} {switch fresh : Switch} {state : State}
    (numbers : (ports.map (·.number)).Nodup) (cold : dp.ColdStart ports switch)
    (run : Reaches dp.step (StepSafe dp) ⟨ports, switch⟩ state)
    (coldNow : dp.ColdStart state.ports fresh) :
    SameFlooding dp state.ports state.switch fresh := by
  have sound : Sound dp state := run.invariant (Sound dp)
    ⟨numbers, installed_of_coldStart numbers cold⟩ installed_of_step
  exact sound.2.sameFlooding sound.1 (installed_of_coldStart sound.1 coldNow)

/-! ## Runs exist -/

section Progress

variable {dp : Dp} {ports : List Port}

/-- A set in the order of its list. -/
def listOrder : SetOrder where
  run := List.dedup
  mem_run := List.mem_dedup
  nodup_run := List.nodup_dedup

/-- The call whose batch has its own messages alone. -/
def plainCall (dp : Dp) (ports : List Port) (command : PortsCommand) (portNums : List PortNo) :
    Event where
  command := command
  portNums := portNums
  order := listOrder
  batch := dp.batchMessages command listOrder (dp.handlePorts command ports portNums)
  shuffle := noShuffle
  useBarriers := true

theorem filter_plainCall (numbers : (ports.map (·.number)).Nodup) (command : PortsCommand)
    (portNums : List PortNo) :
    (plainCall dp ports command portNums).batch.filter dp.concerns =
      dp.batchMessages command listOrder (dp.handlePorts command ports portNums) := by
  refine filter_concerns fun ofmsg sent => ?_
  obtain ⟨vlan, flowCommand, builds, built⟩ := mem_batchMessages.mp sent
  obtain ⟨conf, known, snapshot, _, rfl, _⟩ :=
    builds.exists_conf (Dp.follows_handlePorts dp command portNums numbers)
  exact concerns_of_built known built

/-- Every call can be made. -/
theorem exists_step (numbers : (ports.map (·.number)).Nodup) (switch : Switch)
    (command : PortsCommand) (portNums : List PortNo) :
    ∃ next : State, dp.step ⟨ports, switch⟩ (plainCall dp ports command portNums) = some next ∧
      next.ports = (dp.handlePorts command ports portNums).ports := by
  have batch : (plainCall dp ports command portNums).batch.filter dp.concerns = _ :=
    filter_plainCall numbers command portNums
  have handles : ∃ next, switch.deliver noShuffle true
      (plainCall dp ports command portNums).batch = some next :=
    (sends_of_filter batch).oneTable.exists_deliver
  obtain ⟨next, delivers⟩ := handles
  refine ⟨⟨_, next⟩, ?_, rfl⟩
  rw [Dp.step]
  exact (if_pos batch).trans (congrArg (Option.map _) delivers)

end Progress

/-! ## Three ports of a VLAN -/

/-- An untagged port that is up. -/
def labPort (number : PortNo) : Port where
  number := number
  lacp := 0
  enabled := true
  dynPhysUp := true
  lacpSelected := false
  lacpUnselected := false
  lacpStandby := false
  dynLacpUp := none
  dynLacpActorState := .notConfigured
  dynLacpPortSelected := .notConfigured
  hairpin := false
  mirror := []
  unicastFlood := true
  restrictedBcastArpnd := false
  loopProtectExternal := false
  nativeVlan := some 100
  dynDot1xNativeVlan := none
  taggedVlans := []

/-- Three ports. -/
def labPorts : List Port := [labPort 1, labPort 2, labPort 3]

/-- VLAN 100 with these ports. -/
def labVlan : VlanConf where
  vid := 100
  unicastFlood := true
  reservedInternalVlan := false

/-- A datapath with this VLAN, with or without groups. -/
def labDp (useGroupTable : Bool) : Dp where
  vlans := [labVlan]
  vids := by decide
  vidValid := by decide
  floodTable := 8
  flowCookie := 1
  lowestPriority := 0
  useGroupTable := useGroupTable
  combinatorialPortFlood := false
  exclusive := nofun
  restrictedBcastArpnd := false

/-- The ports once port 3 has been deleted. -/
def labPortsAfter : List Port := [labPort 1, labPort 2, (labPort 3).setPhysUp false]

theorem lab_numbers : (labPorts.map (·.number)).Nodup := by decide

theorem lab_handled (useGroupTable : Bool) :
    (labDp useGroupTable).handlePorts .delete labPorts [3] = ⟨labPortsAfter, [], [100]⟩ := rfl

/-- Deletion of a port is safe without a group table. -/
theorem lab_safe (switch : Switch) :
    CallSafe (labDp false) labPorts switch .delete [3] ⟨labPortsAfter, [], [100]⟩ where
  disabled := nofun
  deleted := nofun
  sameGroups := nofun
  rules := by
    have removes : ∀ dst ∈ (labDp false).vlanFloodDsts labVlan,
        ∀ port ∈ (labVlan.resetPorts labPortsAfter).allPorts dst.unicast, port.dynPhysUp = true →
          (labDp false).portRule (labVlan.resetPorts labPortsAfter) dst port = .remove := by
      decide
    intro conf known _ _ dst listed port inVlan isUp
    cases List.mem_singleton.mp known
    rw [RuleSafe, removes dst listed port inVlan isUp]
    rintro ⟨vlan, sent, _⟩
    cases sent

theorem sameFlooding_lab : ∃ (state : State) (fresh : Switch), state.ports = labPortsAfter ∧
    SameFlooding (labDp false) state.ports state.switch fresh := by
  obtain ⟨switch, cold⟩ := exists_coldStart (labDp false) labPorts
  obtain ⟨next, taken, ports⟩ := exists_step lab_numbers switch .delete [3]
  obtain ⟨fresh, coldNow⟩ := exists_coldStart (labDp false) next.ports
  have safe : StepSafe (labDp false) ⟨labPorts, switch⟩
      (plainCall (labDp false) labPorts .delete [3]) := lab_safe switch
  exact ⟨next, fresh, ports, sameFlooding_of_safe (labDp false) lab_numbers cold
    (.tail .refl safe taken) coldNow⟩

/-! ## With a group table -/

section Lost

variable {dp : Dp} {handled : PortsBatch} {ports : List Port} {input : List Ofmsg}
  {switch next : Switch} {shuffle : Shuffle} {useBarriers : Bool} {conf : VlanConf}
  {dst : FloodDst}

/-- Nothing stands for the delete of a group of a VLAN. -/
theorem not_dropped_group {command : PortsCommand} (calls : Handled dp command ports handled)
    (sends : Sends dp command handled input) (group : dp.useGroupTable = true) (groupId : ℕ) :
    ¬ Dropped input (.groupMod (.delete groupId)) := by
  rintro ⟨_, ⟨wide, member, kind, type⟩ | ⟨⟨_, table, _⟩, _⟩ | readded⟩
  · cases wide with
    | groupMod mod =>
        cases mod with
        | add => cases kind
        | delete all =>
            have isAll : all = ofpgAll := by
              by_contra one
              rw [msgKind, EntryMod.msgKind, if_neg one] at kind
              cases kind
            have concerns : dp.concerns (.groupMod (.delete all)) = true := by
              rw [Dp.concerns, group, isAll]
              rfl
            obtain ⟨vlan, flowCommand, builds, built⟩ := (sends.built _ concerns).mp member
            obtain ⟨conf, known, _, _, rfl, touched⟩ := builds.exists_conf calls.follows
            obtain ⟨_, listed⟩ := groupMod_mem_buildFloodRules.mp built
            obtain ⟨unicast, isDelete | isAdd⟩ := mem_floodGroupMods.mp listed
            · cases isDelete
              exact floodGroupId_ne_all known isAll
            · cases isAdd
    | _ => cases type
  · cases table
  · cases flowmodkey_isSome_of_readded readded

/-- Without early messages a deletion only modifies. -/
theorem not_adds_of_delete {flow : FlowId} (sends : Sends dp .delete handled input)
    (plain : handled.early = []) (inTable : flow.tableId = dp.floodTable) : ¬ Adds input flow := by
  intro added
  obtain ⟨mod, member, isAdd, isSet⟩ := adds_iff.mp added
  obtain ⟨vlan, flowCommand, builds, _, _, _, _, _, _, sameMod⟩ := sends.setter inTable member isSet
  cases sameMod
  cases builds with
  | early sent =>
      rw [plain] at sent
      cases sent
  | final => cases isAdd

/-- **A deletion loses the rules of the VLANs**: their groups are recreated, and a modify
finds nothing. -/
theorem rule_lost (calls : Handled dp .delete ports handled) (installed : Installed dp ports switch)
    (sends : Sends dp .delete handled input)
    (delivers : switch.deliver shuffle useBarriers input = some next)
    (group : dp.useGroupTable = true) (plain : handled.early = []) (known : conf ∈ dp.vlans)
    (unreserved : conf.reservedInternalVlan = false) (touched : conf.vid ∈ handled.touched)
    (listed : dst ∈ dp.vlanFloodDsts conf)
    (sameId : (conf.resetPorts handled.ports).floodGroupId dst.unicast =
      (conf.resetPorts ports).floodGroupId dst.unicast) :
    next.flows (dp.flowId conf.vid none dst) = none := by
  refine deliver_gone delivers (not_adds_of_delete sends plain rfl)
    fun entry present => ?_
  have notCombinatorial : dp.combinatorialPortFlood = false := by
    have exclusive := dp.exclusive
    rw [group] at exclusive
    simpa using exclusive
  have rule := installed.rules conf known unreserved dst listed none watched_none
  rw [Dp.ruleActs, Dp.vlanActs, notCombinatorial, if_neg Bool.false_ne_true, group, if_pos rfl] at rule
  rw [Option.map_none] at rule
  rw [rule] at present
  cases present
  refine ⟨.groupMod (.delete ((conf.resetPorts handled.ports).floodGroupId dst.unicast)), ?_, ?_,
    not_dropped_group calls sends group _, ?_⟩
  · refine (sends.built _ (concerns_of_floodGroup group known (.inl rfl))).mpr
      ⟨_, _, .final known touched (by simp), ?_⟩
    exact groupMod_mem_buildFloodRules.mpr ⟨group, mem_floodGroupMods.mpr ⟨_, .inl rfl⟩⟩
  · by_cases all : (conf.resetPorts handled.ports).floodGroupId dst.unicast = ofpgAll <;>
      simp [isDelete, msgKind, EntryMod.msgKind, all]
  · rw [sameId]
    simp [removesLinked, FlowEntry.refersTo, Dp.floodEntry, floodInst, List.rdropWhile,
      Instruction.refersTo, Act.refersTo]

end Lost

/-! ## A broadcast that is lost -/

section Broadcast

variable {switch next fresh : Switch} {input : List Ofmsg} {shuffle : Shuffle}
  {useBarriers : Bool} {flow : FlowId}

/-- A broadcast that comes in by port 1. -/
def labBroadcast : Packet where
  inPort := 1
  vid := 100
  ethType := 0x0806
  ethDst := 0xffffffffffff

/-- The only port that the broadcast comes in by has no rules of its own. -/
theorem lab_ruleActs {ports : List Port} (listed : ports = labPorts ∨ ports = labPortsAfter) :
    ∀ dst ∈ (labDp true).vlanFloodDsts labVlan, ∀ port ∈ ports, port.number = 1 →
      port.dynPhysUp = true ∧
        (labDp true).ruleActs (labVlan.resetPorts ports) dst (some port) = none := by
  rcases listed with rfl | rfl <;> decide

theorem lab_port_of_accepted {dst : FloodDst} {port : Port}
    (accepts : labBroadcast.accepted
      ((labDp true).flowId labVlan.vid (some port.number) dst).matchFields = true) :
    port.number = 1 :=
  (inPort_of_accepted accepts rfl).symm

/-- After the deletion of port 3 nothing floods the broadcast. -/
theorem lab_not_floods (installed : Installed (labDp true) labPorts switch)
    (batch : input.filter (labDp true).concerns =
      (labDp true).batchMessages .delete listOrder ⟨labPortsAfter, [], [100]⟩)
    (delivers : switch.deliver shuffle useBarriers input = some next) (output : Output) :
    ¬ Floods (labDp true) next labBroadcast output := by
  have calls : Handled (labDp true) .delete labPorts
      ((labDp true).handlePorts .delete labPorts [3]) := handled_of_unnoticed lab_numbers nofun
  rw [lab_handled] at calls
  have sends := sends_of_filter batch
  rintro ⟨flow, entry, selected, outputs⟩
  by_cases isRule : (labDp true).RuleId labPortsAfter flow
  · obtain ⟨conf, known, unreserved, dst, listed, inPort, member, rfl⟩ := isRule
    cases List.mem_singleton.mp known
    have absent : next.flows ((labDp true).flowId labVlan.vid (inPort.map (·.number)) dst) =
        none := by
      cases inPort with
      | none =>
          exact rule_lost calls installed sends delivers rfl rfl known unreserved
            (List.mem_singleton.mpr rfl) listed (by cases dst.unicast <;> decide)
      | some port =>
          have number := lab_port_of_accepted selected.accepts
          obtain ⟨before, member', same⟩ := exists_config calls.follows.config (member port rfl)
          have number' := (Port.number_of_config same).trans number
          obtain ⟨isUp, unwanted⟩ := lab_ruleActs (.inl rfl) dst listed before member' number'
          have rule := installed.rules labVlan known unreserved dst listed (some before) (by
            rintro _ ⟨⟩
            exact ⟨member', .inl isUp⟩)
          rw [unwanted, Option.map_some, Port.number_of_config same] at rule
          refine deliver_gone delivers (not_adds_of_delete sends rfl rfl)
            fun entry present => ?_
          rw [Option.map_some, rule] at present
          cases present
    rw [selected.present] at absent
    cases absent
  · have initial := other_after calls installed sends delivers selected.inTable isRule
    rw [selected.present] at initial
    obtain ⟨_, _, _, rfl⟩ := of_initialFlows initial.symm
    cases outputs

/-- A cold start with port 3 down floods the broadcast to port 2. -/
theorem lab_floods (installed : Installed (labDp true) labPortsAfter fresh) :
    Floods (labDp true) fresh labBroadcast ⟨2, false⟩ := by
  have known : labVlan ∈ (labDp true).vlans := List.mem_singleton.mpr rfl
  have listed : ⟨false, none, some (0xffffffffffff, macByteMask 6)⟩ ∈
      (labDp true).vlanFloodDsts labVlan := by decide
  have rule := installed.rules labVlan known rfl _ listed none watched_none
  have wanted : (labDp true).ruleActs (labVlan.resetPorts labPortsAfter)
      ⟨false, none, some (0xffffffffffff, macByteMask 6)⟩ none = some [.group 100] := by decide
  rw [wanted] at rule
  refine ⟨_, _, ⟨rfl, rule, by decide, ?_⟩, ?_⟩
  · intro other inTable present accepts
    by_cases isRule : (labDp true).RuleId labPortsAfter other
    · obtain ⟨conf, known, unreserved, dst, listed, inPort, member, rfl⟩ := isRule
      cases List.mem_singleton.mp known
      cases inPort with
      | none =>
          have highest : ∀ dst ∈ (labDp true).vlanFloodDsts labVlan,
              floodPriority none dst ≤ 0x2030 := by decide
          exact highest dst listed
      | some port =>
          have number := lab_port_of_accepted accepts
          obtain ⟨isUp, unwanted⟩ := lab_ruleActs (.inr rfl) dst listed port (member port rfl) number
          rw [installed.rules labVlan known unreserved dst listed (some port) (by
            rintro _ ⟨⟩
            exact ⟨member port rfl, .inl isUp⟩), unwanted] at present
          exact absurd rfl present
    · rw [installed.others other inTable isRule] at present
      obtain ⟨_, initial⟩ := Option.ne_none_iff_exists'.mp present
      obtain ⟨ethDst, initialised, named, _⟩ := of_initialFlows initial
      have highest : ∀ mod ∈ (labDp true).coldStartDrops, mod.priority ≤ 0x2030 := by decide
      rw [FlowMod.names, Bool.and_eq_true, Bool.and_eq_true, beq_iff_eq, beq_iff_eq] at named
      rw [← named.1.2]
      exact highest _ initialised
  · have group : fresh.groups 100 = some ((labVlan.resetPorts labPortsAfter).floodGroup false) :=
      installed.groups rfl labVlan known rfl false
    have outputs : entryOutputs fresh.groups labBroadcast.inPort
        ((labDp true).floodEntry [.group 100]) =
          groupOutputs 1 true ((labVlan.resetPorts labPortsAfter).floodGroup false) := by
      simp [entryOutputs, Dp.floodEntry, floodInst, List.rdropWhile, actOutputs, group, labBroadcast]
    rw [outputs]
    decide

end Broadcast

/-- Incremental flooding differs from flooding from scratch once a port has been deleted. -/
theorem not_sameFlooding_of_delete :
    ¬ ∀ (dp : Dp) (ports : List Port) (switch fresh : Switch) (state : State),
      (ports.map (·.number)).Nodup → dp.ColdStart ports switch →
      Reaches dp.step (fun _ _ => True) ⟨ports, switch⟩ state → dp.ColdStart state.ports fresh →
      SameFlooding dp state.ports state.switch fresh := by
  intro same
  obtain ⟨switch, cold⟩ := exists_coldStart (labDp true) labPorts
  obtain ⟨next, taken, ports⟩ := exists_step lab_numbers switch .delete [3]
  obtain ⟨fresh, coldNow⟩ := exists_coldStart (labDp true) next.ports
  have floods := same (labDp true) labPorts switch fresh next lab_numbers cold
    (.tail .refl trivial taken) coldNow labBroadcast ⟨2, false⟩
  obtain ⟨batch, ports', delivers⟩ := step_cases taken
  change next.ports = labPortsAfter at ports'
  rw [ports'] at floods coldNow
  have installed := installed_of_coldStart lab_numbers cold
  exact lab_not_floods installed batch delivers _ ((floods (by decide)).mpr
    (lab_floods (installed_of_coldStart (by decide) coldNow)))

end Faucet.Flooding
