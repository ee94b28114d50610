import Faucet.Flooding.Calls

/-!
# The messages of a call

A call sends, for each VLAN that it builds the rules of (`Builds`), adds or modifies of
the rules that are wanted and deletes of rules of ports. The other messages of its batch
are about other tables and other groups. So a flow of the flood table is set by a rule
that is wanted (`Sends.setter`), and it is removed by a delete for its port or with its
group (`Sends.removed`).
-/

set_option autoImplicit false

namespace Faucet.Flooding

open OpenFlow

/-! ## Messages of one VLAN -/

section Vlan

variable {dp : Dp} {vlan : Vlan} {command : FlowCommand} {coldStart : Bool} {flow : FlowId}
  {ofmsg : Ofmsg} {vid vid' : Vid} {port : PortNo} {dst dst' : FloodDst} {inPort : Option PortNo}

theorem mem_floodGroupMods {mod : EntryMod Group} : mod ∈ vlan.floodGroupMods ↔
    ∃ unicast, mod = .delete (vlan.floodGroupId unicast) ∨
      mod = .add (vlan.floodGroupId unicast) (vlan.floodGroup unicast) := by
  simp only [Vlan.floodGroupMods, List.mem_flatMap, List.mem_cons, List.not_mem_nil, or_false,
    Bool.exists_bool]
  simp

theorem groupMod_mem_buildFloodRules {mod : EntryMod Group} :
    .groupMod mod ∈ dp.buildFloodRules vlan command coldStart ↔
      dp.useGroupTable = true ∧ mod ∈ vlan.floodGroupMods := by
  rw [Dp.buildFloodRules, List.mem_append]
  split
  next group => simp [Dp.buildGroupFloodRules, group]
  next group => simp [group]

theorem floodGroup_of_id {unicast unicast' : Bool}
    (same : vlan.floodGroupId unicast = vlan.floodGroupId unicast') :
    vlan.floodGroup unicast = vlan.floodGroup unicast' := by
  unfold Vlan.floodGroup Vlan.floodGroupActs
  unfold Vlan.floodGroupId vlanGroupOffset at same
  cases unicast <;> cases unicast' <;> cases differs : vlan.unicastGroupDiffers <;>
    simp_all

theorem vid_of_floodGroupId {vlan' : Vlan} {unicast unicast' : Bool}
    (valid : vlan.vid < vlanGroupOffset) (valid' : vlan'.vid < vlanGroupOffset)
    (same : vlan.floodGroupId unicast = vlan'.floodGroupId unicast') : vlan.vid = vlan'.vid := by
  have apart : ∀ {small large : ℕ}, small < vlanGroupOffset → small ≠ large + vlanGroupOffset := by
    intro small large bound equal
    omega
  unfold Vlan.floodGroupId at same
  split at same <;> split at same
  · exact Nat.add_right_cancel same
  · exact absurd same.symm (apart valid')
  · exact absurd same (apart valid)
  · exact same

theorem isFlowdel_buildFloodRule {floodActs : List Act}
    (isSet : command = .add ∨ command = .modifyStrict) :
    (dp.buildFloodRule command vid inPort dst floodActs).isFlowdel = false := by
  rcases isSet with rfl | rfl <;> rfl

/-- An add or a modify is of a rule that is wanted. -/
theorem setter_of_vlan (sent : ofmsg ∈ dp.buildFloodRules vlan command coldStart)
    (isSet : sets flow ofmsg = true) :
    ∃ dst ∈ dp.vlanFloodDsts vlan.toVlanConf, ∃ inPort floodActs,
      dp.ruleActs vlan dst inPort = some floodActs ∧
      flow = dp.flowId vlan.vid (inPort.map (·.number)) dst ∧
      ofmsg = .flowMod
        (dp.buildFloodRule command vlan.vid (inPort.map (·.number)) dst floodActs) := by
  cases ofmsg with
  | flowMod mod =>
      rw [sets, Bool.and_eq_true, Bool.not_eq_true'] at isSet
      obtain ⟨dst, listed, ⟨inPort, floodActs, wanted, rfl⟩ | ⟨_, port, _, _, rfl⟩⟩ :=
        Dp.mem_buildFloodRules.mp sent
      · exact ⟨dst, listed, inPort, floodActs, wanted, Dp.names_buildFloodRule.mp isSet.2, rfl⟩
      · cases isSet.1
  | _ => cases isSet

theorem sets_buildFloodRule (floodActs : List Act)
    (isSet : command = .add ∨ command = .modifyStrict) :
    sets (dp.flowId vid inPort dst)
      (.flowMod (dp.buildFloodRule command vid inPort dst floodActs)) = true := by
  rw [sets, isFlowdel_buildFloodRule isSet, Dp.names_buildFloodRule.mpr rfl]
  rfl

theorem reaches_floodRuleDel : (dp.floodRuleDel vid port dst).reaches flow = true ↔
    flow.tableId = dp.floodTable ∧
      (floodMatch vid (some port) dst).covers flow.matchFields = true := by
  have oneTable : dp.floodTable.val ≠ ofpttAll := Nat.ne_of_lt dp.floodTable.isLt
  rw [FlowMod.reaches, Bool.and_eq_true, Bool.or_eq_true, beq_iff_eq, beq_iff_eq, Fin.ext_iff,
    eq_comm (a := flow.tableId.val)]
  exact and_congr (or_iff_right oneTable) Iff.rfl

end Vlan

/-! ## Messages of a call -/

/-- The command of the rules that are sent at the end. -/
def PortsCommand.flowCommand : PortsCommand → FlowCommand
  | .add => .add
  | .delete => .modifyStrict

/-- The call builds the rules of the VLAN, at once or at the end. -/
inductive Builds (dp : Dp) (command : PortsCommand) (handled : PortsBatch) :
    Vlan → FlowCommand → Prop where
  | early {vlan : Vlan} (sent : vlan ∈ handled.early)
      (unreserved : vlan.reservedInternalVlan = false) : Builds dp command handled vlan .add
  | final {conf : VlanConf} (known : conf ∈ dp.vlans) (touched : conf.vid ∈ handled.touched)
      (unreserved : command = .add → conf.reservedInternalVlan = false) :
      Builds dp command handled (conf.resetPorts handled.ports) command.flowCommand

section Call

variable {dp : Dp} {command : PortsCommand} {order : SetOrder} {handled : PortsBatch}
  {vlan : Vlan} {flowCommand : FlowCommand} {ofmsg : Ofmsg} {ports : List Port}

theorem mem_addVlan {coldStart : Bool} : ofmsg ∈ dp.addVlan vlan coldStart ↔
    vlan.reservedInternalVlan = false ∧ ofmsg ∈ dp.buildFloodRules vlan .add coldStart := by
  rw [Dp.addVlan]
  cases vlan.reservedInternalVlan <;> simp

theorem mem_finalMessages {vlans : List Vlan} : ofmsg ∈ dp.finalMessages command vlans ↔
    ∃ vlan ∈ vlans, (command = .add → vlan.reservedInternalVlan = false) ∧
      ofmsg ∈ dp.buildFloodRules vlan command.flowCommand false := by
  cases command with
  | add =>
      simp only [Dp.finalMessages, List.mem_flatMap, mem_addVlan, PortsCommand.flowCommand,
        forall_const]
  | delete =>
      simp only [Dp.finalMessages, List.mem_flatMap, Dp.updateVlan, PortsCommand.flowCommand,
        reduceCtorEq, false_implies, true_and]

theorem mem_batchMessages : ofmsg ∈ dp.batchMessages command order handled ↔
    ∃ vlan flowCommand, Builds dp command handled vlan flowCommand ∧
      ofmsg ∈ dp.buildFloodRules vlan flowCommand false := by
  rw [Dp.batchMessages, List.mem_append, List.mem_flatMap, mem_finalMessages]
  constructor
  · rintro (⟨vlan, sent, built⟩ | ⟨vlan, resolved, unreserved, built⟩)
    · obtain ⟨unreserved, built⟩ := mem_addVlan.mp built
      exact ⟨vlan, .add, .early sent unreserved, built⟩
    · obtain ⟨conf, known, touched, rfl⟩ := Dp.mem_resolve.mp resolved
      exact ⟨_, _, .final known (order.mem_run.mp touched) unreserved, built⟩
  · rintro ⟨vlan, flowCommand, builds, built⟩
    cases builds with
    | early sent unreserved => exact .inl ⟨_, sent, mem_addVlan.mpr ⟨unreserved, built⟩⟩
    | final known touched unreserved =>
        exact .inr ⟨_, Dp.mem_resolve.mpr ⟨_, known, order.mem_run.mpr touched, rfl⟩, unreserved,
          built⟩

theorem Builds.isSet (builds : Builds dp command handled vlan flowCommand) :
    flowCommand = .add ∨ flowCommand = .modifyStrict := by
  cases builds with
  | early => exact .inl rfl
  | final => cases command <;> simp [PortsCommand.flowCommand]

/-- What is built is a VLAN that was touched, with its ports at some time of the call. -/
theorem Builds.exists_conf (builds : Builds dp command handled vlan flowCommand)
    (follows : Dp.Follows dp ports handled) :
    ∃ conf ∈ dp.vlans, ∃ snapshot : List Port,
      snapshot.map Port.config = ports.map Port.config ∧ vlan = conf.resetPorts snapshot ∧
        conf.vid ∈ handled.touched := by
  cases builds with
  | early sent => exact follows.early _ sent
  | final known touched => exact ⟨_, known, _, follows.config, rfl, touched⟩

end Call

/-- The batch has the messages of the call about flooding, and others. -/
structure Sends (dp : Dp) (command : PortsCommand) (handled : PortsBatch)
    (input : List Ofmsg) : Prop where
  built : ∀ ofmsg, dp.concerns ofmsg = true → (ofmsg ∈ input ↔
    ∃ vlan flowCommand, Builds dp command handled vlan flowCommand ∧
      ofmsg ∈ dp.buildFloodRules vlan flowCommand false)

section Batch

variable {dp : Dp} {command : PortsCommand} {order : SetOrder} {handled : PortsBatch}
  {input : List Ofmsg} {ofmsg : Ofmsg} {flow : FlowId} {entry : FlowEntry} {mod : FlowMod}

theorem concerns_of_sets (inTable : flow.tableId = dp.floodTable) (isSet : sets flow ofmsg = true) :
    dp.concerns ofmsg = true := by
  cases ofmsg with
  | flowMod mod =>
      rw [sets, Bool.and_eq_true, FlowMod.names, Bool.and_eq_true, Bool.and_eq_true] at isSet
      rw [Dp.concerns, ← inTable, isSet.2.1.1, Bool.true_or]
  | _ => cases isSet

/-- The adds and modifies of a flow of the flood table are those of the call. -/
theorem filter_sets_concerns (dp : Dp) (inTable : flow.tableId = dp.floodTable) :
    (input.filter dp.concerns).filter (sets flow) = input.filter (sets flow) := by
  rw [List.filter_filter]
  refine List.filter_congr fun ofmsg _ => ?_
  rw [Bool.and_eq_left_iff_imp]
  exact concerns_of_sets inTable

theorem sends_of_filter
    (batch : input.filter dp.concerns = dp.batchMessages command order handled) :
    Sends dp command handled input := by
  refine ⟨fun ofmsg concerns => ?_⟩
  have ofCall : ofmsg ∈ dp.batchMessages command order handled ↔ _ := mem_batchMessages
  rw [← ofCall, ← batch, List.mem_filter, concerns]
  exact (and_iff_left rfl).symm

theorem concerns_of_table (inTable : mod.tableId = dp.floodTable.val ∨ mod.tableId = ofpttAll) :
    dp.concerns (.flowMod mod) = true := by
  simpa [Dp.concerns] using inTable

namespace Sends

variable (sends : Sends dp command handled input)
include sends

/-- A message of the batch about all tables, or about the flood table, is of the call. -/
theorem flowMod_of_mem (member : .flowMod mod ∈ input)
    (inTable : mod.tableId = dp.floodTable.val ∨ mod.tableId = ofpttAll) :
    ∃ vlan flowCommand, Builds dp command handled vlan flowCommand ∧
      .flowMod mod ∈ dp.buildFloodRules vlan flowCommand false :=
  (sends.built _ (concerns_of_table inTable)).mp member

theorem tableId_cookie (member : .flowMod mod ∈ input)
    (inTable : mod.tableId = dp.floodTable.val ∨ mod.tableId = ofpttAll) :
    mod.tableId = dp.floodTable.val ∧ mod.cookie = dp.flowCookie := by
  obtain ⟨vlan, flowCommand, _, built⟩ := sends.flowMod_of_mem member inTable
  obtain ⟨dst, _, ⟨_, _, _, rfl⟩ | ⟨_, _, _, _, rfl⟩⟩ := Dp.mem_buildFloodRules.mp built
  · exact ⟨rfl, rfl⟩
  · exact ⟨rfl, rfl⟩

theorem oneTable : OneTable dp.floodTable dp.flowCookie input where
  oneTable := by
    intro mod member all
    have inTable := (sends.tableId_cookie member (.inr all)).1
    exact Nat.ne_of_lt dp.floodTable.isLt (inTable.symm.trans all)
  sameCookie := fun mod member inTable => (sends.tableId_cookie member (.inl inTable)).2

variable (inTable : flow.tableId = dp.floodTable)
include inTable

/-- **An add or a modify of a flow** is of a rule that is wanted when it is built. -/
theorem setter (member : ofmsg ∈ input) (isSet : sets flow ofmsg = true) :
    ∃ vlan flowCommand, Builds dp command handled vlan flowCommand ∧
      ∃ dst ∈ dp.vlanFloodDsts vlan.toVlanConf, ∃ inPort floodActs,
        dp.ruleActs vlan dst inPort = some floodActs ∧
        flow = dp.flowId vlan.vid (inPort.map (·.number)) dst ∧
        ofmsg = .flowMod
          (dp.buildFloodRule flowCommand vlan.vid (inPort.map (·.number)) dst floodActs) := by
  obtain ⟨vlan, flowCommand, builds, built⟩ :=
    (sends.built ofmsg (concerns_of_sets inTable isSet)).mp member
  exact ⟨vlan, flowCommand, builds, setter_of_vlan built isSet⟩

/-- **A flow is removed** by a delete for its port, or with a group it refers to. -/
theorem removed (removed : RemovedLinked input flow entry) :
    (∃ vlan flowCommand, Builds dp command handled vlan flowCommand ∧
      ∃ dst ∈ dp.vlanFloodDsts vlan.toVlanConf, ∃ port ∈ vlan.allPorts dst.unicast,
        dp.portRule vlan dst port = .remove ∧
        (floodMatch vlan.vid (some port.number) dst).covers flow.matchFields = true ∧
        ¬ Readded input (.flowMod (dp.floodRuleDel vlan.vid port.number dst))) ∨
    ∃ groupId, .groupMod (.delete groupId) ∈ input ∧ entry.refersTo groupId = true := by
  obtain ⟨ofmsg, member, isDel, kept, removes⟩ := removed
  cases ofmsg with
  | flowMod mod =>
      have reaches := (removes_iff.mp removes).1
      have table : mod.tableId = dp.floodTable.val ∨ mod.tableId = ofpttAll := by
        rw [FlowMod.reaches, Bool.and_eq_true, Bool.or_eq_true, beq_iff_eq, beq_iff_eq,
          inTable] at reaches
        exact reaches.1.symm
      obtain ⟨vlan, flowCommand, builds, built⟩ := sends.flowMod_of_mem member table
      obtain ⟨dst, listed, ⟨_, _, _, rfl⟩ | ⟨_, port, inVlan, rule, rfl⟩⟩ :=
        Dp.mem_buildFloodRules.mp built
      · have isDel' := FlowMod.isFlowdel_of_reaches reaches
        rw [isFlowdel_buildFloodRule builds.isSet] at isDel'
        cases isDel'
      · refine .inl ⟨vlan, flowCommand, builds, dst, listed, port, inVlan, rule,
          (reaches_floodRuleDel.mp reaches).2, fun readded => kept ?_⟩
        exact (sends.oneTable.dropped_iff_readded member rfl).mpr readded
  | groupMod mod =>
      cases mod with
      | add => cases removes
      | delete groupId => exact .inr ⟨groupId, member, removes⟩
  | _ => cases removes

end Sends

end Batch

end Faucet.Flooding
