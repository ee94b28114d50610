import Faucet.OpenFlow.SentFlows

/-!
# Batches about one table at a time

A batch without deletes of all tables is always sent, and a delete of it is left out
only for an add of its own key. What becomes of a flow is then read off the batch:
it is added (`send_added`), it is kept (`send_kept`) or it is removed (`send_removed`).
-/

set_option autoImplicit false

namespace Faucet.OpenFlow

/-- The switch handles what the pass makes of a batch. -/
def Switch.send (shuffle : Shuffle) (useBarriers : Bool) (switch : Switch) (input : List Ofmsg) :
    Option Switch :=
  (valveFlowreorder shuffle useBarriers input).map switch.applyAll

/-- No delete of the batch is for all tables, and flows of this table are only added and
deleted. -/
structure ByTable (table : Fin 255) (input : List Ofmsg) : Prop where
  oneTable : ∀ mod, .flowMod mod ∈ input → mod.tableId ≠ ofpttAll
  noModify : ∀ mod, .flowMod mod ∈ input → mod.tableId = table.val →
    mod.command ≠ .modifyStrict

section Batch

variable {shuffle : Shuffle} {useBarriers : Bool} {switch next : Switch} {input : List Ofmsg}
  {flow : FlowId} {mod : FlowMod}

/-! ## What is sent -/

theorem oneTable_of_global (kind : msgKind (.flowMod mod) = .deleteglobal) :
    mod.tableId = ofpttAll := by
  by_contra oneTable
  have notGlobal : mod.isGlobalFlowdel = false := by
    simp [FlowMod.isGlobalFlowdel, oneTable]
  rw [msgKind, notGlobal, if_neg Bool.false_ne_true] at kind
  split at kind <;> cases kind

theorem outcome_concat_add {ofmsgs : List Ofmsg} (isAdd : mod.command = .add) :
    outcome (ofmsgs ++ [.flowMod mod]) = .installed mod.entry := by
  rw [outcome, List.foldl_append, List.foldl_cons, List.foldl_nil]
  cases ofmsgs.foldl Outcome.next .unchanged <;> simp [Outcome.next, isAdd]

namespace ByTable

variable {table : Fin 255} (byTable : ByTable table input)
include byTable

theorem not_mixesDeletes : ¬ MixesDeletes input := by
  intro mixes
  obtain ⟨⟨ofmsg, member, _, _, table, _⟩, _⟩ := mixes
  cases ofmsg with
  | flowMod mod => exact byTable.oneTable mod member (Option.some.inj table)
  | _ => cases table

theorem exists_deletes :
    ∃ deletes, dedupeOverlapsOfmsgs id (withoutSuppressed input) = some deletes := by
  rw [← Option.ne_none_iff_exists']
  intro failed
  exact byTable.not_mixesDeletes (mixesDeletes_iff.mp (dedupeOverlapsOfmsgs_eq_none.mp failed))

/-- The pass returns. -/
theorem exists_send : ∃ next, switch.send shuffle useBarriers input = some next := by
  obtain ⟨deletes, returned⟩ := byTable.exists_deletes
  rw [Switch.send, valveFlowreorder, returned]
  exact ⟨_, rfl⟩

/-- Only an add of its key stands for a delete. -/
theorem readded_of_dropped (dropped : Dropped input (.flowMod mod)) :
    Readded input (.flowMod mod) := by
  obtain ⟨_, suppressed | overlapped | readded⟩ := dropped
  · obtain ⟨wide, member, kind, type⟩ := suppressed
    cases wide with
    | flowMod wide => exact absurd (oneTable_of_global kind) (byTable.oneTable wide member)
    | _ => cases type
  · obtain ⟨_, wide, member, _, table, _⟩ := overlapped
    cases wide with
    | flowMod wide => exact absurd (Option.some.inj table) (byTable.oneTable wide member)
    | _ => cases table
  · exact readded

theorem msgKind_of_delete (member : .flowMod mod ∈ input) (isDel : mod.isFlowdel = true) :
    msgKind (.flowMod mod) = .delete := by
  rcases msgKind_flowMod mod with ⟨_, kind | kind⟩ | ⟨notDel, _⟩
  · exact absurd (oneTable_of_global kind) (byTable.oneTable mod member)
  · exact kind
  · cases notDel.symm.trans isDel

/-! ## What becomes of a flow -/

/-- What is sent does to a flow: the deletes that no add stands for, then the adds. -/
theorem send_flows (flow : FlowId)
    (sends : switch.send shuffle useBarriers input = some next) :
    ∃ gone : FlowEntry → Bool, (∀ entry, gone entry = true ↔ RemovedBySent input flow entry) ∧
      next.flows flow = (outcome (OrderedDict.values flowmodkey (input.filter (sets flow)))).run
        ((switch.flows flow).filter fun entry => !gone entry) := by
  obtain ⟨deletes, returned⟩ := byTable.exists_deletes
  rw [Switch.send, valveFlowreorder, returned] at sends
  cases sends
  refine ⟨fun entry => (sent shuffle input deletes .deleteglobal ++
    sent shuffle input deletes .delete).any (removesFlow flow entry),
    fun entry => removed_sent_iff returned, ?_⟩
  rw [Switch.applyAll_flows, foldl_sent_flows returned]

variable (inTable : flow.tableId = table)
include inTable

theorem add_of_sets (member : .flowMod mod ∈ input) (isSet : sets flow (.flowMod mod) = true) :
    mod.command = .add := by
  rw [sets, Bool.and_eq_true, FlowMod.isFlowdel, FlowMod.names, Bool.and_eq_true,
    Bool.and_eq_true, beq_iff_eq, inTable] at isSet
  have noModify := byTable.noModify mod member isSet.2.1.1
  cases command : mod.command <;> simp_all

theorem filter_sets_of_not_adds (notAdded : ¬ Adds input flow) : input.filter (sets flow) = [] := by
  rw [List.filter_eq_nil_iff]
  intro ofmsg member isSet
  cases ofmsg with
  | flowMod mod =>
      refine notAdded ⟨mod, member, byTable.add_of_sets inTable member isSet, ?_⟩
      rw [sets, Bool.and_eq_true] at isSet
      exact isSet.2
  | _ => cases isSet

/-- A flow that the batch adds has the entry of one of its adds. -/
theorem send_added (sends : switch.send shuffle useBarriers input = some next)
    (added : Adds input flow) :
    ∃ mod, .flowMod mod ∈ input ∧ mod.command = .add ∧ mod.names flow = true ∧
      next.flows flow = some mod.entry := by
  have setsOnly : ∀ ofmsg ∈ OrderedDict.values flowmodkey (input.filter (sets flow)),
      ∃ mod, ofmsg = .flowMod mod ∧ .flowMod mod ∈ input ∧ mod.command = .add ∧
        mod.names flow = true := by
    intro ofmsg member
    obtain ⟨member, isSet⟩ := List.mem_filter.mp (OrderedDict.mem_of_mem_values member)
    cases ofmsg with
    | flowMod mod =>
        refine ⟨mod, rfl, member, byTable.add_of_sets inTable member isSet, ?_⟩
        rw [sets, Bool.and_eq_true] at isSet
        exact isSet.2
    | _ => cases isSet
  have some_set : OrderedDict.values flowmodkey (input.filter (sets flow)) ≠ [] := by
    obtain ⟨mod, member, isAdd, named⟩ := added
    have isSet : sets flow (.flowMod mod) = true := by simp [sets, FlowMod.isFlowdel, isAdd, named]
    have kept : ∃ other ∈ OrderedDict.values flowmodkey (input.filter (sets flow)),
        flowmodkey other = flowmodkey (.flowMod mod) :=
      OrderedDict.exists_mem_values (List.mem_filter.mpr ⟨member, isSet⟩)
    obtain ⟨other, present, _⟩ := kept
    exact List.ne_nil_of_mem present
  obtain ⟨gone, _, flows⟩ := byTable.send_flows flow sends
  obtain ⟨earlier, last, split⟩ := List.eq_nil_or_concat'
    (OrderedDict.values flowmodkey (input.filter (sets flow))) |>.resolve_left some_set
  obtain ⟨mod, rfl, member, isAdd, named⟩ := setsOnly last (by simp [split])
  refine ⟨mod, member, isAdd, named, ?_⟩
  rw [flows, split, outcome_concat_add isAdd]
  rfl

/-- A flow that the batch neither adds nor removes stays as it is. -/
theorem send_kept (sends : switch.send shuffle useBarriers input = some next)
    (notAdded : ¬ Adds input flow)
    (free : ∀ mod, .flowMod mod ∈ input → mod.reaches flow = true →
      Dropped input (.flowMod mod)) :
    next.flows flow = switch.flows flow := by
  obtain ⟨gone, removed, flows⟩ := byTable.send_flows flow sends
  rw [flows, byTable.filter_sets_of_not_adds inTable notAdded, OrderedDict.values_nil]
  have stays : ∀ entry, gone entry = false := by
    intro entry
    rw [← Bool.not_eq_true, removed]
    intro isRemoved
    obtain ⟨mod, member, kept, removes⟩ := isRemoved
    exact kept (free mod member (removes_iff.mp removes).1)
  cases switch.flows flow <;> simp [outcome, Outcome.run, stays]

/-- A flow that the batch does not add goes with a delete, whatever it outputs to, that
no add stands for. -/
theorem send_removed (sends : switch.send shuffle useBarriers input = some next)
    (notAdded : ¬ Adds input flow) (member : .flowMod mod ∈ input)
    (reaches : mod.reaches flow = true) (anyPort : mod.outPort = none)
    (notReadded : ¬ Readded input (.flowMod mod)) : next.flows flow = none := by
  obtain ⟨gone, removed, flows⟩ := byTable.send_flows flow sends
  rw [flows, byTable.filter_sets_of_not_adds inTable notAdded, OrderedDict.values_nil]
  have goes : ∀ entry, gone entry = true := by
    intro entry
    rw [removed]
    refine ⟨mod, member, fun dropped => notReadded (byTable.readded_of_dropped dropped), ?_⟩
    rw [removes_iff]
    exact ⟨reaches, fun port same => by cases anyPort.symm.trans same⟩
  cases switch.flows flow <;> simp [outcome, Outcome.run, goes]

/-- Of two adds of a flow the later one counts. -/
theorem send_last {earlier : List Ofmsg} (sends : switch.send shuffle useBarriers input = some next)
    (adds : input.filter (sets flow) = earlier ++ [.flowMod mod]) (few : earlier.length ≤ 1) :
    next.flows flow = some mod.entry := by
  obtain ⟨gone, _, flows⟩ := byTable.send_flows flow sends
  have isSet : .flowMod mod ∈ input.filter (sets flow) := by simp [adds]
  obtain ⟨member, isSet⟩ := List.mem_filter.mp isSet
  have isAdd := byTable.add_of_sets inTable member isSet
  obtain ⟨before, values⟩ : ∃ before, OrderedDict.values flowmodkey (earlier ++ [.flowMod mod]) =
      before ++ [.flowMod mod] := by
    match earlier, few with
    | [], _ => exact ⟨[], rfl⟩
    | [other], _ =>
        by_cases same : flowmodkey other = flowmodkey (.flowMod mod)
        · exact ⟨[], by simp [OrderedDict.values, OrderedDict.assign, same]⟩
        · exact ⟨[other], by simp [OrderedDict.values, OrderedDict.assign, same]⟩
  rw [flows, adds, values, outcome_concat_add isAdd]
  rfl

end ByTable

end Batch

end Faucet.OpenFlow
