import Faucet.OpenFlow.TableBatch

/-!
# A switch that follows references to groups

When a group is deleted the flows that refer to it go with it, and a strict modify
of a flow that is not there does nothing.

What a batch does to a flow is then read off the batch as the pass reorders it: the
last add or modify of the flow counts (`deliver_added`, `deliver_modified`), after the
deletes of flows and groups (`deliver_kept`, `deliver_gone`).
-/

set_option autoImplicit false

namespace Faucet.OpenFlow

/-! ## References -/

/-- The action is for the group. -/
def Act.refersTo (groupId : Nat) : Act → Bool
  | .group id => groupId == ofpgAll || id == groupId
  | _ => false

/-- An action of the instruction is for the group. -/
def Instruction.refersTo (groupId : Nat) : Instruction → Bool
  | .applyActions actions => actions.any (·.refersTo groupId)
  | _ => false

/-- The entry has an action that sends to the group, or to any group for `OFPG_ALL`. -/
def FlowEntry.refersTo (entry : FlowEntry) (groupId : Nat) : Bool :=
  entry.instructions.any (·.refersTo groupId)

namespace Switch

/-- The switch handles a message; flows go with the group they refer to. -/
def handle (switch : Switch) : Ofmsg → Switch
  | .groupMod (.delete groupId) =>
      { switch.apply (.groupMod (.delete groupId)) with
        flows := fun id => (switch.flows id).filter fun entry => !entry.refersTo groupId }
  | ofmsg => switch.apply ofmsg

/-- The switch handles the messages in their order. -/
def handleAll (switch : Switch) (ofmsgs : List Ofmsg) : Switch := ofmsgs.foldl handle switch

/-- The switch handles what the pass makes of a batch. -/
def deliver (shuffle : Shuffle) (useBarriers : Bool) (switch : Switch) (input : List Ofmsg) :
    Option Switch :=
  (valveFlowreorder shuffle useBarriers input).map switch.handleAll

end Switch

/-! ## Flow by flow -/

/-- What any message makes of a flow. -/
def linkedEffect (flow : FlowId) (current : Option FlowEntry) : Ofmsg → Option FlowEntry
  | .groupMod (.delete groupId) => current.filter fun entry => !entry.refersTo groupId
  | ofmsg => flowEffect flow current ofmsg

/-- A delete removes the flow, itself or with its group. -/
def removesLinked (flow : FlowId) (entry : FlowEntry) : Ofmsg → Bool
  | .flowMod mod => mod.removes flow entry
  | .groupMod (.delete groupId) => entry.refersTo groupId
  | _ => false

section Effect

variable {flow : FlowId} {entry : FlowEntry} (switch : Switch) (ofmsgs : List Ofmsg)

theorem Switch.handle_flows (ofmsg : Ofmsg) (flow : FlowId) :
    (switch.handle ofmsg).flows flow = linkedEffect flow (switch.flows flow) ofmsg := by
  cases ofmsg with
  | groupMod mod => cases mod <;> rfl
  | _ => rfl

theorem Switch.handleAll_flows (flow : FlowId) :
    (switch.handleAll ofmsgs).flows flow = ofmsgs.foldl (linkedEffect flow) (switch.flows flow) := by
  induction ofmsgs generalizing switch with
  | nil => rfl
  | cons ofmsg rest ih =>
      rw [List.foldl_cons, ← switch.handle_flows]
      exact ih _

theorem Switch.handleAll_groups (groupId : Nat) :
    (switch.handleAll ofmsgs).groups groupId = (switch.applyAll ofmsgs).groups groupId := by
  have agree : ∀ first second : Switch, first.groups = second.groups →
      (first.handleAll ofmsgs).groups = (second.applyAll ofmsgs).groups := by
    induction ofmsgs with
    | nil => exact fun _ _ same => same
    | cons ofmsg rest ih =>
        intro first second same
        refine ih _ _ ?_
        cases ofmsg with
        | groupMod mod => cases mod <;> simp only [Switch.handle, Switch.apply, same]
        | _ => exact same
  exact congrFun (agree switch switch rfl) groupId

theorem linkedEffect_delete {ofmsg : Ofmsg} (isDel : isDelete ofmsg = true)
    (current : Option FlowEntry) :
    linkedEffect flow current ofmsg =
      current.filter fun entry => !removesLinked flow entry ofmsg := by
  cases ofmsg with
  | flowMod mod => exact flowEffect_delete isDel current
  | groupMod mod =>
      cases mod with
      | add => cases isDel
      | delete => rfl
  | _ => cases current <;> rfl

theorem foldl_linkedDeletes {ofmsgs : List Ofmsg}
    (deletes : ∀ ofmsg ∈ ofmsgs, isDelete ofmsg = true) (current : Option FlowEntry) :
    ofmsgs.foldl (linkedEffect flow) current =
      current.filter fun entry => !ofmsgs.any (removesLinked flow entry) := by
  induction ofmsgs generalizing current with
  | nil => cases current <;> rfl
  | cons ofmsg rest ih =>
      rw [List.foldl_cons, ih fun other member => deletes other (List.mem_cons_of_mem _ member),
        linkedEffect_delete (deletes ofmsg List.mem_cons_self)]
      simp

theorem foldl_linkedSets {ofmsgs : List Ofmsg} (areSets : ∀ ofmsg ∈ ofmsgs, msgKind ofmsg = .flowaddmod)
    (current : Option FlowEntry) :
    ofmsgs.foldl (linkedEffect flow) current = ofmsgs.foldl (flowEffect flow) current := by
  induction ofmsgs generalizing current with
  | nil => rfl
  | cons ofmsg rest ih =>
      obtain ⟨mod, rfl, _⟩ := flowMod_of_flowaddmod (areSets _ List.mem_cons_self)
      exact ih (fun other member => areSets other (List.mem_cons_of_mem _ member)) _

end Effect

/-! ## What a batch does -/

/-- No delete of the batch is for all tables, and the messages about this table have
one cookie. -/
structure OneTable (table : Fin 255) (cookie : Nat) (input : List Ofmsg) : Prop where
  oneTable : ∀ mod, .flowMod mod ∈ input → mod.tableId ≠ ofpttAll
  sameCookie : ∀ mod, .flowMod mod ∈ input → mod.tableId = table.val → mod.cookie = cookie

/-- A delete that is sent removes the flow, itself or with its group. -/
def RemovedLinked (input : List Ofmsg) (flow : FlowId) (entry : FlowEntry) : Prop :=
  ∃ ofmsg ∈ input, isDelete ofmsg = true ∧ ¬ Dropped input ofmsg ∧
    removesLinked flow entry ofmsg = true

section Batch

variable {shuffle : Shuffle} {useBarriers : Bool} {switch next : Switch} {input : List Ofmsg}
  {flow : FlowId} {mod : FlowMod} {table : Fin 255} {cookie : Nat}

theorem removedLinked_sent_iff {deletes : List Ofmsg} {entry : FlowEntry}
    (returned : dedupeOverlapsOfmsgs id (withoutSuppressed input) = some deletes) :
    (sent shuffle input deletes .deleteglobal ++ sent shuffle input deletes .delete).any
        (removesLinked flow entry) = true ↔ RemovedLinked input flow entry := by
  rw [List.any_eq_true]
  constructor
  · rintro ⟨ofmsg, member, removes⟩
    rcases List.mem_append.mp member with global | delete
    · obtain ⟨member, kind⟩ := mem_sent_deleteglobal.mp global
      refine ⟨ofmsg, member, by simp [isDelete, kind], ?_, removes⟩
      rintro ⟨isDel, _⟩
      cases kind.symm.trans isDel
    · obtain ⟨member, kind, kept⟩ := (mem_sent_delete returned).mp delete
      exact ⟨ofmsg, member, by simp [isDelete, kind], kept, removes⟩
  · rintro ⟨ofmsg, member, isDel, kept, removes⟩
    refine ⟨ofmsg, ?_, removes⟩
    rw [isDelete, Bool.or_eq_true, beq_iff_eq, beq_iff_eq] at isDel
    rcases isDel with kind | kind
    · exact List.mem_append_left _ (mem_sent_deleteglobal.mpr ⟨member, kind⟩)
    · exact List.mem_append_right _ ((mem_sent_delete returned).mpr ⟨member, kind, kept⟩)

/-- Adds and modifies of one key: the last one is left. -/
theorem values_of_one_key {key : Option FlowmodKey} {earlier : List Ofmsg} {last : Ofmsg}
    (oneKey : ∀ ofmsg ∈ earlier ++ [last], flowmodkey ofmsg = key) :
    OrderedDict.values flowmodkey (earlier ++ [last]) = [last] := by
  induction earlier using List.reverseRecOn generalizing last with
  | nil => rfl
  | append_singleton earlier before ih =>
      have earlierKey : ∀ ofmsg ∈ earlier ++ [before], flowmodkey ofmsg = key :=
        fun ofmsg member => oneKey ofmsg (List.mem_append_left _ member)
      have same : flowmodkey before = flowmodkey last := by
        rw [earlierKey before (by simp), oneKey last (by simp)]
      rw [OrderedDict.values_concat, ih earlierKey]
      simp [OrderedDict.assign, same]

/-- What is sent does to a flow: the deletes first, then the last add or modify. -/
theorem deliver_flows (delivers : switch.deliver shuffle useBarriers input = some next)
    (flow : FlowId) :
    ∃ gone : FlowEntry → Bool, (∀ entry, gone entry = true ↔ RemovedLinked input flow entry) ∧
      next.flows flow = (outcome (OrderedDict.values flowmodkey (input.filter (sets flow)))).run
        ((switch.flows flow).filter fun entry => !gone entry) := by
  rw [Switch.deliver, valveFlowreorder] at delivers
  obtain ⟨output, reordered, rfl⟩ := Option.map_eq_some_iff.mp delivers
  obtain ⟨deletes, returned, rfl⟩ := Option.map_eq_some_iff.mp reordered
  refine ⟨fun entry => (sent shuffle input deletes .deleteglobal ++
    sent shuffle input deletes .delete).any (removesLinked flow entry),
    fun entry => removedLinked_sent_iff returned, ?_⟩
  have neutral : ∀ ofmsg, msgKind ofmsg ≠ .deleteglobal → msgKind ofmsg ≠ .delete →
      msgKind ofmsg ≠ .flowaddmod → ∀ current, linkedEffect flow current ofmsg = current := by
    intro ofmsg notGlobal notDel notSet current
    cases ofmsg with
    | flowMod mod =>
        rcases msgKind_flowMod mod with ⟨_, kind | kind⟩ | ⟨_, kind⟩
        · exact absurd kind notGlobal
        · exact absurd kind notDel
        · exact absurd kind notSet
    | groupMod mod =>
        cases mod with
        | add => rfl
        | delete groupId =>
            by_cases all : groupId = ofpgAll
            · exact absurd (if_pos all) notGlobal
            · exact absurd (if_neg all) notDel
    | _ => rfl
  have areSets : ∀ ofmsg ∈ sent shuffle input deletes .flowaddmod, msgKind ofmsg = .flowaddmod :=
    fun ofmsg member => msgKind_of_mem_sent returned member
  rw [Switch.handleAll_flows, foldl_sent returned (.inr (.inr rfl)) neutral,
    foldl_linkedSets areSets, foldl_flowSets, foldl_linkedDeletes, filter_sets_sent]
  · intro ofmsg member
    rcases List.mem_append.mp member with global | delete
    · simp [isDelete, (mem_sent_deleteglobal.mp global).2]
    · simp [isDelete, ((mem_sent_delete returned).mp delete).2.1]
  · intro ofmsg member
    rw [isDelete, areSets ofmsg member]
    rfl

/-- **A flow that no message sets** and no delete removes stays as it is. -/
theorem deliver_kept (delivers : switch.deliver shuffle useBarriers input = some next)
    (unset : ∀ ofmsg ∈ input, sets flow ofmsg = false)
    (stays : ∀ entry, switch.flows flow = some entry → ¬ RemovedLinked input flow entry) :
    next.flows flow = switch.flows flow := by
  obtain ⟨gone, removed, flows⟩ := deliver_flows delivers flow
  have noSets : input.filter (sets flow) = [] :=
    List.filter_eq_nil_iff.mpr fun ofmsg member => by simp [unset ofmsg member]
  rw [flows, noSets, OrderedDict.values_nil]
  cases current : switch.flows flow with
  | none => rfl
  | some entry =>
      have kept : gone entry = false := by
        rw [← Bool.not_eq_true, removed]
        exact stays entry current
      simp [outcome, Outcome.run, kept]

/-- **A flow that is not added** is not there, when it was not or a delete removes it. -/
theorem deliver_gone (delivers : switch.deliver shuffle useBarriers input = some next)
    (notAdded : ¬ Adds input flow)
    (goes : ∀ entry, switch.flows flow = some entry → RemovedLinked input flow entry) :
    next.flows flow = none := by
  obtain ⟨gone, removed, flows⟩ := deliver_flows delivers flow
  have emptied : ((switch.flows flow).filter fun entry => !gone entry) = none := by
    cases current : switch.flows flow with
    | none => rfl
    | some entry => simp [(removed entry).mpr (goes entry current)]
  have areSets : ∀ ofmsg ∈ OrderedDict.values flowmodkey (input.filter (sets flow)),
      sets flow ofmsg = true :=
    fun ofmsg member => (List.mem_filter.mp (OrderedDict.mem_of_mem_values member)).2
  rw [flows, emptied, Outcome.run_eq_none_iff]
  intro entry installed
  obtain ⟨mod, member, isAdd⟩ := (exists_installed_iff areSets).mp ⟨entry, installed⟩
  obtain ⟨present, isSet⟩ := List.mem_filter.mp (OrderedDict.mem_of_mem_values member)
  rw [sets, Bool.and_eq_true] at isSet
  exact notAdded ⟨mod, present, isAdd, isSet.2⟩

/-- **A flow that one message alone sets**, an add, has the entry of that add. -/
theorem deliver_alone (delivers : switch.deliver shuffle useBarriers input = some next)
    (member : .flowMod mod ∈ input) (isSet : sets flow (.flowMod mod) = true)
    (only : ∀ ofmsg ∈ input, sets flow ofmsg = true → ofmsg = .flowMod mod)
    (isAdd : mod.command = .add) : next.flows flow = some mod.entry := by
  obtain ⟨gone, _, flows⟩ := deliver_flows delivers flow
  have setters : ∀ ofmsg ∈ input.filter (sets flow), ofmsg = .flowMod mod := by
    intro ofmsg listed
    obtain ⟨member, isSet⟩ := List.mem_filter.mp listed
    exact only ofmsg member isSet
  have some_set : input.filter (sets flow) ≠ [] :=
    List.ne_nil_of_mem (List.mem_filter.mpr ⟨member, isSet⟩)
  obtain ⟨earlier, last, split⟩ := (List.eq_nil_or_concat' _).resolve_left some_set
  rw [split] at setters flows
  have oneKey : ∀ ofmsg ∈ earlier ++ [last], flowmodkey ofmsg = flowmodkey (.flowMod mod) :=
    fun ofmsg listed => congrArg flowmodkey (setters ofmsg listed)
  rw [values_of_one_key oneKey, setters last (by simp)] at flows
  rw [flows]
  simp [outcome, Outcome.next, Outcome.run, isAdd]

namespace OneTable

variable (batch : OneTable table cookie input)
include batch

theorem exists_deletes :
    ∃ deletes, dedupeOverlapsOfmsgs id (withoutSuppressed input) = some deletes := by
  rw [← Option.ne_none_iff_exists']
  intro failed
  obtain ⟨⟨ofmsg, member, _, _, all, _⟩, _⟩ :=
    mixesDeletes_iff.mp (dedupeOverlapsOfmsgs_eq_none.mp failed)
  cases ofmsg with
  | flowMod mod => exact batch.oneTable mod member (Option.some.inj all)
  | _ => cases all

/-- The pass returns. -/
theorem exists_deliver : ∃ next, switch.deliver shuffle useBarriers input = some next := by
  obtain ⟨deletes, returned⟩ := batch.exists_deletes
  rw [Switch.deliver, valveFlowreorder, returned]
  exact ⟨_, rfl⟩

/-- Only an add or a modify of its key stands for a delete of a flow. -/
theorem dropped_iff_readded (member : .flowMod mod ∈ input) (isDel : mod.isFlowdel = true) :
    Dropped input (.flowMod mod) ↔ Readded input (.flowMod mod) := by
  constructor
  · rintro ⟨_, suppressed | overlapped | readded⟩
    · obtain ⟨wide, member, kind, type⟩ := suppressed
      cases wide with
      | flowMod wide => exact absurd (oneTable_of_global kind) (batch.oneTable wide member)
      | _ => cases type
    · obtain ⟨_, wide, member, _, all, _⟩ := overlapped
      cases wide with
      | flowMod wide => exact absurd (Option.some.inj all) (batch.oneTable wide member)
      | _ => cases all
    · exact readded
  · intro readded
    refine ⟨?_, .inr (.inr readded)⟩
    rcases msgKind_flowMod mod with ⟨_, kind | kind⟩ | ⟨notDel, _⟩
    · exact absurd (oneTable_of_global kind) (batch.oneTable mod member)
    · exact kind
    · cases notDel.symm.trans isDel

/-- What is sent does to a group: the deletes first, then the first add. -/
theorem deliver_groups (delivers : switch.deliver shuffle useBarriers input = some next)
    (groupId : Nat) :
    next.groups groupId =
      (if input.any (deletesEntry Ofmsg.groupMod? ofpgAll groupId) then none
        else switch.groups groupId).or
        (input.findSome? (addedContent Ofmsg.groupMod? groupId)) := by
  obtain ⟨deletes, returned⟩ := batch.exists_deletes
  rw [Switch.deliver, valveFlowreorder, returned] at delivers
  cases delivers
  rw [Switch.handleAll_groups, Switch.applyAll_groups, selects_groupMod.foldl_reordered returned]

variable (inTable : flow.tableId = table)

section InTable

include inTable

theorem outcome_of_last {earlier : List Ofmsg} {last : Ofmsg}
    (setters : input.filter (sets flow) = earlier ++ [last]) :
    outcome (OrderedDict.values flowmodkey (input.filter (sets flow))) =
      Outcome.unchanged.next last := by
  have oneKey : ∀ ofmsg ∈ input.filter (sets flow), flowmodkey ofmsg =
      some ⟨flow.matchFields, cookie, flow.priority, flow.tableId.val⟩ := by
    intro ofmsg member
    obtain ⟨member, isSet⟩ := List.mem_filter.mp member
    cases ofmsg with
    | flowMod mod =>
        rw [sets, Bool.and_eq_true, FlowMod.names, Bool.and_eq_true, Bool.and_eq_true, beq_iff_eq,
          beq_iff_eq, beq_iff_eq] at isSet
        obtain ⟨_, ⟨sameTable, samePriority⟩, sameMatch⟩ := isSet
        rw [flowmodkey, batch.sameCookie mod member (inTable ▸ sameTable), sameTable, samePriority,
          sameMatch]
    | _ => cases isSet
  rw [setters] at oneKey ⊢
  rw [values_of_one_key oneKey]
  rfl

theorem deliver_last {first final : List Ofmsg}
    (delivers : switch.deliver shuffle useBarriers input = some next)
    (setters : input.filter (sets flow) = first ++ final) (some_set : final ≠ [])
    (only : ∀ ofmsg ∈ final, ofmsg = .flowMod mod) :
    ∃ gone : FlowEntry → Bool, (∀ entry, gone entry = true ↔ RemovedLinked input flow entry) ∧
      next.flows flow = (Outcome.unchanged.next (.flowMod mod)).run
        ((switch.flows flow).filter fun entry => !gone entry) := by
  obtain ⟨gone, removed, flows⟩ := deliver_flows delivers flow
  refine ⟨gone, removed, ?_⟩
  obtain ⟨earlier, last, split⟩ := (List.eq_nil_or_concat' final).resolve_left some_set
  cases only last (by simp [split])
  rw [flows, batch.outcome_of_last inTable (setters.trans (by rw [split, ← List.append_assoc]))]

/-- **A flow whose last message is an add** has the entry of that add. -/
theorem deliver_added {first final : List Ofmsg}
    (delivers : switch.deliver shuffle useBarriers input = some next)
    (setters : input.filter (sets flow) = first ++ final) (some_set : final ≠ [])
    (only : ∀ ofmsg ∈ final, ofmsg = .flowMod mod) (isAdd : mod.command = .add) :
    next.flows flow = some mod.entry := by
  obtain ⟨gone, _, flows⟩ := batch.deliver_last inTable delivers setters some_set only
  rw [flows]
  simp [Outcome.next, Outcome.run, isAdd]

/-- A flow with one add and no other message has the entry of that add. -/
theorem deliver_only (delivers : switch.deliver shuffle useBarriers input = some next)
    (member : .flowMod mod ∈ input) (isSet : sets flow (.flowMod mod) = true)
    (only : ∀ ofmsg ∈ input, sets flow ofmsg = true → ofmsg = .flowMod mod)
    (isAdd : mod.command = .add) : next.flows flow = some mod.entry := by
  refine batch.deliver_added inTable delivers (List.nil_append _).symm
    (List.ne_nil_of_mem (List.mem_filter.mpr ⟨member, isSet⟩)) (fun ofmsg listed => ?_) isAdd
  obtain ⟨member, isSet⟩ := List.mem_filter.mp listed
  exact only ofmsg member isSet

/-- **A flow that is there and stays, and whose last message is a modify**, gets the
instructions of that modify. -/
theorem deliver_modified {first final : List Ofmsg} {entry : FlowEntry}
    (delivers : switch.deliver shuffle useBarriers input = some next)
    (setters : input.filter (sets flow) = first ++ final) (some_set : final ≠ [])
    (only : ∀ ofmsg ∈ final, ofmsg = .flowMod mod) (isModify : mod.command = .modifyStrict)
    (current : switch.flows flow = some entry) (stays : ¬ RemovedLinked input flow entry) :
    next.flows flow = some { entry with instructions := mod.instructions } := by
  obtain ⟨gone, removed, flows⟩ := batch.deliver_last inTable delivers setters some_set only
  have kept : gone entry = false := by
    rw [← Bool.not_eq_true, removed]
    exact stays
  rw [flows]
  simp [Outcome.next, Outcome.run, isModify, current, kept]

end InTable

end OneTable

end Batch

end Faucet.OpenFlow
