import Faucet.OpenFlow.TableMessages

/-!
# Batches one after the other

A switch gets several batches, each as the pass makes it. What it has of a flow in the end
is decided by the last batch that says something about it: a batch that adds the flow, or
deletes it whatever it outputs to, leaves the same whatever was there before
(`flows_eq_of_decides`), and a batch without a word about it leaves it as it is.
-/

set_option autoImplicit false

namespace Faucet.OpenFlow

/-! ## Runs -/

/-- The switch handles a batch in one of the orders that the pass makes of it. -/
def Switch.Gets (switch : Switch) (batch : List Ofmsg) (next : Switch) : Prop :=
  ∃ shuffle useBarriers, switch.deliver shuffle useBarriers batch = some next

/-- The switch gets one batch after the other. -/
inductive GetsAll : Switch → List (List Ofmsg) → Switch → Prop where
  | nil (switch : Switch) : GetsAll switch [] switch
  | cons {switch next last : Switch} {batch : List Ofmsg} {rest : List (List Ofmsg)}
      (gets : switch.Gets batch next) (later : GetsAll next rest last) :
      GetsAll switch (batch :: rest) last

/-- The batch has only adds and deletes of this table, with one cookie. -/
structure AddsAndDeletes (table : Fin 255) (cookie : Nat) (input : List Ofmsg) : Prop
    extends OneTable table cookie input where
  noModify : ∀ mod, .flowMod mod ∈ input → mod.tableId = table.val → mod.command ≠ .modifyStrict

/-- The batch deletes the flow, whatever it outputs to. -/
def Deletes (input : List Ofmsg) (flow : FlowId) : Prop :=
  ∃ mod, .flowMod mod ∈ input ∧ mod.isFlowdel = true ∧ mod.reaches flow = true ∧
    mod.outPort = none ∧ ¬ Readded input (.flowMod mod)

/-- What is there, if anything, sends to no group. -/
def Groupless (current : Option FlowEntry) : Prop :=
  ∀ entry, current = some entry → ∀ groupId, entry.refersTo groupId = false

section Batch

variable {table : Fin 255} {cookie : Nat} {input : List Ofmsg} {flow : FlowId}
  {switch switch' next next' : Switch}

theorem getsAll_concat {batches : List (List Ofmsg)} {batch : List Ofmsg} {last : Switch} :
    GetsAll switch (batches ++ [batch]) last ↔
      ∃ before, GetsAll switch batches before ∧ before.Gets batch last := by
  induction batches generalizing switch with
  | nil =>
      constructor
      · rintro (_ | ⟨gets, later⟩)
        cases later
        exact ⟨switch, .nil switch, gets⟩
      · rintro ⟨before, all, gets⟩
        cases all
        exact .cons gets (.nil last)
  | cons first rest ih =>
      constructor
      · rintro (_ | ⟨gets, later⟩)
        obtain ⟨before, all, last⟩ := ih.mp later
        exact ⟨before, .cons gets all, last⟩
      · rintro ⟨before, _ | ⟨gets, later⟩, last⟩
        exact .cons gets (ih.mpr ⟨before, later, last⟩)

theorem getsAll_singleton {batch : List Ofmsg} :
    GetsAll switch [batch] next ↔ switch.Gets batch next := by
  constructor
  · rintro (_ | ⟨gets, later⟩)
    cases later
    exact gets
  · exact fun gets => .cons gets (.nil next)

namespace AddsAndDeletes

variable (batch : AddsAndDeletes table cookie input) (inTable : flow.tableId = table)
include batch inTable

theorem add_of_sets {ofmsg : Ofmsg} (member : ofmsg ∈ input) (isSet : sets flow ofmsg = true) :
    ∃ mod, ofmsg = .flowMod mod ∧ mod.command = .add ∧ mod.names flow = true := by
  cases ofmsg with
  | flowMod mod =>
      rw [sets, Bool.and_eq_true, FlowMod.isFlowdel] at isSet
      have named := isSet.2
      rw [FlowMod.names, Bool.and_eq_true, Bool.and_eq_true, beq_iff_eq, inTable] at named
      refine ⟨mod, rfl, ?_, isSet.2⟩
      have kind := batch.noModify mod member named.1.1
      cases command : mod.command <;> simp_all
  | _ => cases isSet

/-- A flow that the batch adds has the entry of one of its adds, the same one always. -/
theorem flows_of_adds (adds : Adds input flow) : ∃ mod, .flowMod mod ∈ input ∧
    mod.command = .add ∧ mod.names flow = true ∧
      ∀ switch next : Switch, switch.Gets input next → next.flows flow = some mod.entry := by
  have some_set : input.filter (sets flow) ≠ [] := by
    obtain ⟨mod, member, isAdd, named⟩ := adds
    exact List.ne_nil_of_mem (List.mem_filter.mpr
      ⟨member, by simp [sets, FlowMod.isFlowdel, isAdd, named]⟩)
  obtain ⟨earlier, last, split⟩ := (List.eq_nil_or_concat' _).resolve_left some_set
  have isLast : last ∈ input.filter (sets flow) := by simp [split]
  obtain ⟨member, isSet⟩ := List.mem_filter.mp isLast
  obtain ⟨mod, rfl, isAdd, named⟩ := batch.add_of_sets inTable member isSet
  refine ⟨mod, member, isAdd, named, ?_⟩
  rintro switch next ⟨shuffle, useBarriers, delivers⟩
  exact batch.deliver_added inTable delivers split (List.cons_ne_nil _ _)
    (fun _ only => List.mem_singleton.mp only) isAdd

omit inTable in
theorem flows_of_deletes (notAdded : ¬ Adds input flow) (deletes : Deletes input flow)
    (gets : switch.Gets input next) : next.flows flow = none := by
  obtain ⟨shuffle, useBarriers, delivers⟩ := gets
  obtain ⟨mod, member, isDel, reaches, anyPort, notReadded⟩ := deletes
  refine deliver_gone delivers notAdded fun entry _ => ?_
  refine ⟨.flowMod mod, member, ?_, ?_, ?_⟩
  · rcases msgKind_flowMod mod with ⟨_, kind | kind⟩ | ⟨notDel, _⟩
    · simp [isDelete, kind]
    · simp [isDelete, kind]
    · cases notDel.symm.trans isDel
  · rw [batch.dropped_iff_readded member isDel]
    exact notReadded
  · rw [removesLinked, FlowMod.removes, reaches, FlowMod.outPortMatches, anyPort]
    rfl

/-- **What a batch adds or deletes does not depend on what was there.** -/
theorem flows_eq_of_decides (decides : Adds input flow ∨ Deletes input flow)
    (gets : switch.Gets input next) (gets' : switch'.Gets input next') :
    next.flows flow = next'.flows flow := by
  by_cases adds : Adds input flow
  · obtain ⟨mod, _, _, _, always⟩ := batch.flows_of_adds inTable adds
    rw [always switch next gets, always switch' next' gets']
  · have deletes := decides.resolve_left adds
    rw [batch.flows_of_deletes adds deletes gets,
      batch.flows_of_deletes adds deletes gets']

/-- A batch that does not add the flow leaves it, unless it removes it. -/
theorem flows_of_not_adds (notAdded : ¬ Adds input flow) (gets : switch.Gets input next) :
    ∃ gone : FlowEntry → Bool, (∀ entry, gone entry = true ↔ RemovedLinked input flow entry) ∧
      next.flows flow = (switch.flows flow).filter fun entry => !gone entry := by
  obtain ⟨shuffle, useBarriers, delivers⟩ := gets
  obtain ⟨gone, removed, flows⟩ := deliver_flows delivers flow
  have unset : input.filter (sets flow) = [] := by
    refine List.filter_eq_nil_iff.mpr fun ofmsg member isSet => ?_
    obtain ⟨mod, rfl, isAdd, named⟩ := batch.add_of_sets inTable member isSet
    exact notAdded ⟨mod, member, isAdd, named⟩
  refine ⟨gone, removed, ?_⟩
  rw [flows, unset, OrderedDict.values_nil]
  rfl

end AddsAndDeletes

/-! ## Several batches -/

/-- What the batches do to a flow one by one they do to it together, as long as the switch is
one of which this is known. -/
theorem GetsAll.flows_eq_foldl {ι : Type} {batch : ι → List Ofmsg}
    (effect : ι → Option FlowEntry → Option FlowEntry) {good : Switch → Prop}
    (keeps : ∀ i, ∀ switch next : Switch, good switch → switch.Gets (batch i) next → good next)
    (one : ∀ i, ∀ switch next : Switch, good switch → switch.Gets (batch i) next →
      next.flows flow = effect i (switch.flows flow))
    {indices : List ι} {last : Switch} (start : good switch)
    (all : GetsAll switch (indices.map batch) last) : good last ∧
      last.flows flow = indices.foldl (fun current i => effect i current) (switch.flows flow) := by
  induction indices generalizing switch with
  | nil =>
      cases all
      exact ⟨start, rfl⟩
  | cons i rest ih =>
      rw [List.map_cons] at all
      obtain - | ⟨gets, later⟩ := all
      rw [List.foldl_cons, ← one i switch _ start gets]
      exact ih (keeps i switch _ start gets) later

end Batch

end Faucet.OpenFlow
