import Faucet.OpenFlow.GroupReferences

/-!
# The messages about one table

Of a batch that several managers fill, one of them knows the messages about its own
table. These alone decide what becomes of the flows of that table, but for deletes of
groups that a flow refers to.
-/

set_option autoImplicit false

namespace Faucet.OpenFlow

/-- The message is about flows of this table, or of all tables. -/
def concernsTable (table : Fin 255) : Ofmsg → Bool
  | .flowMod mod => mod.tableId == table.val || mod.tableId == ofpttAll
  | _ => false

/-- These are the messages of the batch about this table, all with one cookie. -/
structure TableMessages (table : Fin 255) (cookie : Nat) (mods : List FlowMod)
    (input : List Ofmsg) : Prop where
  batch : input.filter (concernsTable table) = mods.map .flowMod
  inTable : ∀ mod ∈ mods, mod.tableId = table.val
  sameCookie : ∀ mod ∈ mods, mod.cookie = cookie

namespace TableMessages

variable {table : Fin 255} {cookie : Nat} {mods : List FlowMod} {input : List Ofmsg}
  {flow : FlowId} {mod : FlowMod} {shuffle : Shuffle} {useBarriers : Bool}
  {switch next : Switch} (messages : TableMessages table cookie mods input)
include messages

theorem mem_iff (about : mod.tableId = table.val ∨ mod.tableId = ofpttAll) :
    .flowMod mod ∈ input ↔ mod ∈ mods := by
  have concerns : concernsTable table (.flowMod mod) = true := by
    simpa [concernsTable] using about
  have ofBatch : .flowMod mod ∈ input.filter (concernsTable table) ↔ .flowMod mod ∈ input := by
    rw [List.mem_filter, concerns]
    exact and_iff_left rfl
  rw [← ofBatch, messages.batch, List.mem_map]
  constructor
  · rintro ⟨other, member, ⟨⟩⟩
    exact member
  · exact fun member => ⟨mod, member, rfl⟩

theorem oneTable : OneTable table cookie input where
  oneTable := by
    intro mod member all
    have known := (messages.mem_iff (.inr all)).mp member
    exact Nat.ne_of_lt table.isLt ((messages.inTable mod known).symm.trans all)
  sameCookie mod member inTable :=
    messages.sameCookie mod ((messages.mem_iff (.inl inTable)).mp member)

theorem filter_sets (inTable : flow.tableId = table) :
    input.filter (sets flow) = (mods.map .flowMod).filter (sets flow) := by
  rw [← messages.batch, List.filter_filter]
  refine List.filter_congr fun ofmsg _ => ?_
  rw [eq_comm, Bool.and_eq_left_iff_imp]
  intro isSet
  cases ofmsg with
  | flowMod mod =>
      rw [sets, Bool.and_eq_true, FlowMod.names, Bool.and_eq_true, Bool.and_eq_true, beq_iff_eq,
        inTable] at isSet
      simp [concernsTable, isSet.2.1.1]
  | _ => cases isSet

theorem adds_iff (inTable : flow.tableId = table) :
    Adds input flow ↔ ∃ mod ∈ mods, mod.command = .add ∧ mod.names flow = true := by
  constructor
  · rintro ⟨mod, member, isAdd, named⟩
    refine ⟨mod, (messages.mem_iff (.inl ?_)).mp member, isAdd, named⟩
    rw [FlowMod.names, Bool.and_eq_true, Bool.and_eq_true, beq_iff_eq, inTable] at named
    exact named.1.1
  · rintro ⟨mod, member, isAdd, named⟩
    exact ⟨mod, (messages.mem_iff (.inl (messages.inTable mod member))).mpr member, isAdd, named⟩

/-- What removes a flow is a delete of the table, or of a group that it refers to. -/
theorem of_removedLinked {entry : FlowEntry} (inTable : flow.tableId = table)
    (removed : RemovedLinked input flow entry) :
    (∃ mod ∈ mods, mod.removes flow entry = true) ∨
      ∃ groupId, .groupMod (.delete groupId) ∈ input ∧ entry.refersTo groupId = true := by
  obtain ⟨ofmsg, member, _, _, removes⟩ := removed
  cases ofmsg with
  | flowMod mod =>
      refine .inl ⟨mod, (messages.mem_iff ?_).mp member, removes⟩
      rw [removesLinked, FlowMod.removes, Bool.and_eq_true, FlowMod.reaches, Bool.and_eq_true,
        Bool.or_eq_true, beq_iff_eq, beq_iff_eq, inTable] at removes
      exact removes.1.1.symm
  | groupMod mod =>
      cases mod with
      | add => cases removes
      | delete groupId => exact .inr ⟨groupId, member, removes⟩
  | _ => cases removes

/-- A delete of the table, without an add of its key, removes what it reaches. -/
theorem removedLinked_of {entry : FlowEntry} (member : mod ∈ mods) (isDel : mod.isFlowdel = true)
    (alone : ∀ other ∈ mods, other.isFlowdel = false → other.matchFields = mod.matchFields →
      other.priority ≠ mod.priority)
    (removes : mod.removes flow entry = true) : RemovedLinked input flow entry := by
  have inTable := messages.inTable mod member
  have sent : .flowMod mod ∈ input := (messages.mem_iff (.inl inTable)).mpr member
  refine ⟨.flowMod mod, sent, ?_, ?_, removes⟩
  · rcases msgKind_flowMod mod with ⟨_, kind | kind⟩ | ⟨notDel, _⟩
    · simp [isDelete, kind]
    · simp [isDelete, kind]
    · cases notDel.symm.trans isDel
  · rw [messages.oneTable.dropped_iff_readded sent isDel]
    rintro ⟨other, present, kind, sameKey⟩
    obtain ⟨other, rfl, notDel⟩ := flowMod_of_flowaddmod kind
    obtain ⟨sameMatch, _, samePriority, sameTable⟩ :=
      FlowmodKey.mk.inj (Option.some.inj sameKey)
    have listed := (messages.mem_iff (.inl (sameTable.trans inTable))).mp present
    exact alone other listed notDel sameMatch samePriority

/-! ## What becomes of a flow -/

section Delivered

variable (noModify : ∀ mod ∈ mods, mod.command ≠ .modifyStrict) (inTable : flow.tableId = table)
  (delivers : switch.deliver shuffle useBarriers input = some next)
include noModify inTable

theorem of_sets (member : .flowMod mod ∈ input) (isSet : sets flow (.flowMod mod) = true) :
    mod ∈ mods ∧ mod.command = .add ∧ mod.names flow = true := by
  rw [sets, Bool.and_eq_true, FlowMod.isFlowdel] at isSet
  have named := isSet.2
  rw [FlowMod.names, Bool.and_eq_true, Bool.and_eq_true, beq_iff_eq, inTable] at named
  have listed := (messages.mem_iff (.inl named.1.1)).mp member
  refine ⟨listed, ?_, isSet.2⟩
  have kind := noModify mod listed
  cases command : mod.command <;> simp_all

include delivers

/-- A flow that messages add has the entry of one of these. -/
theorem deliver_adds (added : ∃ mod ∈ mods, mod.command = .add ∧ mod.names flow = true) :
    ∃ mod ∈ mods, mod.command = .add ∧ mod.names flow = true ∧
      next.flows flow = some mod.entry := by
  have some_set : input.filter (sets flow) ≠ [] := by
    obtain ⟨mod, member, isAdd, named⟩ := added
    have sent := (messages.mem_iff (.inl (messages.inTable mod member))).mpr member
    exact List.ne_nil_of_mem (List.mem_filter.mpr
      ⟨sent, by simp [sets, FlowMod.isFlowdel, isAdd, named]⟩)
  obtain ⟨earlier, last, split⟩ := (List.eq_nil_or_concat' _).resolve_left some_set
  have isLast : last ∈ input.filter (sets flow) := by simp [split]
  obtain ⟨member, isSet⟩ := List.mem_filter.mp isLast
  cases last with
  | flowMod mod =>
      obtain ⟨listed, isAdd, named⟩ := messages.of_sets noModify inTable member isSet
      refine ⟨mod, listed, isAdd, named, ?_⟩
      exact messages.oneTable.deliver_added inTable delivers split (List.cons_ne_nil _ _)
        (fun _ only => List.mem_singleton.mp only) isAdd
  | _ => cases isSet

variable (notAdded : ∀ mod ∈ mods, mod.command = .add → mod.names flow = false)
include notAdded

/-- A flow stays that messages neither add nor delete, when it refers to no group. -/
theorem deliver_stays (unreached : ∀ mod ∈ mods, mod.reaches flow = false)
    (noGroup : ∀ entry, switch.flows flow = some entry → ∀ groupId,
      entry.refersTo groupId = false) : next.flows flow = switch.flows flow := by
  refine deliver_kept delivers (fun ofmsg member => ?_)
    fun entry current removed => ?_
  · rw [← Bool.not_eq_true]
    intro isSet
    cases ofmsg with
    | flowMod mod =>
        obtain ⟨listed, isAdd, named⟩ := messages.of_sets noModify inTable member isSet
        cases (notAdded mod listed isAdd).symm.trans named
    | _ => cases isSet
  · rcases messages.of_removedLinked inTable removed with
      ⟨mod, member, removes⟩ | ⟨groupId, _, refers⟩
    · rw [FlowMod.removes, unreached mod member] at removes
      cases removes
    · cases (noGroup entry current groupId).symm.trans refers

omit noModify in
/-- A flow that a delete reaches and no message adds is gone. -/
theorem deliver_deletes (member : mod ∈ mods) (isDel : mod.isFlowdel = true)
    (alone : ∀ other ∈ mods, other.isFlowdel = false → other.matchFields = mod.matchFields →
      other.priority ≠ mod.priority)
    (reaches : mod.reaches flow = true) (anyPort : mod.outPort = none) :
    next.flows flow = none := by
  refine deliver_gone delivers ?_ fun entry _ => ?_
  · rw [messages.adds_iff inTable]
    rintro ⟨other, listed, isAdd, named⟩
    cases (notAdded other listed isAdd).symm.trans named
  · refine messages.removedLinked_of member isDel alone ?_
    rw [FlowMod.removes, reaches, FlowMod.outPortMatches, anyPort]
    rfl

end Delivered

end TableMessages

end Faucet.OpenFlow
