import Faucet.OpenFlow.Reorder

/-!
# The messages that the pass sends

Which deletes are sent, and that the groups and the meters of the switch end up
as the batch wants them, whatever the batch (`entries_agree`).
-/

set_option autoImplicit false

namespace Faucet.OpenFlow

/-! ## The messages that are sent -/

section Sent

variable {input : List Ofmsg} {ofmsg : Ofmsg}

theorem mem_dedupeOfmsgs {ofmsgs : List Ofmsg} : ofmsg ∈ dedupeOfmsgs id ofmsgs ↔ ofmsg ∈ ofmsgs := by
  rw [dedupeOfmsgs, sortFlows, List.mem_mergeSort, OrderedDict.mem_values_id]

theorem mem_of_kind {kind : MsgKind} :
    ofmsg ∈ input.filter (msgKind · == kind) ↔ ofmsg ∈ input ∧ msgKind ofmsg = kind := by
  rw [List.mem_filter, beq_iff_eq]

theorem mem_withoutSuppressed : ofmsg ∈ withoutSuppressed input ↔
    ofmsg ∈ input ∧ msgKind ofmsg = .delete ∧ ¬ Suppressed input ofmsg := by
  rw [withoutSuppressed, List.mem_filter, mem_of_kind, Bool.not_eq_true', and_assoc,
    List.any_eq_false]
  refine and_congr_right fun _ => and_congr_right fun _ => ?_
  constructor
  · rintro unsuppressed ⟨wide, member, kind, type⟩
    exact unsuppressed wide (mem_of_kind.mpr ⟨member, kind⟩) (beq_iff_eq.mpr type)
  · intro unsuppressed wide member type
    obtain ⟨member, kind⟩ := mem_of_kind.mp member
    exact unsuppressed ⟨wide, member, kind, beq_iff_eq.mp type⟩

/-- `overlapped` for a delete of one table. -/
def OverlappedBy (ofmsgs : List Ofmsg) (ofmsg : Ofmsg) : Prop :=
  (∃ table, tableId ofmsg = some table ∧ table ≠ ofpttAll) ∧
    ∃ wide ∈ ofmsgs, tableId wide = some ofpttAll ∧ priority wide = some 0 ∧
      matchItems wide ⊆ matchItems ofmsg

theorem overlapped_iff {ofmsgs : List Ofmsg} : overlapped ofmsgs ofmsg = true ↔
    ∃ wide ∈ ofmsgs, tableId wide = some ofpttAll ∧ priority wide = some 0 ∧
      matchItems wide ⊆ matchItems ofmsg := by
  simp only [overlapped, List.any_eq_true, Bool.and_eq_true, beq_iff_eq, List.all_eq_true,
    List.contains_iff_mem, and_assoc]
  rfl

/-- An all-table delete without a priority is among the messages. -/
def HasWide (ofmsgs : List Ofmsg) : Prop :=
  ∃ ofmsg ∈ ofmsgs, tableId ofmsg = some ofpttAll ∧ priority ofmsg = some 0

/-- A delete of one table is among the messages. -/
def HasOneTable (ofmsgs : List Ofmsg) : Prop :=
  ∃ ofmsg ∈ ofmsgs, ∃ table, tableId ofmsg = some table ∧ table ≠ ofpttAll

/-- A message that has no table is among the messages. -/
def HasNoTable (ofmsgs : List Ofmsg) : Prop := ∃ ofmsg ∈ ofmsgs, tableId ofmsg = none

theorem hasWide_iff {ofmsgs : List Ofmsg} :
    ((dedupeOfmsgs id ofmsgs).any fun ofmsg =>
      tableId ofmsg == some ofpttAll && priority ofmsg == some 0) = true ↔ HasWide ofmsgs := by
  simp only [List.any_eq_true, mem_dedupeOfmsgs, Bool.and_eq_true, beq_iff_eq, HasWide]

theorem hasOneTable_iff {ofmsgs : List Ofmsg} :
    ((OrderedDict.values id ((dedupeOfmsgs id ofmsgs).map tableId)).any fun table =>
      table.any (· ≠ ofpttAll)) = true ↔ HasOneTable ofmsgs := by
  simp only [List.any_eq_true, OrderedDict.mem_values_id, List.mem_map, mem_dedupeOfmsgs,
    Option.any_eq_true, decide_eq_true_eq, HasOneTable]
  constructor
  · rintro ⟨_, ⟨ofmsg, member, rfl⟩, table, same, oneTable⟩
    exact ⟨ofmsg, member, table, same, oneTable⟩
  · rintro ⟨ofmsg, member, table, same, oneTable⟩
    exact ⟨_, ⟨ofmsg, member, rfl⟩, table, same, oneTable⟩

theorem hasNoTable_iff {ofmsgs : List Ofmsg} :
    none ∈ OrderedDict.values id ((dedupeOfmsgs id ofmsgs).map tableId) ↔ HasNoTable ofmsgs := by
  simp only [OrderedDict.mem_values_id, List.mem_map, mem_dedupeOfmsgs, HasNoTable]

/-- It fails when there are messages of the three kinds. -/
theorem dedupeOverlapsOfmsgs_eq_none {ofmsgs : List Ofmsg} :
    dedupeOverlapsOfmsgs id ofmsgs = none ↔
      HasWide ofmsgs ∧ HasOneTable ofmsgs ∧ HasNoTable ofmsgs := by
  unfold dedupeOverlapsOfmsgs
  dsimp only
  split
  next both =>
    rw [Bool.and_eq_true, hasWide_iff, hasOneTable_iff] at both
    split
    next noTable => exact iff_of_true rfl ⟨both.1, both.2, hasNoTable_iff.mp noTable⟩
    next tables =>
      refine iff_of_false (by simp) ?_
      rintro ⟨_, _, noTable⟩
      exact tables (hasNoTable_iff.mpr noTable)
  next notBoth =>
    rw [Bool.and_eq_true, hasWide_iff, hasOneTable_iff] at notBoth
    refine iff_of_false (by simp) ?_
    rintro ⟨wide, oneTable, _⟩
    exact notBoth ⟨wide, oneTable⟩

theorem overlappedBy_dedupe {ofmsgs : List Ofmsg} :
    OverlappedBy (dedupeOfmsgs id ofmsgs) ofmsg ↔ OverlappedBy ofmsgs ofmsg := by
  simp only [OverlappedBy, mem_dedupeOfmsgs]

/-- The deletes that it leaves. -/
theorem mem_dedupeOverlapsOfmsgs {ofmsgs left : List Ofmsg}
    (returned : dedupeOverlapsOfmsgs id ofmsgs = some left) :
    ofmsg ∈ left ↔ ofmsg ∈ ofmsgs ∧ ¬ OverlappedBy ofmsgs ofmsg := by
  unfold dedupeOverlapsOfmsgs at returned
  dsimp only at returned
  split at returned
  next both =>
    split at returned
    next => cases returned
    next tables =>
      cases returned
      rw [List.mem_flatMap, ← overlappedBy_dedupe,
        (mem_dedupeOfmsgs : ofmsg ∈ dedupeOfmsgs id ofmsgs ↔ ofmsg ∈ ofmsgs).symm,
        OverlappedBy, ← overlapped_iff]
      constructor
      · rintro ⟨table, _, member⟩
        obtain ⟨present, kept⟩ := List.mem_filter.mp member
        rw [Bool.and_eq_true, Bool.or_eq_true, beq_iff_eq, beq_iff_eq, Bool.not_eq_true'] at kept
        refine ⟨present, ?_⟩
        rintro ⟨⟨table', same, oneTable⟩, covered⟩
        rcases kept.2 with all | free
        · exact oneTable (Option.some.inj (same.symm.trans (kept.1.trans all)))
        · rw [covered] at free
          cases free
      · rintro ⟨present, kept⟩
        refine ⟨tableId ofmsg, ?_, List.mem_filter.mpr ⟨present, ?_⟩⟩
        · rw [List.mem_mergeSort, OrderedDict.mem_values_id]
          exact List.mem_map_of_mem present
        · rw [Bool.and_eq_true, Bool.or_eq_true, beq_iff_eq, beq_iff_eq, Bool.not_eq_true']
          refine ⟨rfl, or_iff_not_imp_left.mpr fun notAll => ?_⟩
          cases table : tableId ofmsg with
          | none =>
              refine absurd ?_ tables
              rw [← table, OrderedDict.mem_values_id]
              exact List.mem_map_of_mem present
          | some table' =>
              rw [Bool.eq_false_iff]
              intro covered
              refine kept ⟨⟨table', table, ?_⟩, covered⟩
              rintro rfl
              exact notAll table
  next notBoth =>
    cases returned
    rw [Bool.and_eq_true, hasWide_iff, hasOneTable_iff] at notBoth
    rw [mem_dedupeOfmsgs]
    refine ⟨fun member => ⟨member, ?_⟩, And.left⟩
    rintro ⟨⟨table, same, oneTable⟩, wide, present, all, noPriority, _⟩
    exact notBoth ⟨⟨wide, present, all, noPriority⟩, ofmsg, member, table, same, oneTable⟩

theorem mixesDeletes_iff :
    HasWide (withoutSuppressed input) ∧ HasOneTable (withoutSuppressed input) ∧
        HasNoTable (withoutSuppressed input) ↔ MixesDeletes input := by
  simp only [HasWide, HasOneTable, HasNoTable, MixesDeletes, mem_withoutSuppressed, and_assoc]

theorem msgType_of_tableId {table : Nat} (holds : tableId ofmsg = some table) :
    msgType ofmsg = .flowMod := by
  cases ofmsg <;> first | rfl | cases holds

/-- A global flow delete stands for all of the flow deletes, or for none. -/
theorem overlappedBy_withoutSuppressed (unsuppressed : ¬ Suppressed input ofmsg) :
    OverlappedBy (withoutSuppressed input) ofmsg ↔ Overlapped input ofmsg := by
  refine and_congr_right fun oneTable => ?_
  obtain ⟨table, holds, _⟩ := oneTable
  constructor
  · rintro ⟨wide, member, all, noPriority, within⟩
    obtain ⟨member, kind, _⟩ := mem_withoutSuppressed.mp member
    exact ⟨wide, member, kind, all, noPriority, within⟩
  · rintro ⟨wide, member, kind, all, noPriority, within⟩
    refine ⟨wide, mem_withoutSuppressed.mpr ⟨member, kind, ?_⟩, all, noPriority, within⟩
    rintro ⟨global, present, kind, type⟩
    refine unsuppressed ⟨global, present, kind, ?_⟩
    rw [type, msgType_of_tableId all, msgType_of_tableId holds]

theorem exists_flowmodkey_iff :
    (∃ other ∈ dedupeOfmsgs flowmodkey (input.filter (msgKind · == .flowaddmod)),
      flowmodkey other = flowmodkey ofmsg) ↔ Readded input ofmsg := by
  simp only [dedupeOfmsgs, sortFlows, List.mem_mergeSort]
  constructor
  · rintro ⟨other, member, same⟩
    obtain ⟨member, kind⟩ := mem_of_kind.mp (OrderedDict.mem_of_mem_values member)
    exact ⟨other, member, kind, same⟩
  · rintro ⟨other, member, kind, same⟩
    rw [← same]
    exact OrderedDict.exists_mem_values (mem_of_kind.mpr ⟨member, kind⟩)

theorem EntryMod.msgKind_ne {α : Type} {all : Nat} {addKind : MsgKind} (mod : EntryMod α)
    (other : addKind ≠ .flowaddmod) : mod.msgKind all addKind ≠ .flowaddmod := by
  cases mod with
  | add => exact other
  | delete entryId =>
      rw [EntryMod.msgKind]
      split <;> nofun

theorem msgKind_flowMod (mod : FlowMod) :
    mod.isFlowdel = true ∧
        (msgKind (.flowMod mod) = .deleteglobal ∨ msgKind (.flowMod mod) = .delete) ∨
      mod.isFlowdel = false ∧ msgKind (.flowMod mod) = .flowaddmod := by
  rw [msgKind, FlowMod.isGlobalFlowdel]
  cases mod.isFlowdel with
  | true =>
      refine .inl ⟨rfl, ?_⟩
      split
      · exact .inl rfl
      · exact .inr rfl
  | false => exact .inr ⟨rfl, rfl⟩

theorem flowMod_of_flowaddmod (kind : msgKind ofmsg = .flowaddmod) :
    ∃ mod, ofmsg = .flowMod mod ∧ mod.isFlowdel = false := by
  cases ofmsg with
  | flowMod mod =>
      rcases msgKind_flowMod mod with ⟨_, other | other⟩ | ⟨notDel, _⟩
      · cases kind.symm.trans other
      · cases kind.symm.trans other
      · exact ⟨mod, rfl, notDel⟩
  | groupMod mod => exact absurd kind (mod.msgKind_ne nofun)
  | meterMod mod => exact absurd kind (mod.msgKind_ne nofun)
  | _ => cases kind

theorem flowmodkey_isSome_of_readded (readded : Readded input ofmsg) :
    (flowmodkey ofmsg).isSome := by
  obtain ⟨other, _, kind, same⟩ := readded
  obtain ⟨mod, rfl, _⟩ := flowMod_of_flowaddmod kind
  rw [← same]
  rfl

variable {shuffle : Shuffle} {deletes : List Ofmsg}
  (returned : dedupeOverlapsOfmsgs id (withoutSuppressed input) = some deletes)
include returned

/-- **The deletes that are sent** are those that are not dropped. -/
theorem mem_sent_delete : ofmsg ∈ sent shuffle input deletes .delete ↔
    ofmsg ∈ input ∧ msgKind ofmsg = .delete ∧ ¬ Dropped input ofmsg := by
  have readded : ((flowmodkey ofmsg).isSome &&
      (dedupeOfmsgs flowmodkey (input.filter (msgKind · == .flowaddmod))).any
        fun other => flowmodkey other == flowmodkey ofmsg) = true ↔ Readded input ofmsg := by
    rw [Bool.and_eq_true, List.any_eq_true, ← exists_flowmodkey_iff]
    simp only [beq_iff_eq]
    rw [and_iff_right_iff_imp, exists_flowmodkey_iff]
    exact flowmodkey_isSome_of_readded
  rw [sent, removeOverlapOfmsgs, List.mem_filter, mem_dedupeOverlapsOfmsgs returned,
    mem_withoutSuppressed, Bool.not_eq_true', ← Bool.not_eq_true, readded, Dropped]
  constructor
  · rintro ⟨⟨⟨member, kind, unsuppressed⟩, free⟩, notReadded⟩
    rw [overlappedBy_withoutSuppressed unsuppressed] at free
    refine ⟨member, kind, ?_⟩
    rintro ⟨_, suppressed | overlapped | readded⟩
    · exact unsuppressed suppressed
    · exact free overlapped
    · exact notReadded readded
  · rintro ⟨member, kind, kept⟩
    have unsuppressed : ¬ Suppressed input ofmsg := fun suppressed => kept ⟨kind, .inl suppressed⟩
    refine ⟨⟨⟨member, kind, unsuppressed⟩, ?_⟩, fun readded => kept ⟨kind, .inr (.inr readded)⟩⟩
    rw [overlappedBy_withoutSuppressed unsuppressed]
    exact fun overlapped => kept ⟨kind, .inr (.inl overlapped)⟩

omit returned in
theorem mem_sent_deleteglobal : ofmsg ∈ sent shuffle input deletes .deleteglobal ↔
    ofmsg ∈ input ∧ msgKind ofmsg = .deleteglobal := by
  rw [sent, mem_dedupeOfmsgs, mem_of_kind]
  all_goals nofun

/-- What is sent under a kind is a message of the kind. -/
theorem msgKind_of_mem_sent {kind : MsgKind} (member : ofmsg ∈ sent shuffle input deletes kind) :
    msgKind ofmsg = kind := by
  cases kind
  case delete => exact ((mem_sent_delete returned).mp member).2.1
  case flowaddmod =>
    rw [sent, dedupeOfmsgs, sortFlows, List.mem_mergeSort] at member
    exact (mem_of_kind.mp (OrderedDict.mem_of_mem_values member)).2
  case packetout =>
    rw [sent, dedupeShuffled, (shuffle.perm _).mem_iff, OrderedDict.mem_values_id] at member
    exact (mem_of_kind.mp member).2
  all_goals
    rw [sent, mem_dedupeOfmsgs, mem_of_kind] at member
    · exact member.2
    all_goals nofun

/-- What is sent under a kind was in the batch. -/
theorem mem_of_mem_sent {kind : MsgKind} (member : ofmsg ∈ sent shuffle input deletes kind) :
    ofmsg ∈ input := by
  cases kind
  case delete => exact ((mem_sent_delete returned).mp member).1
  case flowaddmod =>
    rw [sent, dedupeOfmsgs, sortFlows, List.mem_mergeSort] at member
    exact (mem_of_kind.mp (OrderedDict.mem_of_mem_values member)).1
  case packetout =>
    rw [sent, dedupeShuffled, (shuffle.perm _).mem_iff, OrderedDict.mem_values_id] at member
    exact (mem_of_kind.mp member).1
  all_goals
    rw [sent, mem_dedupeOfmsgs, mem_of_kind] at member
    · exact member.1
    all_goals nofun

omit returned in
theorem mem_inOrder {useBarriers : Bool} {byKind : MsgKind → List Ofmsg} :
    ofmsg ∈ inOrder useBarriers byKind ↔
      ∃ kind, ofmsg ∈ byKind kind ∨ ofmsg = .barrierRequest ∧ useBarriers = true ∧
        byKind kind ≠ [] ∧ kind ∉ [MsgKind.flowaddmod, .other, .packetout] := by
  have segment : ∀ kind suggestBarrier,
      (ofmsg ∈ if (byKind kind).isEmpty then []
        else byKind kind ++ if useBarriers && suggestBarrier then [.barrierRequest] else []) ↔
      ofmsg ∈ byKind kind ∨ ofmsg = .barrierRequest ∧ useBarriers = true ∧ byKind kind ≠ [] ∧
        suggestBarrier = true := by
    intro kind suggestBarrier
    cases byKind kind <;> cases useBarriers <;> cases suggestBarrier <;> simp [or_assoc]
  rw [inOrder, List.mem_flatMap]
  constructor
  · rintro ⟨⟨kind, suggestBarrier⟩, listed, member⟩
    refine ⟨kind, ((segment kind suggestBarrier).mp member).imp_right ?_⟩
    rintro ⟨same, barriers, filled, rfl⟩
    refine ⟨same, barriers, filled, ?_⟩
    rintro late
    simp only [List.mem_cons, Prod.mk.injEq, List.not_mem_nil, or_false] at listed late
    grind
  · rintro ⟨kind, member⟩
    refine ⟨(kind, decide (kind ∉ [MsgKind.flowaddmod, .other, .packetout])), ?_, ?_⟩
    · cases kind <;> decide
    · exact (segment kind _).mpr (member.imp_right fun ⟨same, barriers, filled, early⟩ =>
        ⟨same, barriers, filled, decide_eq_true early⟩)

omit returned in
/-- The pass sends messages of the batch and barriers. -/
theorem mem_of_reordered {useBarriers : Bool} {output : List Ofmsg}
    (returns : valveFlowreorder shuffle useBarriers input = some output) (member : ofmsg ∈ output) :
    ofmsg ∈ input ∨ ofmsg = .barrierRequest := by
  rw [valveFlowreorder, Option.map_eq_some_iff] at returns
  obtain ⟨deletes, returned, rfl⟩ := returns
  obtain ⟨kind, member | ⟨same, _⟩⟩ := mem_inOrder.mp member
  · exact .inl (mem_of_mem_sent returned member)
  · exact .inr same

omit returned in
/-- It sends every global delete. -/
theorem reordered_of_global {useBarriers : Bool} {output : List Ofmsg}
    (returns : valveFlowreorder shuffle useBarriers input = some output) (member : ofmsg ∈ input)
    (kind : msgKind ofmsg = .deleteglobal) : ofmsg ∈ output := by
  rw [valveFlowreorder, Option.map_eq_some_iff] at returns
  obtain ⟨deletes, returned, rfl⟩ := returns
  exact mem_inOrder.mpr ⟨.deleteglobal, .inl (mem_sent_deleteglobal.mpr ⟨member, kind⟩)⟩

end Sent

/-! ## What is done to an entry -/

section Effect

variable {σ : Type} {effect : σ → Ofmsg → σ}

theorem foldl_of_neutral {ofmsgs : List Ofmsg}
    (neutral : ∀ ofmsg ∈ ofmsgs, ∀ current, effect current ofmsg = current) (current : σ) :
    ofmsgs.foldl effect current = current := by
  induction ofmsgs with
  | nil => rfl
  | cons ofmsg rest ih =>
      rw [List.foldl_cons, neutral ofmsg List.mem_cons_self]
      exact ih fun other member => neutral other (List.mem_cons_of_mem _ member)

/-- The barriers do nothing to an entry. -/
theorem foldl_inOrder (barrier : ∀ current, effect current .barrierRequest = current)
    (useBarriers : Bool) (byKind : MsgKind → List Ofmsg) (current : σ) :
    (inOrder useBarriers byKind).foldl effect current =
      [MsgKind.config, .deleteglobal, .delete, .tfm, .groupadd, .meteradd, .flowaddmod, .other,
        .packetout].foldl (fun current kind => (byKind kind).foldl effect current) current := by
  have segment : ∀ kind suggestBarrier current,
      (if (byKind kind).isEmpty then []
        else byKind kind ++
          if useBarriers && suggestBarrier then [.barrierRequest] else []).foldl effect current =
        (byKind kind).foldl effect current := by
    intro kind suggestBarrier current
    split
    next empty => rw [List.isEmpty_iff.mp empty]
    next =>
      rw [List.foldl_append]
      split
      · exact barrier _
      · rfl
  simp only [inOrder, List.flatMap_cons, List.flatMap_nil, List.foldl_append, segment,
    List.foldl_cons, List.foldl_nil]

/-- An effect that only deletes and the messages of one kind of adds have. -/
theorem foldl_sent {shuffle : Shuffle} {useBarriers : Bool} {input deletes : List Ofmsg}
    (returned : dedupeOverlapsOfmsgs id (withoutSuppressed input) = some deletes)
    {addKind : MsgKind} (isAdd : addKind = .groupadd ∨ addKind = .meteradd ∨ addKind = .flowaddmod)
    (neutral : ∀ ofmsg, msgKind ofmsg ≠ .deleteglobal → msgKind ofmsg ≠ .delete →
      msgKind ofmsg ≠ addKind → ∀ current, effect current ofmsg = current) (current : σ) :
    (inOrder useBarriers (sent shuffle input deletes)).foldl effect current =
      (sent shuffle input deletes addKind).foldl effect
        ((sent shuffle input deletes .deleteglobal ++ sent shuffle input deletes .delete).foldl
          effect current) := by
  have skip : ∀ kind, kind ≠ .deleteglobal → kind ≠ .delete → kind ≠ addKind →
      ∀ current, (sent shuffle input deletes kind).foldl effect current = current := by
    intro kind notGlobal notDelete notAdd
    refine foldl_of_neutral fun ofmsg member => ?_
    rw [← msgKind_of_mem_sent returned member] at notGlobal notDelete notAdd
    exact neutral ofmsg notGlobal notDelete notAdd
  have barrier : ∀ current, effect current .barrierRequest = current := by
    refine neutral _ nofun nofun ?_
    rcases isAdd with rfl | rfl | rfl <;> nofun
  rw [foldl_inOrder barrier, List.foldl_append]
  simp only [List.foldl_cons, List.foldl_nil]
  rcases isAdd with rfl | rfl | rfl
  all_goals simp [skip]

end Effect

/-! ## Groups and meters -/

section Entries

variable {α : Type} {select : Ofmsg → Option (EntryMod α)} {all entryId : Nat}

/-- A delete of the entry, or of all entries. -/
def deletesEntry (select : Ofmsg → Option (EntryMod α)) (all entryId : Nat) (ofmsg : Ofmsg) :
    Bool :=
  match select ofmsg with
  | some (.delete id) => id = all ∨ id = entryId
  | _ => false

/-- The content that an add has for the entry. -/
def addedContent (select : Ofmsg → Option (EntryMod α)) (entryId : Nat) (ofmsg : Ofmsg) : Option α :=
  match select ofmsg with
  | some (.add id content) => if id = entryId then some content else none
  | _ => none

theorem entryEffect_eq (current : Option α) (ofmsg : Ofmsg) :
    entryEffect select all entryId current ofmsg =
      if deletesEntry select all entryId ofmsg then none
      else current.or (addedContent select entryId ofmsg) := by
  rw [entryEffect, deletesEntry, addedContent]
  match select ofmsg with
  | none => simp
  | some (.delete id) => simp [EntryMod.step]
  | some (.add id content) =>
      by_cases same : id = entryId
      · simp [EntryMod.step, same]
      · simp [EntryMod.step, same]

theorem foldl_deletesEntry {ofmsgs : List Ofmsg}
    (noAdds : ∀ ofmsg ∈ ofmsgs, addedContent select entryId ofmsg = none) (current : Option α) :
    ofmsgs.foldl (entryEffect select all entryId) current =
      if ofmsgs.any (deletesEntry select all entryId) then none else current := by
  induction ofmsgs generalizing current with
  | nil => rfl
  | cons ofmsg rest ih =>
      rw [List.foldl_cons, ih fun other member => noAdds other (List.mem_cons_of_mem _ member),
        entryEffect_eq, noAdds ofmsg List.mem_cons_self, Option.or_none, List.any_cons]
      by_cases deletes : deletesEntry select all entryId ofmsg
      · simp [deletes]
      · simp [deletes]

theorem foldl_addedContent {ofmsgs : List Ofmsg}
    (noDeletes : ∀ ofmsg ∈ ofmsgs, deletesEntry select all entryId ofmsg = false)
    (current : Option α) :
    ofmsgs.foldl (entryEffect select all entryId) current =
      current.or (ofmsgs.findSome? (addedContent select entryId)) := by
  induction ofmsgs generalizing current with
  | nil => simp
  | cons ofmsg rest ih =>
      rw [List.foldl_cons, ih fun other member => noDeletes other (List.mem_cons_of_mem _ member),
        entryEffect_eq, noDeletes ofmsg List.mem_cons_self, List.findSome?_cons]
      cases addedContent select entryId ofmsg with
      | none => simp
      | some content => cases current <;> rfl

theorem findSome?_filter {β γ : Type*} {p : β → Bool} {f : β → Option γ} {xs : List β}
    (selects : ∀ x, (f x).isSome → p x = true) : (xs.filter p).findSome? f = xs.findSome? f := by
  induction xs with
  | nil => rfl
  | cons x rest ih =>
      rw [List.filter_cons, List.findSome?_cons]
      split
      next => rw [List.findSome?_cons, ih]
      next dropped =>
        cases found : f x with
        | none => exact ih
        | some y => exact absurd (selects x (by rw [found]; rfl)) dropped

/-- Messages without a table keep their order. -/
theorem sortFlows_of_noTable {ofmsgs : List Ofmsg} (noTable : ∀ ofmsg ∈ ofmsgs, tableId ofmsg = none) :
    sortFlows ofmsgs = ofmsgs := by
  refine List.mergeSort_of_pairwise (List.Pairwise.imp_of_mem ?_ (List.pairwise_of_forall fun _ _ => trivial))
  have noPriority : ∀ ofmsg, tableId ofmsg = none → priority ofmsg = none := by
    intro ofmsg table
    cases ofmsg <;> first | rfl | cases table
  intro first second member member' _
  have table := noTable first member
  have table' := noTable second member'
  simp [sortsBefore, table, table', noPriority]

variable {shuffle : Shuffle} {useBarriers : Bool} {input deletes : List Ofmsg}

/-- How the messages of a table are told: by kind, by type, and their adds by one kind. -/
structure Selects (select : Ofmsg → Option (EntryMod α)) (all : Nat) (type : MsgType)
    (addKind : MsgKind) : Prop where
  kindOf : ∀ ofmsg mod, select ofmsg = some mod → msgKind ofmsg = mod.msgKind all addKind
  typeOf : ∀ ofmsg, (select ofmsg).isSome ↔ msgType ofmsg = type
  notFlow : type ≠ .flowMod
  isAdd : addKind = .groupadd ∨ addKind = .meteradd

namespace Selects

variable {type : MsgType} {addKind : MsgKind} {ofmsg : Ofmsg} (selects : Selects select all type addKind)
include selects

theorem kind_of_adds (adds : (addedContent select entryId ofmsg).isSome) :
    msgKind ofmsg = addKind := by
  rw [addedContent] at adds
  split at adds
  next id content found => exact selects.kindOf ofmsg _ found
  next => cases adds

theorem isDelete_of_deletes (removes : deletesEntry select all entryId ofmsg = true) :
    isDelete ofmsg = true := by
  rw [deletesEntry] at removes
  split at removes
  next id found =>
    rw [isDelete, selects.kindOf ofmsg _ found, EntryMod.msgKind]
    split <;> rfl
  next => cases removes

theorem addKind_ne : addKind ≠ .deleteglobal ∧ addKind ≠ .delete := by
  rcases selects.isAdd with rfl | rfl <;> exact ⟨nofun, nofun⟩

theorem addedContent_of_isDelete (isDel : isDelete ofmsg = true) :
    addedContent select entryId ofmsg = none := by
  by_contra adds
  have kind := selects.kind_of_adds (Option.isSome_iff_ne_none.mpr adds)
  rw [isDelete, kind, Bool.or_eq_true, beq_iff_eq, beq_iff_eq] at isDel
  exact isDel.elim selects.addKind_ne.1 selects.addKind_ne.2

theorem deletesEntry_of_not_isDelete (notDel : isDelete ofmsg = false) :
    deletesEntry select all entryId ofmsg = false := by
  rw [← Bool.not_eq_true] at notDel ⊢
  exact fun removes => notDel (selects.isDelete_of_deletes removes)

theorem isDelete_of_adds (adds : (addedContent select entryId ofmsg).isSome) :
    (!isDelete ofmsg) = true := by
  rw [Bool.not_eq_true', isDelete, selects.kind_of_adds adds]
  simp [selects.addKind_ne]

theorem effect_neutral (notGlobal : msgKind ofmsg ≠ .deleteglobal) (notDel : msgKind ofmsg ≠ .delete)
    (notAdd : msgKind ofmsg ≠ addKind) (current : Option α) :
    entryEffect select all entryId current ofmsg = current := by
  have adds : addedContent select entryId ofmsg = none := by
    by_contra adds
    exact notAdd (selects.kind_of_adds (Option.isSome_iff_ne_none.mpr adds))
  rw [entryEffect_eq, adds, selects.deletesEntry_of_not_isDelete (by simp [isDelete, notGlobal, notDel]),
    Option.or_none]
  rfl

theorem any_filter_isDelete :
    (input.filter isDelete).any (deletesEntry select all entryId) =
      input.any (deletesEntry select all entryId) := by
  have same : (fun ofmsg => isDelete ofmsg && deletesEntry select all entryId ofmsg) =
      deletesEntry select all entryId := by
    funext ofmsg
    cases removes : deletesEntry select all entryId ofmsg with
    | true => rw [selects.isDelete_of_deletes removes, Bool.and_true]
    | false => rw [Bool.and_false]
  rw [List.any_filter, same]

/-- The deletes of a batch, then its other messages: the first add counts. -/
theorem foldl_deletesFirst (current : Option α) :
    (deletesFirst input).foldl (entryEffect select all entryId) current =
      (if input.any (deletesEntry select all entryId) then none else current).or
        (input.findSome? (addedContent select entryId)) := by
  rw [deletesFirst, List.foldl_append, foldl_addedContent, foldl_deletesEntry,
    selects.any_filter_isDelete, findSome?_filter fun ofmsg adds => selects.isDelete_of_adds adds]
  · exact fun ofmsg member => selects.addedContent_of_isDelete (List.mem_filter.mp member).2
  · intro ofmsg member
    exact selects.deletesEntry_of_not_isDelete (by simpa using (List.mem_filter.mp member).2)

variable (returned : dedupeOverlapsOfmsgs id (withoutSuppressed input) = some deletes)
include returned

/-- A delete of one entry is dropped for a delete of all of them only. -/
theorem any_sent_deletes :
    (sent shuffle input deletes .deleteglobal ++ sent shuffle input deletes .delete).any
        (deletesEntry select all entryId) =
      input.any (deletesEntry select all entryId) := by
  rw [Bool.eq_iff_iff, List.any_eq_true, List.any_eq_true]
  constructor
  · rintro ⟨ofmsg, member, removes⟩
    rcases List.mem_append.mp member with global | delete
    · exact ⟨ofmsg, (mem_sent_deleteglobal.mp global).1, removes⟩
    · exact ⟨ofmsg, ((mem_sent_delete returned).mp delete).1, removes⟩
  · rintro ⟨ofmsg, member, removes⟩
    have isDel := selects.isDelete_of_deletes removes
    rw [isDelete, Bool.or_eq_true, beq_iff_eq, beq_iff_eq] at isDel
    have type : msgType ofmsg = type := by
      rw [← selects.typeOf, Option.isSome_iff_ne_none]
      intro unselected
      rw [deletesEntry, unselected] at removes
      cases removes
    have noKey : flowmodkey ofmsg = none ∧ tableId ofmsg = none := by
      cases ofmsg <;> first | exact ⟨rfl, rfl⟩ | exact absurd type.symm selects.notFlow
    rcases isDel with global | delete
    · exact ⟨ofmsg, List.mem_append_left _ (mem_sent_deleteglobal.mpr ⟨member, global⟩), removes⟩
    · by_cases dropped : Dropped input ofmsg
      · -- only a delete of all entries stands for it
        rcases dropped.2 with ⟨wide, present, global, sameType⟩ | ⟨⟨_, table, _⟩, _⟩ | readded
        · refine ⟨wide, List.mem_append_left _ (mem_sent_deleteglobal.mpr ⟨present, global⟩), ?_⟩
          obtain ⟨mod, selected⟩ := Option.isSome_iff_exists.mp ((selects.typeOf wide).mpr
            (sameType.trans type))
          rw [selects.kindOf wide mod selected] at global
          cases mod with
          | add => exact absurd global selects.addKind_ne.1
          | delete id =>
              rw [EntryMod.msgKind] at global
              split at global
              next every => simp [deletesEntry, selected, every]
              next => cases global
        · rw [noKey.2] at table
          cases table
        · have isSome := flowmodkey_isSome_of_readded readded
          rw [noKey.1] at isSome
          cases isSome
      · exact ⟨ofmsg, List.mem_append_right _
          ((mem_sent_delete returned).mpr ⟨member, delete, dropped⟩), removes⟩

omit returned in
/-- The first add of an entry stays the first. -/
theorem findSome?_sent :
    (sent shuffle input deletes addKind).findSome? (addedContent select entryId) =
      input.findSome? (addedContent select entryId) := by
  have deduped : sent shuffle input deletes addKind =
      dedupeOfmsgs id (input.filter (msgKind · == addKind)) := by
    rcases selects.isAdd with rfl | rfl <;> rfl
  have sends : dedupeOfmsgs id (input.filter (msgKind · == addKind)) =
      OrderedDict.values id (input.filter (msgKind · == addKind)) := by
    rw [dedupeOfmsgs]
    refine sortFlows_of_noTable fun ofmsg member => ?_
    obtain ⟨_, kind⟩ := mem_of_kind.mp (OrderedDict.mem_of_mem_values member)
    cases ofmsg with
    | flowMod mod =>
        rcases msgKind_flowMod mod with ⟨_, other | other⟩ | ⟨_, other⟩
        all_goals
          rw [other] at kind
          rcases selects.isAdd with rfl | rfl <;> cases kind
    | _ => rfl
  rw [deduped, sends, OrderedDict.findSome?_values_id,
    findSome?_filter fun ofmsg adds => beq_iff_eq.mpr (selects.kind_of_adds adds)]

/-- What is sent does the same: the deletes first, then the first add. -/
theorem foldl_reordered (current : Option α) :
    (inOrder useBarriers (sent shuffle input deletes)).foldl (entryEffect select all entryId)
        current =
      (if input.any (deletesEntry select all entryId) then none else current).or
        (input.findSome? (addedContent select entryId)) := by
  have neutral : ∀ ofmsg, msgKind ofmsg ≠ .deleteglobal → msgKind ofmsg ≠ .delete →
      msgKind ofmsg ≠ addKind →
      ∀ current, entryEffect select all entryId current ofmsg = current :=
    fun ofmsg notGlobal notDel notAdd => selects.effect_neutral notGlobal notDel notAdd
  rw [foldl_sent returned (selects.isAdd.imp_right .inl) neutral, foldl_addedContent,
    foldl_deletesEntry, selects.any_sent_deletes returned, selects.findSome?_sent]
  · intro ofmsg member
    rcases List.mem_append.mp member with global | delete
    · exact selects.addedContent_of_isDelete (by simp [isDelete, (mem_sent_deleteglobal.mp global).2])
    · exact selects.addedContent_of_isDelete
        (by simp [isDelete, ((mem_sent_delete returned).mp delete).2.1])
  · intro ofmsg member
    refine selects.deletesEntry_of_not_isDelete ?_
    rw [isDelete, msgKind_of_mem_sent returned member]
    simp [selects.addKind_ne]

/-- **The groups and the meters** end up as they should: a delete of one entry is
dropped for a delete of all only, and the first add of an entry stays the first. -/
theorem entries_agree (current : Option α) :
    (inOrder useBarriers (sent shuffle input deletes)).foldl (entryEffect select all entryId)
        current =
      (deletesFirst input).foldl (entryEffect select all entryId) current := by
  rw [selects.foldl_reordered returned, selects.foldl_deletesFirst]

end Selects

theorem groupMod?_kind (ofmsg : Ofmsg) (mod : EntryMod Group) (selected : ofmsg.groupMod? = some mod) :
    msgKind ofmsg = mod.msgKind ofpgAll .groupadd := by
  cases ofmsg <;> cases selected
  rfl

theorem groupMod?_type (ofmsg : Ofmsg) : ofmsg.groupMod?.isSome ↔ msgType ofmsg = .groupMod := by
  cases ofmsg <;> simp [Ofmsg.groupMod?, msgType]

theorem meterMod?_kind (ofmsg : Ofmsg) (mod : EntryMod Meter) (selected : ofmsg.meterMod? = some mod) :
    msgKind ofmsg = mod.msgKind ofpmAll .meteradd := by
  cases ofmsg <;> cases selected
  rfl

theorem meterMod?_type (ofmsg : Ofmsg) : ofmsg.meterMod?.isSome ↔ msgType ofmsg = .meterMod := by
  cases ofmsg <;> simp [Ofmsg.meterMod?, msgType]

theorem selects_groupMod : Selects Ofmsg.groupMod? ofpgAll .groupMod .groupadd :=
  ⟨groupMod?_kind, groupMod?_type, nofun, .inl rfl⟩

theorem selects_meterMod : Selects Ofmsg.meterMod? ofpmAll .meterMod .meteradd :=
  ⟨meterMod?_kind, meterMod?_type, nofun, .inr rfl⟩

end Entries

end Faucet.OpenFlow
