import Faucet.OpenFlow.SentFlows

/-!
# The order in which messages are sent

What `valve_flowreorder` makes of a batch, for every batch. It fails on a mix of
deletes (`MixesDeletes`) and otherwise sends, once each, the messages that are not
dropped, of the adds and modifies of a flow the last. They come in the order of
`_OFMSG_ORDER`, those of a kind sorted by table and priority, and with barriers
there is one right after the last message of each kind that suggests it, so that it is
between these and everything of later kinds. There are no others, but for one that the
batch itself has (`AsSent`).
-/

set_option autoImplicit false

namespace Faucet.OpenFlow

/-! ## The order of the kinds -/

/-- `_OFMSG_ORDER`: the kinds, and whether a barrier is suggested after them. -/
def ofmsgOrder : List (MsgKind × Bool) :=
  [(.config, true), (.deleteglobal, true), (.delete, true), (.tfm, true), (.groupadd, true),
    (.meteradd, true), (.flowaddmod, false), (.other, false), (.packetout, false)]

namespace MsgKind

/-- The place of a kind in the order. -/
def place (kind : MsgKind) : Nat := (ofmsgOrder.map Prod.fst).idxOf kind

/-- A barrier is suggested after messages of the kind. -/
def suggestsBarrier (kind : MsgKind) : Bool := ofmsgOrder.contains (kind, true)

theorem pairwise_place :
    ofmsgOrder.Pairwise fun earlier later => earlier.1.place < later.1.place := by
  decide

end MsgKind

/-- The messages of a kind, with the barrier after them. -/
def block (useBarriers : Bool) (byKind : MsgKind → List Ofmsg) (entry : MsgKind × Bool) :
    List Ofmsg :=
  if (byKind entry.1).isEmpty then []
  else byKind entry.1 ++ if useBarriers && entry.2 then [.barrierRequest] else []

theorem inOrder_eq {useBarriers : Bool} {byKind : MsgKind → List Ofmsg} :
    inOrder useBarriers byKind = ofmsgOrder.flatMap (block useBarriers byKind) := rfl

/-! ## What is sent -/

/-- The last add or modify of its key in the batch. -/
def LastOfKey (input : List Ofmsg) (ofmsg : Ofmsg) : Prop :=
  ∃ before after, input = before ++ ofmsg :: after ∧
    ∀ later ∈ after, msgKind later = .flowaddmod → flowmodkey later ≠ flowmodkey ofmsg

/-- The first may be sent before the second: by its kind or, packet outs apart, as
flows are sorted. -/
def MayPrecede (first second : Ofmsg) : Prop :=
  (msgKind first).place < (msgKind second).place ∨
    msgKind first = msgKind second ∧
      (msgKind first = .packetout ∨ sortsBefore first second = true)

/-- The message is no barrier. -/
def notBarrier (ofmsg : Ofmsg) : Bool := ofmsg ≠ .barrierRequest

/-- The barrier after these messages is one that is added: it comes right after the last
message of a kind that suggests it. -/
def ClosesKind (before after : List Ofmsg) : Prop :=
  ∃ earlier last, before = earlier ++ [last] ∧ (msgKind last).suggestsBarrier = true ∧
    ∀ later ∈ after, later ≠ .barrierRequest → (msgKind last).place < (msgKind later).place

/-- The barrier between these messages is sent like others of its kind. -/
def AmongOthers (before after : List Ofmsg) : Prop :=
  (∀ ofmsg ∈ before, (msgKind ofmsg).place ≤ MsgKind.other.place) ∧
    ∀ ofmsg ∈ after, MsgKind.other.place ≤ (msgKind ofmsg).place

/-- How many kinds that suggest a barrier are sent. -/
def closedKinds (output : List Ofmsg) : ℕ :=
  ofmsgOrder.countP fun entry => entry.2 && output.any (msgKind · == entry.1)

/-- The output is what is to be sent of the batch, once each, in order, with barriers. -/
structure AsSent (useBarriers : Bool) (input output : List Ofmsg) : Prop where
  exact : ∀ ofmsg, ofmsg ≠ .barrierRequest →
    (ofmsg ∈ output ↔ ofmsg ∈ input ∧ ¬ Dropped input ofmsg ∧
      (msgKind ofmsg = .flowaddmod → LastOfKey input ofmsg))
  once : (output.filter notBarrier).Nodup
  ordered : (output.filter notBarrier).Pairwise MayPrecede
  separated : useBarriers = true → ∀ first ∈ output, ∀ second ∈ output,
    second ≠ .barrierRequest → (msgKind first).suggestsBarrier = true →
    (msgKind first).place < (msgKind second).place →
    [first, .barrierRequest, second].Sublist output
  placed : ∀ before after, output = before ++ .barrierRequest :: after →
    useBarriers = true ∧ ClosesKind before after ∨
      .barrierRequest ∈ input ∧ AmongOthers before after
  counted : output.count .barrierRequest =
    (if useBarriers then closedKinds output else 0) + if .barrierRequest ∈ input then 1 else 0

/-! ## The messages of a kind -/

/-- The messages are sorted, and each is there once. -/
def SortedOnce (ofmsgs : List Ofmsg) : Prop :=
  ofmsgs.Pairwise fun first second => first ≠ second ∧ sortsBefore first second = true

theorem sortsBefore_of_table_lt {first second : Ofmsg} {table table' : Nat}
    (found : tableId first = some table) (found' : tableId second = some table')
    (less : table' < table) : sortsBefore first second = true := by
  simp [sortsBefore, found, found', less]

/-- A dictionary's values, sorted. -/
theorem sortedOnce_dedupeOfmsgs {κ : Type} [DecidableEq κ] {key : Ofmsg → κ}
    {ofmsgs : List Ofmsg} : SortedOnce (dedupeOfmsgs key ofmsgs) := by
  have once : (dedupeOfmsgs key ofmsgs).Nodup :=
    (List.mergeSort_perm _ _).nodup_iff.mpr (.of_map key OrderedDict.nodup_map_values)
  exact List.Pairwise.and once
    (List.pairwise_mergeSort sortsBefore_trans sortsBefore_total _)

/-- The tables descend, and what is left of a table keeps its order. -/
theorem sortedOnce_dedupeOverlapsOfmsgs {ofmsgs left : List Ofmsg}
    (returned : dedupeOverlapsOfmsgs id ofmsgs = some left) : SortedOnce left := by
  unfold dedupeOverlapsOfmsgs at returned
  dsimp only at returned
  split at returned
  next =>
    split at returned
    next => cases returned
    next noTable =>
      cases returned
      generalize tablesEq : OrderedDict.values id ((dedupeOfmsgs id ofmsgs).map tableId) = tables
        at noTable
      have descends : (tables.mergeSort fun first second => second.getD 0 ≤ first.getD 0).Pairwise
          fun first second => decide (second.getD 0 ≤ first.getD 0) = true := by
        refine List.pairwise_mergeSort (fun first second third le le' => ?_)
          (fun first second => ?_) tables
        · simp only [decide_eq_true_eq] at *
          omega
        · simp only [Bool.or_eq_true, decide_eq_true_eq]
          omega
      have distinct : (tables.mergeSort fun first second => second.getD 0 ≤ first.getD 0).Nodup := by
        rw [(List.mergeSort_perm tables _).nodup_iff, ← tablesEq]
        exact OrderedDict.nodup_values_id
      refine List.pairwise_flatMap.mpr ⟨fun table _ => sortedOnce_dedupeOfmsgs.filter _, ?_⟩
      refine (descends.and distinct).imp_of_mem ?_
      rintro table table' listed listed' ⟨le, different⟩ first member second member'
      have found := (List.mem_filter.mp member).2
      have found' := (List.mem_filter.mp member').2
      rw [Bool.and_eq_true, beq_iff_eq] at found found'
      refine ⟨?_, ?_⟩
      · rintro rfl
        exact different (found.1.symm.trans found'.1)
      · rw [List.mem_mergeSort] at listed listed'
        cases table with
        | none => exact absurd listed noTable
        | some table =>
            cases table' with
            | none => exact absurd listed' noTable
            | some table' =>
                refine sortsBefore_of_table_lt found.1 found'.1 (Nat.lt_of_le_of_ne ?_ ?_)
                · exact of_decide_eq_true le
                · rintro rfl
                  exact different rfl
  next =>
    cases returned
    exact sortedOnce_dedupeOfmsgs

/-- What is filtered by the way is the last for the filtered list. -/
theorem exists_last_filter {α : Type*} {p : α → Bool} {Other : α → Prop} {xs : List α} {x : α} :
    (∃ before after, xs.filter p = before ++ x :: after ∧ ∀ later ∈ after, Other later) ↔
      p x = true ∧ ∃ before after, xs = before ++ x :: after ∧
        ∀ later ∈ after, p later = true → Other later := by
  constructor
  · rintro ⟨before, after, split, others⟩
    obtain ⟨first, second, rfl, _, rest⟩ := List.filter_eq_append_iff.mp split
    obtain ⟨skipped, last, rfl, _, taken, rfl⟩ := List.filter_eq_cons_iff.mp rest
    refine ⟨taken, first ++ skipped, last, by simp, fun later member selected => ?_⟩
    exact others later (List.mem_filter.mpr ⟨member, selected⟩)
  · rintro ⟨taken, before, after, rfl, others⟩
    refine ⟨before.filter p, after.filter p, by simp [taken], fun later member => ?_⟩
    obtain ⟨member, selected⟩ := List.mem_filter.mp member
    exact others later member selected

section Kinds

variable {shuffle : Shuffle} {useBarriers : Bool} {input deletes : List Ofmsg} {ofmsg : Ofmsg}
  (returned : dedupeOverlapsOfmsgs id (withoutSuppressed input) = some deletes)
include returned

/-- Deletes that are not dropped, the last add or modify of a key, and all else. -/
theorem mem_sent_iff : ofmsg ∈ sent shuffle input deletes (msgKind ofmsg) ↔
    ofmsg ∈ input ∧ ¬ Dropped input ofmsg ∧
      (msgKind ofmsg = .flowaddmod → LastOfKey input ofmsg) := by
  cases kind : msgKind ofmsg
  case delete =>
    rw [mem_sent_delete returned]
    simp [kind]
  case flowaddmod =>
    rw [sent, dedupeOfmsgs, sortFlows, List.mem_mergeSort, OrderedDict.mem_values_iff,
      exists_last_filter]
    simp only [kind, beq_iff_eq, true_and, true_implies, Dropped, reduceCtorEq, false_and,
      not_false_eq_true]
    refine (and_iff_right_of_imp ?_).symm
    rintro ⟨before, after, rfl, _⟩
    simp
  case packetout =>
    rw [sent, dedupeShuffled, (shuffle.perm _).mem_iff, OrderedDict.mem_values_id, mem_of_kind]
    simp [kind, Dropped]
  all_goals
    rw [sent, mem_dedupeOfmsgs, mem_of_kind]
    · simp [kind, Dropped]
    all_goals
      intro other
      cases other

theorem mem_sent_iff_kind {kind : MsgKind} : ofmsg ∈ sent shuffle input deletes kind ↔
    msgKind ofmsg = kind ∧ ofmsg ∈ sent shuffle input deletes (msgKind ofmsg) := by
  constructor
  · intro member
    have same := msgKind_of_mem_sent returned member
    exact ⟨same, by rwa [same]⟩
  · rintro ⟨rfl, member⟩
    exact member

/-- The messages of a kind are in an order in which they may be sent. -/
theorem pairwise_sent (kind : MsgKind) : (sent shuffle input deletes kind).Pairwise
    fun first second => first ≠ second ∧ MayPrecede first second := by
  have ofSorted : SortedOnce (sent shuffle input deletes kind) →
      (sent shuffle input deletes kind).Pairwise
        fun first second => first ≠ second ∧ MayPrecede first second := by
    refine fun sorted => List.Pairwise.imp_of_mem (fun member member' before => ?_) sorted
    refine ⟨before.1, .inr ⟨?_, .inr before.2⟩⟩
    rw [msgKind_of_mem_sent returned member, msgKind_of_mem_sent returned member']
  cases kind
  case delete => exact ofSorted ((sortedOnce_dedupeOverlapsOfmsgs returned).filter _)
  case packetout =>
    have once : (sent shuffle input deletes .packetout).Nodup :=
      (shuffle.perm _).nodup_iff.mpr OrderedDict.nodup_values_id
    refine List.Pairwise.imp_of_mem (fun member member' different => ⟨different, .inr ⟨?_, ?_⟩⟩) once
    · rw [msgKind_of_mem_sent returned member, msgKind_of_mem_sent returned member']
    · exact .inl (msgKind_of_mem_sent returned member)
  all_goals exact ofSorted sortedOnce_dedupeOfmsgs

end Kinds

/-! ## The batch that is sent -/

section Blocks

variable {useBarriers : Bool} {byKind : MsgKind → List Ofmsg} {entry : MsgKind × Bool}
  {ofmsg : Ofmsg}

theorem filter_block : (block useBarriers byKind entry).filter notBarrier =
    (byKind entry.1).filter notBarrier := by
  unfold block
  split
  next empty => rw [List.isEmpty_iff.mp empty]
  next =>
    rw [List.filter_append]
    split
    · rw [List.filter_singleton]
      simp [notBarrier]
    · simp

theorem sublist_block (member : ofmsg ∈ byKind entry.1) :
    [ofmsg].Sublist (block useBarriers byKind entry) := by
  rw [block, if_neg (by simpa using List.ne_nil_of_mem member)]
  exact (List.singleton_sublist.mpr member).trans (List.sublist_append_left _ _)

theorem barrier_sublist_block (member : ofmsg ∈ byKind entry.1) (barrier : entry.2 = true) :
    [ofmsg, .barrierRequest].Sublist (block true byKind entry) := by
  rw [block, if_neg (by simpa using List.ne_nil_of_mem member), barrier]
  exact (List.singleton_sublist.mpr member).append (List.Sublist.refl [Ofmsg.barrierRequest])

/-- A barrier of a block is a message of the kind, or it is added at the end. -/
theorem block_split {earlier later : List Ofmsg}
    (split : block useBarriers byKind entry = earlier ++ .barrierRequest :: later) :
    .barrierRequest ∈ byKind entry.1 ∨ useBarriers = true ∧ entry.2 = true ∧
      byKind entry.1 ≠ [] ∧ earlier = byKind entry.1 ∧ later = [] := by
  rw [block] at split
  split at split
  next => simp at split
  next filled =>
    refine or_iff_not_imp_left.mpr fun absent => ?_
    split at split
    next barriers =>
      rw [Bool.and_eq_true] at barriers
      rw [List.append_cons_inj_of_notMem absent List.not_mem_nil] at split
      exact ⟨barriers.1, barriers.2, by simpa using filled, split.1.symm, split.2.2.symm⟩
    next =>
      rw [List.append_nil] at split
      exact absurd (by simp [split]) absent

theorem count_block : (block useBarriers byKind entry).count .barrierRequest =
    (byKind entry.1).count .barrierRequest +
      if useBarriers && (entry.2 && !(byKind entry.1).isEmpty) then 1 else 0 := by
  rw [block]
  split
  next empty => simp [List.isEmpty_iff.mp empty]
  next filled =>
    rw [List.count_append]
    cases useBarriers <;> cases entry.2 <;> simp [filled]

/-- Kinds are listed in the order of their places. -/
theorem pair_sublist_ofmsgOrder {earlier later : MsgKind} (less : earlier.place < later.place) :
    [(earlier, earlier.suggestsBarrier), (later, later.suggestsBarrier)].Sublist ofmsgOrder := by
  cases earlier <;> cases later <;> first | decide | exact absurd less (by decide)

end Blocks

theorem sum_map_ite {α : Type*} (p : α → Bool) (xs : List α) :
    (xs.map fun x => if p x then 1 else 0).sum = xs.countP p := by
  induction xs with
  | nil => rfl
  | cons x rest ih => rw [List.map_cons, List.sum_cons, ih, List.countP_cons, Nat.add_comm]

/-- An element of a list that is put together is in one of its parts. -/
theorem exists_split_flatMap {α β : Type*} {f : α → List β} {xs : List α} {y : β}
    {before after : List β} (split : xs.flatMap f = before ++ y :: after) :
    ∃ first x last earlier later, xs = first ++ x :: last ∧ f x = earlier ++ y :: later ∧
      before = first.flatMap f ++ earlier ∧ after = later ++ last.flatMap f := by
  induction xs generalizing before with
  | nil => simp at split
  | cons x rest ih =>
      have ofRest : ∀ {extra}, before = f x ++ extra → rest.flatMap f = extra ++ y :: after →
          ∃ first x' last earlier later, x :: rest = first ++ x' :: last ∧
            f x' = earlier ++ y :: later ∧ before = first.flatMap f ++ earlier ∧
              after = later ++ last.flatMap f := by
        rintro extra rfl isRest
        obtain ⟨first, x', last, earlier, later, rfl, isPart, rfl, rfl⟩ := ih isRest
        exact ⟨x :: first, x', last, earlier, later, rfl, isPart, by simp, rfl⟩
      rw [List.flatMap_cons] at split
      rcases List.append_eq_append_iff.mp split with
        ⟨extra, isBefore, isRest⟩ | ⟨extra, isPart, isAfter⟩
      · exact ofRest isBefore isRest
      · cases extra with
        | nil => exact @ofRest [] (by simpa using isPart.symm) isAfter.symm
        | cons first extra =>
            obtain ⟨rfl, rfl⟩ := List.cons.inj isAfter
            exact ⟨[], x, rest, before, extra, rfl, isPart, rfl, rfl⟩

section Batch

variable {shuffle : Shuffle} {useBarriers : Bool} {input deletes : List Ofmsg}
  (returned : dedupeOverlapsOfmsgs id (withoutSuppressed input) = some deletes)
include returned

theorem mem_inOrder_sent {ofmsg : Ofmsg} (message : ofmsg ≠ .barrierRequest) :
    ofmsg ∈ inOrder useBarriers (sent shuffle input deletes) ↔
      ofmsg ∈ sent shuffle input deletes (msgKind ofmsg) := by
  rw [mem_inOrder]
  constructor
  · rintro ⟨kind, member | ⟨barrier, _⟩⟩
    · exact ((mem_sent_iff_kind returned).mp member).2
    · exact absurd barrier message
  · exact fun member => ⟨_, .inl member⟩

theorem pairwise_inOrder_sent :
    ((inOrder useBarriers (sent shuffle input deletes)).filter notBarrier).Pairwise
      fun first second => first ≠ second ∧ MayPrecede first second := by
  rw [inOrder_eq, List.filter_flatMap, List.pairwise_flatMap]
  refine ⟨fun entry _ => ?_, MsgKind.pairwise_place.imp fun {earlier later} less => ?_⟩
  · rw [filter_block]
    exact (pairwise_sent returned entry.1).filter _
  · intro first member second member'
    rw [filter_block] at member member'
    have kind := msgKind_of_mem_sent returned (List.mem_of_mem_filter member)
    have kind' := msgKind_of_mem_sent returned (List.mem_of_mem_filter member')
    rw [← kind, ← kind'] at less
    refine ⟨?_, .inl less⟩
    rintro rfl
    exact lt_irrefl _ less

theorem barrier_between {first second : Ofmsg}
    (member : first ∈ inOrder true (sent shuffle input deletes))
    (member' : second ∈ inOrder true (sent shuffle input deletes))
    (message : second ≠ .barrierRequest) (suggests : (msgKind first).suggestsBarrier = true)
    (less : (msgKind first).place < (msgKind second).place) :
    [first, .barrierRequest, second].Sublist (inOrder true (sent shuffle input deletes)) := by
  have message' : first ≠ .barrierRequest := by
    rintro rfl
    exact absurd suggests (by decide)
  rw [mem_inOrder_sent returned message'] at member
  rw [mem_inOrder_sent returned message] at member'
  rw [inOrder_eq]
  refine List.Sublist.trans ?_ ((pair_sublist_ofmsgOrder less).flatMap _)
  rw [List.flatMap_cons, List.flatMap_cons, List.flatMap_nil, List.append_nil]
  exact (barrier_sublist_block member suggests).append (sublist_block member')

/-- What is in a block is of its kind, or a barrier. -/
theorem kind_of_mem_block {entry : MsgKind × Bool} {ofmsg : Ofmsg}
    (member : ofmsg ∈ block useBarriers (sent shuffle input deletes) entry)
    (message : ofmsg ≠ .barrierRequest) : msgKind ofmsg = entry.1 := by
  rw [block] at member
  split at member
  next => cases member
  next =>
    rcases List.mem_append.mp member with listed | added
    · exact msgKind_of_mem_sent returned listed
    · split at added
      · exact absurd (List.mem_singleton.mp added) message
      · cases added

theorem kind_or_other_of_mem_block {entry : MsgKind × Bool} {ofmsg : Ofmsg}
    (member : ofmsg ∈ block useBarriers (sent shuffle input deletes) entry) :
    msgKind ofmsg = entry.1 ∨ msgKind ofmsg = MsgKind.other := by
  by_cases barrier : ofmsg = .barrierRequest
  · exact .inr (congrArg msgKind barrier)
  · exact .inl (kind_of_mem_block returned member barrier)

/-- **Where barriers are.** -/
theorem placed_inOrder_sent {before after : List Ofmsg}
    (split : inOrder useBarriers (sent shuffle input deletes) =
      before ++ .barrierRequest :: after) :
    useBarriers = true ∧ ClosesKind before after ∨
      .barrierRequest ∈ input ∧ AmongOthers before after := by
  rw [inOrder_eq] at split
  obtain ⟨first, entry, last, earlier, later, isOrder, isBlock, rfl, rfl⟩ :=
    exists_split_flatMap split
  have places := MsgKind.pairwise_place
  rw [isOrder, List.pairwise_append, List.pairwise_cons] at places
  obtain ⟨_, ⟨lessAfter, _⟩, lessBefore⟩ := places
  rcases block_split isBlock with own | ⟨barriers, suggests, filled, rfl, rfl⟩
  · refine .inr ⟨mem_of_mem_sent returned own, ?_⟩
    have isOther : MsgKind.other = entry.1 := msgKind_of_mem_sent returned own
    constructor
    · intro ofmsg member
      rcases List.mem_append.mp member with member | member
      · obtain ⟨entry', listed, member⟩ := List.mem_flatMap.mp member
        rcases kind_or_other_of_mem_block returned member with kind | kind <;> rw [kind]
        rw [isOther]
        exact (lessBefore entry' listed entry List.mem_cons_self).le
      · rcases kind_or_other_of_mem_block returned (isBlock ▸ List.mem_append_left _ member) with
          kind | kind <;> rw [kind]
        rw [isOther]
    · intro ofmsg member
      rcases List.mem_append.mp member with member | member
      · rcases kind_or_other_of_mem_block returned
          (isBlock ▸ List.mem_append_right _ (List.mem_cons_of_mem _ member)) with
          kind | kind <;> rw [kind]
        rw [isOther]
      · obtain ⟨entry', listed, member⟩ := List.mem_flatMap.mp member
        rcases kind_or_other_of_mem_block returned member with kind | kind <;> rw [kind]
        rw [isOther]
        exact (lessAfter entry' listed).le
  · refine .inl ⟨barriers, first.flatMap (block useBarriers (sent shuffle input deletes)) ++
      (sent shuffle input deletes entry.1).dropLast,
      (sent shuffle input deletes entry.1).getLast filled, ?_, ?_, ?_⟩
    · rw [List.append_assoc, List.dropLast_append_getLast]
    · rw [msgKind_of_mem_sent returned (List.getLast_mem filled), MsgKind.suggestsBarrier,
        List.contains_iff_mem, isOrder, ← suggests]
      exact List.mem_append_right _ List.mem_cons_self
    · intro ofmsg member message
      rw [List.nil_append] at member
      obtain ⟨entry', listed, member⟩ := List.mem_flatMap.mp member
      rw [msgKind_of_mem_sent returned (List.getLast_mem filled),
        kind_of_mem_block returned member message]
      exact lessAfter entry' listed

theorem count_sent (kind : MsgKind) :
    (sent shuffle input deletes kind).count .barrierRequest =
      if kind = .other ∧ .barrierRequest ∈ input then 1 else 0 := by
  have once : (sent shuffle input deletes kind).Nodup :=
    (pairwise_sent returned kind).imp And.left
  rw [once.count]
  refine if_congr ?_ rfl rfl
  rw [mem_sent_iff_kind returned, mem_sent_iff returned]
  simp [msgKind, Dropped, eq_comm]

theorem any_msgKind_inOrder_sent {kind : MsgKind} (notOther : kind ≠ .other) :
    (inOrder useBarriers (sent shuffle input deletes)).any (msgKind · == kind) =
      !(sent shuffle input deletes kind).isEmpty := by
  rw [Bool.eq_iff_iff, List.any_eq_true, Bool.not_eq_true', List.isEmpty_eq_false_iff_exists_mem]
  refine exists_congr fun ofmsg => ?_
  rw [beq_iff_eq, mem_sent_iff_kind returned, and_comm]
  refine and_congr_right fun isKind => mem_inOrder_sent returned ?_
  rintro rfl
  exact notOther isKind.symm

/-- **How many barriers there are.** -/
theorem count_inOrder_sent :
    (inOrder useBarriers (sent shuffle input deletes)).count .barrierRequest =
      (if useBarriers then closedKinds (inOrder useBarriers (sent shuffle input deletes)) else 0) +
        if .barrierRequest ∈ input then 1 else 0 := by
  have counts : ∀ entry ∈ ofmsgOrder,
      (block useBarriers (sent shuffle input deletes) entry).count .barrierRequest =
        (if entry.1 = .other ∧ .barrierRequest ∈ input then 1 else 0) +
          if useBarriers && (entry.2 && (inOrder useBarriers
            (sent shuffle input deletes)).any (msgKind · == entry.1)) then 1 else 0 := by
    intro entry listed
    rw [count_block, count_sent returned]
    obtain ⟨kind, suggests⟩ := entry
    cases suggests with
    | false => simp
    | true =>
        have notOther : kind ≠ .other := by
          rintro rfl
          exact absurd listed (by decide)
        rw [any_msgKind_inOrder_sent returned notOther]
  have own : (ofmsgOrder.map fun entry =>
      if entry.1 = .other ∧ .barrierRequest ∈ input then 1 else 0).sum =
        if .barrierRequest ∈ input then 1 else 0 := by
    by_cases present : .barrierRequest ∈ input <;> simp [ofmsgOrder, present]
  have added : (ofmsgOrder.map fun entry =>
      if useBarriers && (entry.2 && (inOrder useBarriers (sent shuffle input deletes)).any
        (msgKind · == entry.1)) then 1 else 0).sum =
        if useBarriers then closedKinds (inOrder useBarriers (sent shuffle input deletes)) else 0 := by
    cases useBarriers with
    | false => simp [ofmsgOrder]
    | true => exact sum_map_ite _ _
  rw [inOrder_eq, List.count_flatMap, ← inOrder_eq, Function.comp_def,
    List.map_congr_left counts, List.sum_map_add, own, added, Nat.add_comm]

theorem asSent : AsSent useBarriers input (inOrder useBarriers (sent shuffle input deletes)) where
  exact ofmsg message := by rw [mem_inOrder_sent returned message, mem_sent_iff returned]
  once := (pairwise_inOrder_sent returned).imp And.left
  ordered := (pairwise_inOrder_sent returned).imp And.right
  separated barriers first member second member' message suggests less := by
    subst barriers
    exact barrier_between returned member member' message suggests less
  placed _ _ split := placed_inOrder_sent returned split
  counted := count_inOrder_sent returned

end Batch

/-- **A batch is sent as it should be**: the pass fails on a mix of deletes only, and
otherwise sends what is to be sent of the batch, once each, in order, with barriers. -/
theorem valveFlowreorder_sends (shuffle : Shuffle) (useBarriers : Bool) (input : List Ofmsg) :
    (valveFlowreorder shuffle useBarriers input).elim (MixesDeletes input)
      fun output => ¬ MixesDeletes input ∧ AsSent useBarriers input output := by
  rw [valveFlowreorder, ← mixesDeletes_iff, ← dedupeOverlapsOfmsgs_eq_none]
  cases returned : dedupeOverlapsOfmsgs id (withoutSuppressed input) with
  | none => rfl
  | some deletes => exact ⟨Option.some_ne_none deletes, asSent returned⟩

end Faucet.OpenFlow
