import Mathlib

/-!
# The first free numbers

A number is taken by going up from a start until one is found that is not used
(`next`). Who takes several numbers from one start takes the first free ones from
there (`IsFirst`), whatever else has been taken elsewhere. Two who take numbers from
two starts take the same whoever comes first, exactly when there is room for the one
below the other's start (`IsFirst.disjoint_iff`).
-/

set_option autoImplicit false

namespace FirstFree

variable {used used' : ℕ → Prop} {start start' : ℕ} {ids ids' : List ℕ}

/-- Go up until a number is not used. -/
def search (taken : List ℕ) : ℕ → ℕ → ℕ
  | 0, id => id
  | fuel + 1, id => if id ∈ taken then search taken fuel (id + 1) else id

/-- The first number from the start on that is not used. -/
def next (taken : List ℕ) (start : ℕ) : ℕ := search taken taken.length start

section Search

variable (taken : List ℕ)

theorem le_search (fuel id : ℕ) : id ≤ search taken fuel id := by
  induction fuel generalizing id with
  | zero => exact le_rfl
  | succ fuel ih =>
      rw [search]
      split
      · exact (Nat.le_succ id).trans (ih (id + 1))
      · exact le_rfl

/-- What is passed over is used. -/
theorem mem_of_lt_search (fuel id : ℕ) {passed : ℕ} (from' : id ≤ passed)
    (below : passed < search taken fuel id) : passed ∈ taken := by
  induction fuel generalizing id with
  | zero => exact absurd below (Nat.not_lt.mpr from')
  | succ fuel ih =>
      rw [search] at below
      split at below
      next member =>
        by_cases same : passed = id
        · rwa [same]
        · exact ih (id + 1) (by omega) below
      next => exact absurd below (Nat.not_lt.mpr from')

/-- There is fuel enough for all that is used from here on. -/
theorem search_not_mem (fuel id : ℕ) (enough : (taken.filter (id ≤ ·)).length ≤ fuel) :
    search taken fuel id ∉ taken := by
  induction fuel generalizing id with
  | zero =>
      intro member
      have none := List.length_eq_zero_iff.mp (Nat.le_zero.mp enough)
      have listed : id ∈ taken.filter (id ≤ ·) := List.mem_filter.mpr ⟨member, by simp⟩
      rw [none] at listed
      cases listed
  | succ fuel ih =>
      rw [search]
      split
      next member =>
        apply ih
        have fewer : taken.filter (id + 1 ≤ ·) = (taken.filter (id ≤ ·)).filter (id ≠ ·) := by
          rw [List.filter_filter]
          refine List.filter_congr fun other _ => ?_
          rw [← Bool.decide_and, decide_eq_decide]
          omega
        have shorter : (taken.filter (id + 1 ≤ ·)).length < (taken.filter (id ≤ ·)).length := by
          rw [fewer]
          apply List.length_filter_lt_length_iff_exists.mpr
          exact ⟨id, List.mem_filter.mpr ⟨member, by simp⟩, by simp⟩
        omega
      next notMember => exact notMember

theorem next_not_mem : next taken start ∉ taken :=
  search_not_mem taken _ start (List.length_filter_le _ _)

theorem le_next : start ≤ next taken start := le_search taken _ start

theorem mem_of_lt_next {passed : ℕ} (from' : start ≤ passed) (below : passed < next taken start) :
    passed ∈ taken :=
  mem_of_lt_search taken _ start from' below

end Search

/-! ## Several numbers from one start -/

/-- The numbers are the first free ones from the start on. -/
structure IsFirst (used : ℕ → Prop) (start : ℕ) (ids : List ℕ) : Prop where
  ascending : ids.Pairwise (· < ·)
  ge : ∀ id ∈ ids, start ≤ id
  free : ∀ id ∈ ids, ¬ used id
  tight : ∀ id ∈ ids, ∀ passed, start ≤ passed → passed < id → used passed ∨ passed ∈ ids

/-- The numbers that are free from one start to the other. -/
def room (used : ℕ → Prop) [DecidablePred used] (start start' : ℕ) : ℕ :=
  ((Finset.Ico start start').filter fun id => ¬ used id).card

namespace IsFirst

theorem nil : IsFirst used start [] where
  ascending := List.Pairwise.nil
  ge := by simp
  free := by simp
  tight := by simp

theorem nodup (first : IsFirst used start ids) : ids.Nodup :=
  first.ascending.imp fun less => less.ne

/-- One more number is taken. -/
theorem concat (first : IsFirst used start ids) {taken : List ℕ}
    (mem_taken : ∀ id, id ∈ taken ↔ used id ∨ id ∈ ids) :
    IsFirst used start (ids ++ [next taken start]) := by
  have notTaken : next taken start ∉ taken := next_not_mem taken
  have later : ∀ id ∈ ids, id < next taken start := by
    intro id member
    by_contra notBelow
    have below : next taken start < id := by
      refine lt_of_le_of_ne (Nat.not_lt.mp notBelow) fun same => notTaken ?_
      rw [same]
      exact (mem_taken id).mpr (.inr member)
    exact notTaken ((mem_taken _).mpr (first.tight id member _ (le_next taken) below))
  constructor
  · apply List.pairwise_append.mpr
    refine ⟨first.ascending, List.pairwise_singleton _ _, fun id member last isLast => ?_⟩
    rw [List.mem_singleton.mp isLast]
    exact later id member
  · intro id member
    cases List.mem_append.mp member with
    | inl before => exact first.ge id before
    | inr isLast =>
        rw [List.mem_singleton.mp isLast]
        exact le_next taken
  · intro id member
    cases List.mem_append.mp member with
    | inl before => exact first.free id before
    | inr isLast =>
        rw [List.mem_singleton.mp isLast]
        exact fun isUsed => notTaken ((mem_taken _).mpr (.inl isUsed))
  · intro id member passed from' below
    cases List.mem_append.mp member with
    | inl before =>
        exact (first.tight id before passed from' below).imp_right (List.mem_append_left _)
    | inr isLast =>
        rw [List.mem_singleton.mp isLast] at below
        have isTaken := mem_of_lt_next taken from' below
        exact ((mem_taken passed).mp isTaken).imp_right (List.mem_append_left _)

/-- There are always enough numbers. -/
theorem exists_length {taken : List ℕ} (mem_taken : ∀ id, id ∈ taken ↔ used id) (start n : ℕ) :
    ∃ ids, IsFirst used start ids ∧ ids.length = n := by
  induction n with
  | zero => exact ⟨[], nil, rfl⟩
  | succ n ih =>
      obtain ⟨ids, first, length⟩ := ih
      refine ⟨ids ++ [next (taken ++ ids) start], first.concat fun id => ?_, ?_⟩
      · rw [List.mem_append, mem_taken]
      · rw [List.length_append, length, List.length_singleton]

/-- The first free numbers of two counts contain each other. -/
theorem subset_or_subset (first : IsFirst used start ids) (first' : IsFirst used start ids') :
    ids ⊆ ids' ∨ ids' ⊆ ids := by
  by_contra neither
  rw [not_or] at neither
  have outside : ∀ {some others : List ℕ}, ¬ some ⊆ others → ∃ id ∈ some, id ∉ others := by
    intro some others notSubset
    by_contra all
    exact notSubset fun id member => by_contra fun notMember => all ⟨id, member, notMember⟩
  obtain ⟨one, member, notMember⟩ := outside neither.1
  obtain ⟨two, member', notMember'⟩ := outside neither.2
  cases lt_trichotomy one two with
  | inl less =>
      cases first'.tight two member' one (first.ge one member) less with
      | inl isUsed => exact first.free one member isUsed
      | inr listed => exact notMember listed
  | inr notLess =>
      cases notLess with
      | inl same => exact notMember (same ▸ member')
      | inr greater =>
          cases first.tight one member two (first'.ge two member') greater with
          | inl isUsed => exact first'.free two member' isUsed
          | inr listed => exact notMember' listed

/-- **As many first free numbers are the same ones.** -/
theorem unique (first : IsFirst used start ids) (first' : IsFirst used start ids')
    (length : ids.length = ids'.length) : ids = ids' := by
  have perm : ids.Perm ids' := by
    cases first.subset_or_subset first' with
    | inl subset => exact (first.nodup.subperm subset).perm_of_length_le length.ge
    | inr subset => exact ((first'.nodup.subperm subset).perm_of_length_le length.le).symm
  exact perm.eq_of_pairwise (fun _ _ _ _ less more => absurd more (lt_asymm less)) first.ascending
    first'.ascending

/-- Fewer first free numbers are among more of them. -/
theorem subset_of_length_le (first : IsFirst used start ids) (first' : IsFirst used start ids')
    (length : ids.length ≤ ids'.length) : ids ⊆ ids' := by
  cases first.subset_or_subset first' with
  | inl subset => exact subset
  | inr subset => exact ((first'.nodup.subperm subset).perm_of_length_le length).symm.subset

/-- What is taken elsewhere makes no difference. -/
theorem widen (first : IsFirst used start ids) (more : ∀ id, used id → used' id)
    (apart : ∀ id ∈ ids, ¬ used' id) : IsFirst used' start ids where
  ascending := first.ascending
  ge := first.ge
  free := apart
  tight id member passed from' below := (first.tight id member passed from' below).imp_left (more passed)

/-! ## Two starts -/

variable [DecidablePred used]

/-- With room below the other start all numbers are below it. -/
theorem lt_of_room (first : IsFirst used start ids) (fits : ids.length ≤ room used start start') :
    ∀ id ∈ ids, id < start' := by
  intro id member
  by_contra notBelow
  -- All numbers that are free below the other start are taken, and this one as well.
  have subset : insert id ((Finset.Ico start start').filter fun id => ¬ used id) ⊆ ids.toFinset := by
    intro other isMember
    rw [List.mem_toFinset]
    cases Finset.mem_insert.mp isMember with
    | inl same => rwa [same]
    | inr isFree =>
        obtain ⟨between, isFree⟩ := Finset.mem_filter.mp isFree
        obtain ⟨from', below⟩ := Finset.mem_Ico.mp between
        exact (first.tight id member other from' (by omega)).resolve_left isFree
  have notCounted : id ∉ (Finset.Ico start start').filter fun id => ¬ used id := by
    intro counted
    exact notBelow (Finset.mem_Ico.mp (Finset.mem_filter.mp counted).1).2
  have count := Finset.card_le_card subset
  rw [Finset.card_insert_of_notMem notCounted, List.toFinset_card_of_nodup first.nodup] at count
  unfold room at fits
  omega

/-- **Two who take numbers do not meet** exactly when there is room for the first one
below the start of the second. -/
theorem disjoint_iff (first : IsFirst used start ids) (first' : IsFirst used start' ids')
    (le : start ≤ start') (nonempty : ids' ≠ []) :
    ids.Disjoint ids' ↔ ids.length ≤ room used start start' := by
  constructor
  · intro disjoint
    obtain ⟨least, rest, rfl⟩ := List.exists_cons_of_ne_nil nonempty
    have leastFree := first'.free least List.mem_cons_self
    have leastGe := first'.ge least List.mem_cons_self
    have below : ∀ id ∈ ids, id < start' := by
      intro id member
      by_contra notBelow
      -- The least number of the second is free and not after this one, so it is taken as well.
      have leastLe : least ≤ id := by
        by_contra greater
        cases first'.tight least List.mem_cons_self id (by omega) (by omega) with
        | inl isUsed => exact first.free id member isUsed
        | inr listed => exact disjoint member listed
      by_cases same : least = id
      · exact disjoint member (same ▸ List.mem_cons_self)
      · cases first.tight id member least (by omega) (by omega) with
        | inl isUsed => exact leastFree isUsed
        | inr listed => exact disjoint listed List.mem_cons_self
    have subset : ids.toFinset ⊆ (Finset.Ico start start').filter fun id => ¬ used id := by
      intro id member
      rw [List.mem_toFinset] at member
      exact Finset.mem_filter.mpr
        ⟨Finset.mem_Ico.mpr ⟨first.ge id member, below id member⟩, first.free id member⟩
    rw [← List.toFinset_card_of_nodup first.nodup]
    exact Finset.card_le_card subset
  · intro fits id member member'
    exact absurd (first.lt_of_room fits id member) (Nat.not_lt.mpr (first'.ge id member'))

end IsFirst

end FirstFree
