import Mathlib

/-!
# Numbered stages

The stages of a list are numbered in order. A step that leads to a stage further down
the list leads to a greater number, and then no walk is longer than the list.
-/

set_option autoImplicit false

namespace Numbered

variable {α : Type} {stages : List α} {first second : α} {i j : ℕ}

/-- In a list whose ranks increase the places do as well. -/
theorem place_lt {rank : α → ℕ} (increasing : stages.Pairwise fun a b => rank a < rank b)
    (at_ : (first, i) ∈ stages.zipIdx) (at_' : (second, j) ∈ stages.zipIdx)
    (before : rank first < rank second) : i < j := by
  obtain ⟨short, rfl⟩ := List.getElem?_eq_some_iff.mp (List.mk_mem_zipIdx_iff_getElem?.mp at_)
  obtain ⟨short', rfl⟩ := List.getElem?_eq_some_iff.mp (List.mk_mem_zipIdx_iff_getElem?.mp at_')
  rcases Nat.lt_trichotomy i j with less | rfl | more
  · exact less
  · exact absurd before (Nat.lt_irrefl _)
  · have after := List.pairwise_iff_getElem.mp increasing j i short' short more
    exact absurd before (Nat.lt_asymm after)

/-- **A walk that only goes up is no longer than the list of the stages**, and it visits
none of them twice. -/
theorem length_le_of_chain {number : α → ℕ} {Goes : α → α → Prop} {walk : List α}
    (up : ∀ a b, Goes a b → number a < number b) (chain : walk.IsChain Goes)
    (within : walk ⊆ stages) : walk.Nodup ∧ walk.length ≤ stages.length := by
  have rising : walk.IsChain fun a b => number a < number b := chain.imp up
  have : IsTrans α fun a b => number a < number b := ⟨fun _ _ _ => Nat.lt_trans⟩
  have sorted : walk.Pairwise fun a b => number a < number b :=
    List.isChain_iff_pairwise.mp rising
  have distinct : walk.Nodup := by
    apply sorted.imp
    rintro a _ less rfl
    exact Nat.lt_irrefl _ less
  exact ⟨distinct, (distinct.subperm within).length_le⟩

/-- Numbers that are all moved up by one amount stay among the images of a map that moves
none of them up only when neither moves any. -/
theorem fixed_of_shift {places : Finset ℕ} {f : ℕ → ℕ} {offset : ℕ} (some_ : places.Nonempty)
    (down : ∀ i ∈ places, f i ≤ i) (within : places.image (offset + ·) ⊆ places.image f) :
    offset = 0 ∧ ∀ i ∈ places, f i = i := by
  have shifted : (places.image (offset + ·)).card = places.card :=
    Finset.card_image_of_injective _ fun _ _ => Nat.add_left_cancel
  have same : places.image (offset + ·) = places.image f :=
    Finset.eq_of_subset_of_card_le within (by rw [shifted]; exact Finset.card_image_le)
  have injective : Set.InjOn f places :=
    Finset.card_image_iff.mp (by rw [← same, shifted])
  -- the sums of both images agree, and that of the map is no greater than that of the places
  have sums : ∑ i ∈ places, (offset + i) = ∑ i ∈ places, f i := by
    rw [← Finset.sum_image (f := fun i => i) (g := (offset + ·)) fun _ _ _ _ => Nat.add_left_cancel,
      same, Finset.sum_image injective]
  have less : ∑ i ∈ places, f i ≤ ∑ i ∈ places, i := Finset.sum_le_sum down
  rw [Finset.sum_add_distrib, Finset.sum_const, smul_eq_mul] at sums
  have zero : places.card * offset = 0 := by omega
  have noOffset : offset = 0 :=
    (Nat.mul_eq_zero.mp zero).resolve_left (Finset.card_pos.mpr some_).ne'
  refine ⟨noOffset, ?_⟩
  have equal : ∑ i ∈ places, f i = ∑ i ∈ places, i := by omega
  exact (Finset.sum_eq_sum_iff_of_le down).mp equal

end Numbered
