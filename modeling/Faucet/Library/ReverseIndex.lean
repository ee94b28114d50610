import Mathlib

/-!
# A map and its reverse index

A partial map `forward : α → Option β` is often kept beside an index that lists,
for every value, the keys that map to it. `ReverseIndex` says that the two agree.
Writing a key that is free or keeps its value, together with its entry in the
index, preserves the agreement, and so does deleting a key from both
(`ReverseIndex.insert`, `ReverseIndex.erase`). Writing a key that had another
value without deleting the old entry breaks it (`ReverseIndex.not_overwrite`).
-/

set_option autoImplicit false

universe u v

variable {α : Type u} {β : Type v} {forward : α → Option β} {reverse : β → List α}

/-- The index lists exactly the keys of each value. -/
def ReverseIndex (forward : α → Option β) (reverse : β → List α) : Prop :=
  ∀ key value, key ∈ reverse value ↔ forward key = some value

namespace ReverseIndex

variable [DecidableEq α] [DecidableEq β]

theorem insert (index : ReverseIndex forward reverse) {key : α} {value : β}
    (free : ∀ old, forward key = some old → old = value) :
    ReverseIndex (Function.update forward key (some value))
      (Function.update reverse value ((reverse value).insert key)) := by
  intro key' value'
  by_cases sameKey : key' = key
  · subst sameKey
    rw [Function.update_self, Option.some_inj]
    by_cases sameValue : value' = value
    · subst sameValue
      simp
    · have unlisted : key' ∉ reverse value' :=
        fun listed => sameValue (free value' ((index key' value').mp listed))
      simp [Function.update_of_ne sameValue, unlisted, Ne.symm sameValue]
  · rw [Function.update_of_ne sameKey, ← index]
    by_cases sameValue : value' = value
    · subst sameValue
      simp [sameKey]
    · rw [Function.update_of_ne sameValue]

theorem erase (index : ReverseIndex forward reverse) {key : α} {value : β}
    (mapped : forward key = some value) (nodup : (reverse value).Nodup) :
    ReverseIndex (Function.update forward key none)
      (Function.update reverse value ((reverse value).erase key)) := by
  intro key' value'
  by_cases sameKey : key' = key
  · subst sameKey
    rw [Function.update_self]
    by_cases sameValue : value' = value
    · subst sameValue
      simp [nodup.mem_erase_iff]
    · have unlisted : key' ∉ reverse value' := fun listed =>
        sameValue (Option.some_inj.mp (((index key' value').mp listed).symm.trans mapped))
      simp [Function.update_of_ne sameValue, unlisted]
  · rw [Function.update_of_ne sameKey, ← index]
    by_cases sameValue : value' = value
    · subst sameValue
      simp [nodup.mem_erase_iff, sameKey]
    · rw [Function.update_of_ne sameValue]

/-- An overwritten key stays listed under its old value. -/
theorem not_overwrite (index : ReverseIndex forward reverse) {key : α} {old value : β}
    (mapped : forward key = some old) (different : old ≠ value) :
    ¬ ReverseIndex (Function.update forward key (some value))
      (Function.update reverse value ((reverse value).insert key)) := by
  intro after
  have listed : key ∈ Function.update reverse value ((reverse value).insert key) old := by
    rw [Function.update_of_ne different]
    exact (index key old).mpr mapped
  have now := (after key old).mp listed
  rw [Function.update_self] at now
  exact different (Option.some_inj.mp now).symm

end ReverseIndex
