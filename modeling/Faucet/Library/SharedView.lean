import Mathlib

/-!
# A table that several owners share

Each owner wants values at some keys of a table. The table shows what they want
when it holds exactly these values (`Shows`). An owner that changes its mind at
some keys has to write these keys and no others, and nobody else may want anything
there (`Shows.refresh`).
-/

set_option autoImplicit false

namespace SharedView

universe u v w

variable {Owner : Type u} {Key : Type v} {Value : Type w}

/-- The table holds what the owners of a key want there. -/
def Shows (owns : Owner → Key → Prop) (wanted : Owner → Key → Option Value)
    (table : Key → Option Value) : Prop :=
  ∀ key value, table key = some value ↔ ∃ owner, owns owner key ∧ wanted owner key = some value

namespace Shows

variable {owns : Owner → Key → Prop} {wanted wanted' : Owner → Key → Option Value}
  {table table' : Key → Option Value}

theorem congr (shows' : Shows owns wanted table) (sameWanted : wanted' = wanted)
    (sameTable : table' = table) : Shows owns wanted' table' := by
  rwa [sameWanted, sameTable]

/-- Where no owner wants anything the table is empty. -/
theorem eq_none (shows' : Shows owns wanted table) {key : Key}
    (nobody : ∀ owner, owns owner key → wanted owner key = none) : table key = none := by
  cases held : table key with
  | none => rfl
  | some value =>
      obtain ⟨owner, own, want⟩ := (shows' key value).mp held
      cases (nobody owner own).symm.trans want

/-- **One owner writes the keys at which it changes its mind.** -/
theorem refresh (shows' : Shows owns wanted table) (owner : Owner) (keys : Set Key)
    (others : ∀ other, other ≠ owner → wanted' other = wanted other)
    (unchanged : ∀ key, key ∉ keys → wanted' owner key = wanted owner key)
    (kept : ∀ key, ¬ (owns owner key ∧ key ∈ keys) → table' key = table key)
    (written : ∀ key ∈ keys, owns owner key → table' key = wanted' owner key)
    (alone : ∀ key ∈ keys, owns owner key → ∀ other, other ≠ owner → owns other key →
      wanted other key = none) : Shows owns wanted' table' := by
  intro key value
  by_cases fresh : owns owner key ∧ key ∈ keys
  · rw [written key fresh.2 fresh.1]
    constructor
    · exact fun want => ⟨owner, fresh.1, want⟩
    · intro someone
      obtain ⟨other, own, want⟩ := someone
      by_cases same : other = owner
      · rwa [same] at want
      · rw [others other same, alone key fresh.2 fresh.1 other same own] at want
        cases want
  · rw [kept key fresh, shows' key value]
    refine exists_congr fun other => and_congr_right fun own => ?_
    by_cases same : other = owner
    · subst same
      rw [unchanged key fun member => fresh ⟨own, member⟩]
    · rw [others other same]

end Shows

end SharedView
