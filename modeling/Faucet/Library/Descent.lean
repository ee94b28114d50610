import Mathlib

/-!
# Walks that descend

Each node may name a next one. A walk is followed for a number of steps. When a rank goes
down with every step, a walk comes to an end (`exists_end`) and is nowhere twice
(`steps_unique`).
-/

set_option autoImplicit false

namespace Descent

universe u

variable {V : Type u}

/-- Where a walk is after some steps. -/
def walk (next : V → Option V) : ℕ → V → Option V
  | 0, node => some node
  | steps + 1, node => (next node).bind (walk next steps)

variable {next : V → Option V} {rank : V → ℕ} {node last : V} {steps steps' : ℕ}

theorem walk_add : walk next (steps + steps') node =
    (walk next steps node).bind (walk next steps') := by
  induction steps generalizing node with
  | zero => rw [Nat.zero_add, walk, Option.bind_some]
  | succ steps ih =>
      rw [Nat.succ_add, walk, walk]
      cases next node with
      | none => rfl
      | some other => exact ih

section Ranked

variable (down : ∀ node other, next node = some other → rank other < rank node)
include down

/-- Every step leads further down. -/
theorem rank_of_walk (reached : walk next steps node = some last) :
    rank last + steps ≤ rank node := by
  induction steps generalizing node with
  | zero =>
      cases reached
      exact Nat.le_refl _
  | succ steps ih =>
      obtain ⟨other, taken, reached⟩ := Option.bind_eq_some_iff.mp reached
      have less := down node other taken
      have more := ih reached
      omega

/-- **A walk comes to an end**, after no more steps than its first rank. -/
theorem exists_end (node : V) :
    ∃ steps ≤ rank node, ∃ last, walk next steps node = some last ∧ next last = none := by
  induction height : rank node using Nat.strongRecOn generalizing node with
  | _ height ih =>
      cases taken : next node with
      | none => exact ⟨0, Nat.zero_le _, node, rfl, taken⟩
      | some other =>
          have less := down node other taken
          obtain ⟨steps, short, last, reached, ends⟩ := ih _ (height ▸ less) other rfl
          refine ⟨steps + 1, by omega, last, ?_, ends⟩
          rw [walk, taken, Option.bind_some]
          exact reached

/-- **A walk is nowhere twice.** -/
theorem steps_unique (reached : walk next steps node = some last)
    (again : walk next steps' node = some last) : steps = steps' := by
  wlog shorter : steps ≤ steps' generalizing steps steps'
  · exact (this again reached (Nat.le_of_not_le shorter)).symm
  obtain ⟨more, rfl⟩ := Nat.exists_eq_add_of_le shorter
  rw [walk_add, reached, Option.bind_some] at again
  have less := rank_of_walk down again
  omega

end Ranked

end Descent
