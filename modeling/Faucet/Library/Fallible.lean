import Mathlib

/-!
# Steps that can fail

What a chain of steps in `Except` returns: each step has returned, and the result is that of
the last one. Mapped over a list, a step has returned for each element.
-/

set_option autoImplicit false

namespace Fallible

universe u

variable {ε α β : Type*}

theorem bind_eq_ok {α β : Type u} {x : Except ε α} {f : α → Except ε β} {b : β} :
    x >>= f = .ok b ↔ ∃ a, x = .ok a ∧ f a = .ok b := by
  cases x with
  | error e =>
      constructor
      · nofun
      · rintro ⟨_, fails, _⟩
        cases fails
  | ok a =>
      constructor
      · intro returns
        exact ⟨a, rfl, returns⟩
      · rintro ⟨_, same, returns⟩
        cases same
        exact returns

theorem map_eq_ok {x : Except ε α} {f : α → β} {b : β} :
    x.map f = .ok b ↔ ∃ a, x = .ok a ∧ f a = b := by
  cases x with
  | error e =>
      constructor
      · nofun
      · rintro ⟨_, fails, _⟩
        cases fails
  | ok a =>
      constructor
      · intro returns
        cases returns
        exact ⟨a, rfl, rfl⟩
      · rintro ⟨_, same, rfl⟩
        cases same
        rfl

theorem mapM_eq_ok {f : α → Except ε β} {xs : List α} {ys : List β} :
    xs.mapM f = .ok ys ↔ List.Forall₂ (fun x y => f x = .ok y) xs ys := by
  induction xs generalizing ys with
  | nil =>
      rw [List.mapM_nil, List.forall₂_nil_left_iff]
      exact ⟨fun returns => by cases returns; rfl, fun empty => by rw [empty]; rfl⟩
  | cons x rest ih =>
      rw [List.mapM_cons, bind_eq_ok, List.forall₂_cons_left_iff]
      constructor
      · rintro ⟨y, first, returns⟩
        obtain ⟨later, others, returns⟩ := bind_eq_ok.mp returns
        cases returns
        exact ⟨y, later, first, ih.mp others, rfl⟩
      · rintro ⟨y, later, first, others, rfl⟩
        exact ⟨y, first, bind_eq_ok.mpr ⟨later, ih.mpr others, rfl⟩⟩

end Fallible
