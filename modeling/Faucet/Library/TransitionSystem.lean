import Mathlib

/-!
# Partial step functions, guarded reachability and invariants

A system is a partial step function: `step s a` is the state after the action
`a` in the state `s`, or `none` when `a` is not enabled there.

`exec` runs a list of actions. `Reaches` is reachability along steps that all
meet a guard on the action and the state it is taken in; with the guard that
is always true it is plain reachability. A property that holds initially and
is kept by every guarded step holds in every state so reached
(`Reaches.invariant`).
-/

set_option autoImplicit false

namespace TransitionSystem

universe u v

variable {σ : Type u} {α : Type v} {step : σ → α → Option σ} {guard : σ → α → Prop}

/-- Run a list of actions; `none` as soon as one of them is not enabled. -/
def exec (step : σ → α → Option σ) : σ → List α → Option σ
  | state, [] => some state
  | state, action :: rest => (step state action).bind fun next => exec step next rest

@[simp] theorem exec_nil (state : σ) : exec step state [] = some state := rfl

theorem exec_append (state : σ) (first rest : List α) :
    exec step state (first ++ rest) =
      (exec step state first).bind fun middle => exec step middle rest := by
  induction first generalizing state with
  | nil => rfl
  | cons action first ih =>
      rw [List.cons_append, exec, exec]
      cases step state action with
      | none => rfl
      | some next => exact ih next

theorem exec_concat (state : σ) (actions : List α) (action : α) :
    exec step state (actions ++ [action]) =
      (exec step state actions).bind fun middle => step middle action := by
  rw [exec_append]
  congr 1
  funext middle
  rw [exec]
  cases step middle action <;> rfl

/-- The guard that allows every step. -/
def anyStep : σ → α → Prop := fun _ _ => True

/-- Every action of the list meets the guard in the state it is taken in. -/
def Allowed (step : σ → α → Option σ) (guard : σ → α → Prop) : σ → List α → Prop
  | _, [] => True
  | state, action :: rest => guard state action ∧
      match step state action with
      | some next => Allowed step guard next rest
      | none => True

instance decidableAllowed (step : σ → α → Option σ) (guard : σ → α → Prop)
    [∀ state action, Decidable (guard state action)] :
    ∀ state actions, Decidable (Allowed step guard state actions)
  | _, [] => .isTrue trivial
  | state, action :: rest =>
      match taken : step state action with
      | some next =>
          have := decidableAllowed step guard next rest
          decidable_of_iff (guard state action ∧ Allowed step guard next rest)
            (by rw [Allowed, taken])
      | none => decidable_of_iff (guard state action) (by simp [Allowed, taken])

theorem allowed_anyStep (actions : List α) (state : σ) : Allowed step anyStep state actions := by
  induction actions generalizing state with
  | nil => trivial
  | cons action rest ih =>
      refine ⟨trivial, ?_⟩
      split
      · exact ih _
      · trivial

theorem allowed_append (actions later : List α) (state : σ) :
    Allowed step guard state (actions ++ later) ↔ Allowed step guard state actions ∧
      ∀ middle, exec step state actions = some middle → Allowed step guard middle later := by
  induction actions generalizing state with
  | nil => simp [Allowed]
  | cons action rest ih =>
      rw [List.cons_append, Allowed, Allowed, exec]
      cases step state action with
      | none => simp
      | some next => simp [ih, and_assoc]

/-- Reachability along steps that meet the guard. -/
inductive Reaches (step : σ → α → Option σ) (guard : σ → α → Prop) (start : σ) : σ → Prop where
  | refl : Reaches step guard start start
  | tail {state next : σ} {action : α} (earlier : Reaches step guard start state)
      (allowed : guard state action) (taken : step state action = some next) :
      Reaches step guard start next

/-- **The exact run rule.** When every action is enabled and a step from a state
that satisfies the invariant keeps a property exactly when it meets the guard,
then the property holds all along a run exactly when every step of the run
meets the guard. -/
theorem forall_prefix_iff_allowed (inv : σ → Prop) {property : σ → Prop}
    (enabled : ∀ state action, ∃ next, step state action = some next)
    (invStep : ∀ {state next action}, inv state → step state action = some next → inv next)
    (exact : ∀ {state next action}, inv state → property state → step state action = some next →
      (property next ↔ guard state action))
    (actions : List α) {state : σ} (invariant : inv state) (holds : property state) :
    (∀ done finish, done <+: actions → exec step state done = some finish → property finish) ↔
      Allowed step guard state actions := by
  induction actions generalizing state with
  | nil =>
      refine ⟨fun _ => trivial, ?_⟩
      rintro _ done finish isPrefix executed
      rw [List.prefix_nil.mp isPrefix] at executed
      cases executed
      exact holds
  | cons action rest ih =>
      obtain ⟨next, taken⟩ := enabled state action
      have later := invStep invariant taken
      have first : ∀ {done}, exec step state (action :: done) = exec step next done := by
        intro done
        rw [exec, taken, Option.bind_some]
      rw [Allowed, taken]
      constructor
      · intro throughout
        have holdsNext : property next :=
          throughout [action] next (List.prefix_cons_inj action |>.mpr (List.nil_prefix)) first
        refine ⟨(exact invariant holds taken).mp holdsNext, (ih later holdsNext).mp ?_⟩
        intro done finish isPrefix executed
        exact throughout (action :: done) finish ((List.prefix_cons_inj action).mpr isPrefix)
          (first.trans executed)
      · rintro ⟨allowed, allowedRest⟩ done finish isPrefix executed
        have holdsNext := (exact invariant holds taken).mpr allowed
        cases done with
        | nil =>
            cases executed
            exact holds
        | cons action' done =>
            obtain ⟨rfl, shorter⟩ := List.cons_prefix_cons.mp isPrefix
            exact (ih later holdsNext).mpr allowedRest done finish shorter
              (first.symm.trans executed)

/-- **The rule for what holds after actions.** When an invariant lets every action happen, and
what is wanted after an action is there exactly when the action meets the guard, then it
is there after every action of a run exactly when all of them meet the guard. -/
theorem forall_after_iff_allowed (inv : σ → Prop) {after : α → σ → Prop}
    (enabled : ∀ {state} action, inv state → ∃ next, step state action = some next ∧ inv next)
    (exact : ∀ {state next action}, inv state → step state action = some next →
      (after action next ↔ guard state action))
    (actions : List α) {state : σ} (invariant : inv state) :
    (∀ done action finish, done ++ [action] <+: actions →
        exec step state (done ++ [action]) = some finish → after action finish) ↔
      Allowed step guard state actions := by
  induction actions generalizing state with
  | nil =>
      refine ⟨fun _ => trivial, ?_⟩
      rintro _ done action finish isPrefix _
      exact absurd (List.prefix_nil.mp isPrefix) (List.append_ne_nil_of_right_ne_nil _ nofun)
  | cons action rest ih =>
      obtain ⟨next, taken, later⟩ := enabled action invariant
      have first : ∀ {done}, exec step state (action :: done) = exec step next done := by
        intro done
        rw [exec, taken, Option.bind_some]
      rw [Allowed, taken]
      constructor
      · intro throughout
        refine ⟨(exact invariant taken).mp ?_, (ih later).mp ?_⟩
        · exact throughout [] action next (List.prefix_cons_inj action |>.mpr List.nil_prefix) first
        · intro done action' finish isPrefix executed
          exact throughout (action :: done) action' finish
            ((List.prefix_cons_inj action).mpr isPrefix) (first.trans executed)
      · rintro ⟨allowed, allowedRest⟩ done action' finish isPrefix executed
        cases done with
        | nil =>
            obtain ⟨rfl, _⟩ := List.cons_prefix_cons.mp isPrefix
            rw [List.nil_append, first] at executed
            cases executed
            exact (exact invariant taken).mpr allowed
        | cons earlier done =>
            obtain ⟨rfl, shorter⟩ := List.cons_prefix_cons.mp isPrefix
            exact (ih later).mpr allowedRest done action' finish shorter
              (first.symm.trans executed)

/-- When the guard is exactly that an action is enabled, the lists of actions that execute
are those whose actions are all allowed. -/
theorem executes_iff_allowed (inv : σ → Prop)
    (enabled : ∀ {state action}, inv state →
      (guard state action ↔ ∃ next, step state action = some next))
    (invStep : ∀ {state next action}, inv state → step state action = some next → inv next)
    (actions : List α) {state : σ} (invariant : inv state) :
    (∃ finish, exec step state actions = some finish) ↔ Allowed step guard state actions := by
  induction actions generalizing state with
  | nil => exact ⟨fun _ => trivial, fun _ => ⟨state, rfl⟩⟩
  | cons action rest ih =>
      constructor
      · rintro ⟨finish, executed⟩
        obtain ⟨next, taken, executed⟩ := Option.bind_eq_some_iff.mp executed
        refine ⟨(enabled invariant).mpr ⟨next, taken⟩, ?_⟩
        rw [taken]
        exact (ih (invStep invariant taken)).mp ⟨finish, executed⟩
      · rintro ⟨allowed, allowedRest⟩
        obtain ⟨next, taken⟩ := (enabled invariant).mp allowed
        rw [taken] at allowedRest
        obtain ⟨finish, executed⟩ := (ih (invStep invariant taken)).mpr allowedRest
        exact ⟨finish, by rw [exec, taken]; exact executed⟩

namespace Reaches

variable {start middle finish : σ}

theorem trans (first : Reaches step guard start middle)
    (second : Reaches step guard middle finish) : Reaches step guard start finish := by
  induction second with
  | refl => exact first
  | tail _ allowed taken ih => exact .tail ih allowed taken

theorem single {action : α} (allowed : guard start action)
    (taken : step start action = some finish) : Reaches step guard start finish :=
  .tail .refl allowed taken

/-- A weaker guard allows more runs. -/
theorem mono {weaker : σ → α → Prop} (weaken : ∀ state action, guard state action →
    weaker state action) (reaches : Reaches step guard start finish) :
    Reaches step weaker start finish := by
  induction reaches with
  | refl => exact .refl
  | tail _ allowed taken ih => exact .tail ih (weaken _ _ allowed) taken

/-- **The invariant rule.** A property of the start that every guarded step
keeps holds of every state reached. -/
theorem invariant (property : σ → Prop) (initially : property start)
    (keeps : ∀ {state next : σ} {action : α}, property state → guard state action →
      step state action = some next → property next)
    (reaches : Reaches step guard start finish) : property finish := by
  induction reaches with
  | refl => exact initially
  | tail _ allowed taken ih => exact keeps ih allowed taken

/-- A list of allowed actions that executes is a guarded run. -/
theorem of_exec (actions : List α) (allowed : Allowed step guard start actions)
    (executed : exec step start actions = some finish) : Reaches step guard start finish := by
  induction actions generalizing start with
  | nil =>
      cases executed
      exact .refl
  | cons action rest ih =>
      obtain ⟨next, taken, executed⟩ := Option.bind_eq_some_iff.mp executed
      obtain ⟨first, later⟩ := allowed
      rw [taken] at later
      exact (single first taken).trans (ih later executed)

end Reaches

end TransitionSystem
