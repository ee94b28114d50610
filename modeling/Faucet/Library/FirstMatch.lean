import Mathlib

/-!
# First match by priority

A list of rules of which the first one that covers a thing decides about it is put into
a table without order: every rule gets a priority, one less than the rule before it.
The rule of the highest priority among those that cover a thing is then the first one
in the list (`find?_of_best`).
-/

set_option autoImplicit false

namespace Faucet.FirstMatch

variable {ρ : Type} {top priority priority' : ℤ} {rules : List ρ} {rule rule' : ρ}

/-- The rules with their priorities, counted down. -/
def numbered : ℤ → List ρ → List (ℤ × ρ)
  | _, [] => []
  | top, rule :: rest => (top, rule) :: numbered (top - 1) rest

theorem map_numbered (top : ℤ) (rules : List ρ) : (numbered top rules).map Prod.snd = rules := by
  induction rules generalizing top with
  | nil => rfl
  | cons rule rest ih => rw [numbered, List.map_cons, ih (top - 1)]

/-- The priorities depend on the places alone. -/
theorem numbered_map {σ : Type} (f : ρ → σ) :
    numbered top (rules.map f) = (numbered top rules).map fun entry => (entry.1, f entry.2) := by
  induction rules generalizing top with
  | nil => rfl
  | cons rule rest ih => rw [List.map_cons, numbered, numbered, List.map_cons, ih]

/-- The priority of a rule tells how many rules there are before it. -/
theorem mem_numbered_iff : (priority, rule) ∈ numbered top rules ↔
    ∃ before after, rules = before ++ rule :: after ∧ priority = top - before.length := by
  induction rules generalizing top with
  | nil => simp [numbered]
  | cons first rest ih =>
      rw [numbered, List.mem_cons, ih]
      constructor
      · rintro (same | ⟨before, after, rfl, rfl⟩)
        · cases same
          exact ⟨[], rest, rfl, by simp⟩
        · refine ⟨first :: before, after, rfl, ?_⟩
          rw [List.length_cons]
          omega
      · rintro ⟨before, after, split, rfl⟩
        cases before with
        | nil =>
            cases split
            exact .inl (by simp)
        | cons other before =>
            cases split
            refine .inr ⟨before, after, rfl, ?_⟩
            rw [List.length_cons]
            omega

theorem mem_of_numbered (member : (priority, rule) ∈ numbered top rules) : rule ∈ rules := by
  have listed : rule ∈ (numbered top rules).map Prod.snd := List.mem_map.mpr ⟨_, member, rfl⟩
  rwa [map_numbered] at listed

theorem exists_numbered (top : ℤ) (member : rule ∈ rules) :
    ∃ priority, (priority, rule) ∈ numbered top rules := by
  rw [← map_numbered top rules] at member
  obtain ⟨⟨priority, _⟩, listed, rfl⟩ := List.mem_map.mp member
  exact ⟨priority, listed⟩

/-- The priorities are those from the highest one down. -/
theorem numbered_bounds (member : (priority, rule) ∈ numbered top rules) :
    priority ≤ top ∧ top - rules.length < priority := by
  induction rules generalizing top with
  | nil => cases member
  | cons first rest ih =>
      rw [List.length_cons]
      rcases List.mem_cons.mp member with same | later
      · cases same
        omega
      · have := ih later
        omega

theorem numbered_pairwise : (numbered top rules).Pairwise fun first later => later.1 < first.1 := by
  induction rules generalizing top with
  | nil => exact .nil
  | cons rule rest ih =>
      refine List.pairwise_cons.mpr ⟨fun (priority, later) member => ?_, ih⟩
      have := (numbered_bounds member).1
      dsimp only
      omega

/-- No two rules have one priority. -/
theorem numbered_unique (member : (priority, rule) ∈ numbered top rules)
    (member' : (priority, rule') ∈ numbered top rules) : rule = rule' := by
  induction rules generalizing top with
  | nil => cases member
  | cons first rest ih =>
      rcases List.mem_cons.mp member with same | later
      · rcases List.mem_cons.mp member' with same' | later'
        · cases same
          cases same'
          rfl
        · cases same
          have := (numbered_bounds later').1
          omega
      · rcases List.mem_cons.mp member' with same' | later'
        · cases same'
          have := (numbered_bounds later).1
          omega
        · exact ih later later'

/-- **The best rule that covers a thing is the first one that does.** -/
theorem find?_of_best {covers : ρ → Bool} (member : (priority, rule) ∈ numbered top rules)
    (covered : covers rule = true)
    (best : ∀ priority' rule', (priority', rule') ∈ numbered top rules → covers rule' = true →
      priority' ≤ priority) : rules.find? covers = some rule := by
  induction rules generalizing top with
  | nil => cases member
  | cons first rest ih =>
      rcases List.mem_cons.mp member with same | later
      · cases same
        exact List.find?_cons_of_pos covered
      · have passed : covers first = false := by
          by_contra covers'
          have := best top first List.mem_cons_self (Bool.eq_true_of_not_eq_false covers')
          have := (numbered_bounds later).1
          omega
        rw [List.find?_cons_of_neg (by rw [passed]; exact Bool.false_ne_true)]
        exact ih later fun priority' rule' member' =>
          best priority' rule' (List.mem_cons_of_mem _ member')

/-- The first rule that covers a thing has the best priority of all that do. -/
theorem best_of_find? {covers : ρ → Bool} (top : ℤ) (found : rules.find? covers = some rule) :
    ∃ priority, (priority, rule) ∈ numbered top rules ∧
      ∀ priority' rule', (priority', rule') ∈ numbered top rules → covers rule' = true →
        priority' ≤ priority := by
  induction rules generalizing top with
  | nil => cases found
  | cons first rest ih =>
      by_cases covered : covers first = true
      · rw [List.find?_cons_of_pos covered] at found
        cases found
        exact ⟨top, List.mem_cons_self, fun _ _ member' _ => (numbered_bounds member').1⟩
      · rw [List.find?_cons_of_neg covered] at found
        obtain ⟨priority, member, best⟩ := ih (top - 1) found
        refine ⟨priority, List.mem_cons_of_mem _ member, ?_⟩
        intro priority' rule' member' covers'
        rcases List.mem_cons.mp member' with same | later
        · cases same
          exact absurd covers' covered
        · exact best priority' rule' later covers'

/-- The last of the rules has the lowest priority there is room for. -/
theorem exists_lowest (top : ℤ) (some_rule : rules ≠ []) :
    ∃ rule, (top - (rules.length - 1), rule) ∈ numbered top rules := by
  induction rules generalizing top with
  | nil => exact absurd rfl some_rule
  | cons first rest ih =>
      cases rest with
      | nil => exact ⟨first, by simp [numbered]⟩
      | cons second later =>
          obtain ⟨rule, member⟩ := ih (top - 1) (List.cons_ne_nil _ _)
          refine ⟨rule, List.mem_cons_of_mem _ ?_⟩
          have down : top - (((first :: second :: later).length : ℤ) - 1) =
              top - 1 - ((second :: later).length - 1) := by
            simp only [List.length_cons]
            omega
          rwa [down]

end Faucet.FirstMatch
