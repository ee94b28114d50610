import Mathlib

/-!
# Scanning a text for matches

A scan goes through a text from the left. Where the matcher matches, the match is taken and the
scan goes on after it, else one letter is passed over. The matches are what `re.findall`
returns, the letters that are passed over what `re.sub` with an empty replacement leaves.

When no match begins at a separator or depends on what follows one, a text of several
parts between separators is scanned part by part (`tokens_intercalate`).
-/

set_option autoImplicit false

namespace Scan

universe u v w

variable {σ : Type u} {α : Type v}

/-- What matches at the start of a text, and the text after it. -/
structure Matcher (σ : Type u) (α : Type v) where
  run : List σ → Option (α × List σ)
  shrinks : ∀ {text found rest}, run text = some (found, rest) → rest.length < text.length

namespace Matcher

variable (matcher : Matcher σ α) {text : List σ} {found : α} {rest : List σ} {letter : σ}

/-- The matches and the letters that are passed over, in at most so many steps. -/
def scan : ℕ → List σ → List (α ⊕ σ)
  | 0, _ => []
  | _ + 1, [] => []
  | steps + 1, letter :: text =>
      match matcher.run (letter :: text) with
      | some (found, rest) => .inl found :: scan steps rest
      | none => .inr letter :: scan steps text

/-- More steps than letters make no difference. -/
theorem scan_of_le {steps : ℕ} (enough : text.length ≤ steps) :
    matcher.scan steps text = matcher.scan text.length text := by
  induction steps using Nat.strongRecOn generalizing text with
  | _ steps ih =>
      cases text with
      | nil => cases steps <;> rfl
      | cons letter text =>
          cases steps with
          | zero => simp at enough
          | succ steps =>
              rw [List.length_cons] at enough ⊢
              simp only [scan]
              cases matched : matcher.run (letter :: text) with
              | none => exact congrArg _ (ih steps (Nat.lt_succ_self _) (by omega))
              | some result =>
                  have shorter := matcher.shrinks matched
                  rw [List.length_cons] at shorter
                  dsimp only
                  rw [ih steps (Nat.lt_succ_self _) (by omega),
                    ← ih text.length (by omega) (by omega)]

/-- The matches and the letters that are passed over. -/
def tokens (text : List σ) : List (α ⊕ σ) := matcher.scan text.length text

@[simp] theorem tokens_nil : matcher.tokens [] = [] := rfl

theorem tokens_of_none (none : matcher.run (letter :: text) = none) :
    matcher.tokens (letter :: text) = .inr letter :: matcher.tokens text := by
  rw [tokens, List.length_cons, scan, none, tokens]

theorem tokens_of_some (matched : matcher.run text = some (found, rest)) :
    matcher.tokens text = .inl found :: matcher.tokens rest := by
  have shorter := matcher.shrinks matched
  cases text with
  | nil => simp at shorter
  | cons letter text =>
      rw [List.length_cons] at shorter
      rw [tokens, List.length_cons, scan, matched]
      dsimp only
      rw [matcher.scan_of_le (by omega), tokens]

/-- `re.findall` -/
def findall (text : List σ) : List α := (matcher.tokens text).filterMap Sum.getLeft?

/-- `re.sub` with an empty replacement. -/
def remove (text : List σ) : List σ := (matcher.tokens text).filterMap Sum.getRight?

/-! ## Separators -/

/-- No match begins at the separator or depends on what follows it. -/
structure SplitsAt (separator : σ) : Prop where
  apart : ∀ later, matcher.run (separator :: later) = none
  within : ∀ part later, separator ∉ part → matcher.run (part ++ separator :: later) =
    (matcher.run part).map fun matched => (matched.1, matched.2 ++ separator :: later)
  rest : ∀ {part found rest}, matcher.run part = some (found, rest) → separator ∉ part →
    separator ∉ rest

variable {matcher} {separator : σ}

theorem SplitsAt.tokens_append (splits : matcher.SplitsAt separator) (part later : List σ)
    (clear : separator ∉ part) :
    matcher.tokens (part ++ separator :: later) =
      matcher.tokens part ++ .inr separator :: matcher.tokens later := by
  induction length : part.length using Nat.strongRecOn generalizing part with
  | _ _ ih =>
      subst length
      cases part with
      | nil => exact matcher.tokens_of_none (splits.apart later)
      | cons letter part =>
          have whole := splits.within (letter :: part) later clear
          rw [List.cons_append] at whole ⊢
          cases matched : matcher.run (letter :: part) with
          | none =>
              rw [matched] at whole
              rw [matcher.tokens_of_none whole, matcher.tokens_of_none matched,
                ih part.length (by simp) part (List.not_mem_of_not_mem_cons clear) rfl]
              rfl
          | some result =>
              rw [matched] at whole
              rw [matcher.tokens_of_some whole, matcher.tokens_of_some matched,
                ih _ (matcher.shrinks matched) result.2 (splits.rest matched clear) rfl]
              rfl

variable {parts : List (List σ)}

theorem SplitsAt.tokens_intercalate (splits : matcher.SplitsAt separator)
    (clear : ∀ part ∈ parts, separator ∉ part) :
    matcher.tokens ([separator].intercalate parts) =
      [.inr separator].intercalate (parts.map matcher.tokens) := by
  induction parts with
  | nil => rfl
  | cons part parts ih =>
      have clearRest : ∀ part ∈ parts, separator ∉ part :=
        fun other member => clear other (List.mem_cons_of_mem _ member)
      cases parts with
      | nil => simp only [List.intercalate_singleton, List.map_cons, List.map_nil]
      | cons next parts =>
          rw [List.map_cons] at ih
          rw [List.map_cons, List.map_cons, List.intercalate_cons_cons, List.intercalate_cons_cons,
            List.append_assoc, List.singleton_append,
            splits.tokens_append part _ (clear part List.mem_cons_self), ih clearRest,
            List.append_assoc, List.singleton_append]

theorem filterMap_intercalate {τ : Type w} {token : α ⊕ σ} {texts : List (List (α ⊕ σ))}
    (pick : α ⊕ σ → Option τ) :
    ([token].intercalate texts).filterMap pick =
      (pick token).toList.intercalate (texts.map (·.filterMap pick)) := by
  induction texts with
  | nil => rfl
  | cons first texts ih =>
      cases texts with
      | nil => simp only [List.intercalate_singleton, List.map_cons, List.map_nil]
      | cons next texts =>
          rw [List.map_cons] at ih
          rw [List.map_cons, List.map_cons, List.intercalate_cons_cons, List.intercalate_cons_cons,
            List.filterMap_append, List.filterMap_append, ih]
          cases picked : pick token <;> simp [picked]

theorem SplitsAt.findall_intercalate (splits : matcher.SplitsAt separator)
    (clear : ∀ part ∈ parts, separator ∉ part) :
    matcher.findall ([separator].intercalate parts) = (parts.map matcher.findall).flatten := by
  have noSeparator : ∀ lists : List (List α), [].intercalate lists = lists.flatten := by
    intro lists
    induction lists with
    | nil => rfl
    | cons first lists ih =>
        cases lists with
        | nil => simp only [List.intercalate_singleton, List.flatten_cons, List.flatten_nil,
            List.append_nil]
        | cons next lists =>
            rw [List.intercalate_cons_cons, List.append_nil, ih]
            rfl
  rw [findall, splits.tokens_intercalate clear, filterMap_intercalate, List.map_map]
  exact noSeparator _

theorem SplitsAt.remove_intercalate (splits : matcher.SplitsAt separator)
    (clear : ∀ part ∈ parts, separator ∉ part) :
    matcher.remove ([separator].intercalate parts) =
      [separator].intercalate (parts.map matcher.remove) := by
  rw [remove, splits.tokens_intercalate clear, filterMap_intercalate, List.map_map]
  rfl

end Matcher

end Scan
