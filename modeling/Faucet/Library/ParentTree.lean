import Mathlib

/-!
# Rooted trees given by a parent map

Every node but the root has a parent of smaller rank. `Above upper lower` says
that `upper` lies on the way from `lower` to the root, which includes `lower`
itself. Two nodes above a third are comparable (`Above.comparable`), and a node
strictly above another is above it through exactly one child. Proofs go from the
root to the leaves (`induction_up`) and, in a finite tree, from the leaves to the
root (`induction_down`).
-/

set_option autoImplicit false

universe u

/-- A parent map that lowers a rank everywhere but at the root. -/
structure ParentTree (V : Type u) where
  root : V
  parent : V → V
  rank : V → Nat
  rank_parent : ∀ node, node ≠ root → rank node = rank (parent node) + 1

namespace ParentTree

variable {V : Type u} (tree : ParentTree V)

/-- The first node lies on the way from the second to the root. -/
inductive Above (upper : V) : V → Prop where
  | refl : Above upper upper
  | step {lower : V} (notRoot : lower ≠ tree.root) (above : Above upper (tree.parent lower)) :
      Above upper lower

/-- `child` is a child of `node`. -/
def IsChild (child node : V) : Prop := child ≠ tree.root ∧ tree.parent child = node

variable {tree} {upper middle lower : V}

namespace Above

theorem rank_le (above : tree.Above upper lower) : tree.rank upper ≤ tree.rank lower := by
  induction above with
  | refl => exact Nat.le_refl _
  | step notRoot _ ih =>
      rw [tree.rank_parent _ notRoot]
      omega

theorem trans (first : tree.Above upper middle) (second : tree.Above middle lower) :
    tree.Above upper lower := by
  induction second with
  | refl => exact first
  | step notRoot _ ih => exact .step notRoot ih

/-- Nodes of one rank that are comparable are the same. -/
theorem eq_of_rank_le (above : tree.Above upper lower) (rank : tree.rank lower ≤ tree.rank upper) :
    upper = lower := by
  cases above with
  | refl => rfl
  | step notRoot above =>
      have lifted := above.rank_le
      rw [tree.rank_parent _ notRoot] at rank
      omega

/-- Being above, unless it is the node itself, is being above the parent. -/
theorem parent (above : tree.Above upper lower) (other : upper ≠ lower) :
    lower ≠ tree.root ∧ tree.Above upper (tree.parent lower) := by
  cases above with
  | refl => exact absurd rfl other
  | step notRoot above => exact ⟨notRoot, above⟩

/-- The ways of one node to the root are one way. -/
theorem comparable {other : V} (first : tree.Above upper lower) (second : tree.Above other lower) :
    tree.Above upper other ∨ tree.Above other upper := by
  induction first with
  | refl => exact .inr second
  | @step lower notRoot above ih =>
      by_cases same : other = lower
      · subst same
        exact .inl (.step notRoot above)
      · exact ih (second.parent same).2

/-- A node strictly above another is above it through a child. -/
theorem exists_child (above : tree.Above upper lower) (other : upper ≠ lower) :
    ∃ child, tree.IsChild child upper ∧ tree.Above child lower := by
  induction above with
  | refl => exact absurd rfl other
  | @step lower notRoot above ih =>
      by_cases same : upper = tree.parent lower
      · exact ⟨lower, ⟨notRoot, same.symm⟩, .refl⟩
      · obtain ⟨child, isChild, higher⟩ := ih same
        exact ⟨child, isChild, .step notRoot higher⟩

end Above

/-- What passes from the parent to the node holds everywhere. -/
theorem induction_up (tree : ParentTree V) {motive : V → Prop}
    (step : ∀ node, (node ≠ tree.root → motive (tree.parent node)) → motive node) (node : V) :
    motive node := by
  induction height : tree.rank node generalizing node with
  | zero =>
      refine step node fun notRoot => ?_
      have higher := tree.rank_parent node notRoot
      omega
  | succ height ih =>
      refine step node fun notRoot => ih _ ?_
      have higher := tree.rank_parent node notRoot
      omega

/-- Every node is below the root. -/
theorem above_root (node : V) : tree.Above tree.root node := by
  induction node using tree.induction_up with
  | step node ih =>
      by_cases same : node = tree.root
      · rw [same]
        exact .refl
      · exact .step same (ih same)

namespace IsChild

variable {child child' node : V}

theorem above (isChild : tree.IsChild child node) : tree.Above node child :=
  .step isChild.1 (isChild.2 ▸ .refl)

theorem rank (isChild : tree.IsChild child node) : tree.rank child = tree.rank node + 1 := by
  rw [tree.rank_parent child isChild.1, isChild.2]

/-- A child is not above its parent. -/
theorem not_above (isChild : tree.IsChild child node) : ¬ tree.Above child node := by
  intro above
  have := above.rank_le
  rw [isChild.rank] at this
  omega

/-- The child through which a node is above another is unique. -/
theorem unique (isChild : tree.IsChild child node) (isChild' : tree.IsChild child' node)
    (above : tree.Above child lower) (above' : tree.Above child' lower) : child = child' := by
  have sameRank : tree.rank child = tree.rank child' := by rw [isChild.rank, isChild'.rank]
  rcases above.comparable above' with higher | higher
  · exact higher.eq_of_rank_le (Nat.le_of_eq sameRank.symm)
  · exact (higher.eq_of_rank_le (Nat.le_of_eq sameRank)).symm

end IsChild

/-- A node is above itself and what is below its children. -/
theorem above_iff_self_or_child : tree.Above upper lower ↔
    lower = upper ∨ ∃ child, tree.IsChild child upper ∧ tree.Above child lower := by
  constructor
  · intro above
    by_cases same : upper = lower
    · exact .inl same.symm
    · exact .inr (above.exists_child same)
  · intro either
    rcases either with rfl | ⟨child, isChild, above⟩
    · exact .refl
    · exact isChild.above.trans above

/-- In a finite tree what passes from the children to the node holds everywhere. -/
theorem induction_down (tree : ParentTree V) [Finite V] {motive : V → Prop}
    (step : ∀ node, (∀ child, tree.IsChild child node → motive child) → motive node) (node : V) :
    motive node := by
  have inhabited : Nonempty V := ⟨node⟩
  obtain ⟨deepest, isDeepest⟩ := Finite.exists_max tree.rank
  induction height : tree.rank deepest - tree.rank node generalizing node with
  | zero =>
      refine step node fun child isChild => ?_
      have lower := isChild.rank
      have bound := isDeepest child
      omega
  | succ height ih =>
      refine step node fun child isChild => ih child ?_
      have lower := isChild.rank
      omega

end ParentTree
