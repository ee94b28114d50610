import Faucet.Library.ParentTree

/-!
# Least shortest paths

Among the shortest paths from a node to a fixed root one is the least in the
lexicographic order of the nodes. When every node takes its least shortest path,
the paths agree: the rest of a node's path is the path of its second node
(`LeastPaths.eq_cons`), so the second nodes are the parents of a rooted tree
(`LeastPaths.tree`) and the nodes of a path are those above its first node
(`LeastPaths.above_iff`).
-/

set_option autoImplicit false

universe u

variable {V : Type u}

/-- A path along the edges, with both of its ends. -/
inductive IsPath (adj : V → V → Prop) : V → V → List V → Prop where
  | single (node : V) : IsPath adj node node [node]
  | cons {src middle dst : V} {path : List V} (edge : adj src middle)
      (rest : IsPath adj middle dst path) : IsPath adj src dst (src :: path)

/-- A path that no other one is shorter than. -/
structure IsShortestPath (adj : V → V → Prop) (src dst : V) (path : List V) : Prop where
  isPath : IsPath adj src dst path
  shortest : ∀ other, IsPath adj src dst other → path.length ≤ other.length

/-- The least of the shortest paths. -/
structure IsLeastPath [LinearOrder V] (adj : V → V → Prop) (src dst : V) (path : List V) :
    Prop where
  isShortest : IsShortestPath adj src dst path
  least : ∀ other, IsShortestPath adj src dst other → path ≤ other

variable {adj : V → V → Prop} {src dst middle : V} {path : List V}

theorem IsPath.eq_cons (isPath : IsPath adj src dst path) : ∃ rest, path = src :: rest := by
  cases isPath with
  | single => exact ⟨[], rfl⟩
  | cons => exact ⟨_, rfl⟩

/-- The paths of at most three nodes. -/
theorem IsPath.eq_of_length_le (isPath : IsPath adj src dst path) (short : path.length ≤ 3) :
    (src = dst ∧ path = [src]) ∨ (adj src dst ∧ path = [src, dst]) ∨
      ∃ middle, adj src middle ∧ adj middle dst ∧ path = [src, middle, dst] := by
  cases isPath with
  | single => exact .inl ⟨rfl, rfl⟩
  | cons edge rest =>
      cases rest with
      | single => exact .inr (.inl ⟨edge, rfl⟩)
      | cons edge' rest =>
          cases rest with
          | single => exact .inr (.inr ⟨_, edge, edge', rfl⟩)
          | cons edge'' rest =>
              obtain ⟨rest, rfl⟩ := rest.eq_cons
              simp only [List.length_cons] at short
              omega

/-- Where there is a path there is a shortest one. -/
theorem IsPath.exists_isShortestPath (isPath : IsPath adj src dst path) :
    ∃ shortest, IsShortestPath adj src dst shortest := by
  induction bound : path.length using Nat.strongRecOn generalizing path with
  | _ length ih =>
      by_cases minimal : ∀ other, IsPath adj src dst other → path.length ≤ other.length
      · exact ⟨path, isPath, minimal⟩
      · obtain ⟨other, isPath', shorter⟩ := by simpa using minimal
        exact ih other.length (bound ▸ shorter) isPath' rfl

theorem IsPath.exists_trans {path' : List V} (first : IsPath adj src middle path)
    (later : IsPath adj middle dst path') : ∃ path, IsPath adj src dst path := by
  induction first with
  | single => exact ⟨path', later⟩
  | cons edge _ ih =>
      obtain ⟨rest, isPath⟩ := ih later
      exact ⟨_, .cons edge isPath⟩

/-- Where edges go both ways there is a path back. -/
theorem IsPath.exists_symm (symm : ∀ first second, adj first second → adj second first)
    (isPath : IsPath adj src dst path) : ∃ path, IsPath adj dst src path := by
  induction isPath with
  | single node => exact ⟨[node], .single node⟩
  | cons edge _ ih =>
      obtain ⟨back, isPath⟩ := ih
      exact isPath.exists_trans (.cons (symm _ _ edge) (.single _))

/-- The rest of a shortest path is a shortest path. -/
theorem IsShortestPath.rest (isShortest : IsShortestPath adj src dst (src :: path))
    (edge : adj src middle) (rest : IsPath adj middle dst path) :
    IsShortestPath adj middle dst path where
  isPath := rest
  shortest other isPath := by
    have longer := isShortest.shortest _ (.cons edge isPath)
    simp only [List.length_cons] at longer
    omega

/-- A path from the second node that is as short makes a shortest path. -/
theorem IsShortestPath.cons (isShortest : IsShortestPath adj src dst (src :: path))
    (edge : adj src middle) {other : List V} (isPath : IsPath adj middle dst other)
    (short : other.length ≤ path.length) : IsShortestPath adj src dst (src :: other) where
  isPath := .cons edge isPath
  shortest third isPath := by
    have longer := isShortest.shortest third isPath
    simp only [List.length_cons] at longer ⊢
    omega

/-- A least shortest path from every node to the root. -/
structure LeastPaths [LinearOrder V] (adj : V → V → Prop) (root : V) where
  path : V → List V
  isLeast : ∀ node, IsLeastPath adj node root (path node)

namespace LeastPaths

variable [LinearOrder V] {root : V} (paths : LeastPaths adj root)

theorem path_root : paths.path root = [root] := by
  have short := (paths.isLeast root).isShortest.shortest _ (.single root)
  obtain ⟨rest, starts⟩ := (paths.isLeast root).isShortest.isPath.eq_cons
  rw [starts, List.length_cons] at short
  have empty : rest = [] := List.length_eq_zero_iff.mp (by simpa using short)
  rw [starts, empty]

/-- **The rest of a least path** is the least path of its second node. -/
theorem eq_cons {node : V} (notRoot : node ≠ root) :
    ∃ next, adj node next ∧ paths.path node = node :: paths.path next := by
  have isLeast := paths.isLeast node
  generalize taken : paths.path node = path at isLeast
  cases isLeast.isShortest.isPath with
  | single => exact absurd rfl notRoot
  | @cons _ next _ rest edge isPath =>
      have isLeast' := paths.isLeast next
      have shortest := isLeast.isShortest.rest edge isPath
      have below : rest ≤ paths.path next := by
        have longer := isLeast.least _ (isLeast.isShortest.cons edge isLeast'.isShortest.isPath
          (isLeast'.isShortest.shortest _ isPath))
        by_contra above
        exact not_lt.mpr longer (List.Lex.cons (not_le.mp above))
      refine ⟨next, edge, ?_⟩
      rw [le_antisymm below (isLeast'.least _ shortest)]

/-- The length of a node's path. -/
def rank (node : V) : Nat := (paths.path node).length

/-- The second node of the path. -/
def parent (node : V) : V := ((paths.path node)[1]?).getD node

theorem path_eq {node : V} (notRoot : node ≠ root) :
    adj node (paths.parent node) ∧ paths.path node = node :: paths.path (paths.parent node) := by
  obtain ⟨next, edge, path⟩ := paths.eq_cons notRoot
  obtain ⟨rest, starts⟩ := (paths.isLeast next).isShortest.isPath.eq_cons
  have isNext : paths.parent node = next := by
    rw [parent, path, starts]
    rfl
  rw [isNext]
  exact ⟨edge, path⟩

/-- The tree of the second nodes. -/
def tree : ParentTree V where
  root := root
  parent := paths.parent
  rank := paths.rank
  rank_parent node notRoot := by
    rw [rank, (paths.path_eq notRoot).2, List.length_cons]
    rfl

/-- The nodes of a path are those above its first node. -/
theorem above_iff {upper lower : V} : paths.tree.Above upper lower ↔ upper ∈ paths.path lower := by
  constructor
  · intro above
    induction above with
    | refl =>
        obtain ⟨rest, starts⟩ := (paths.isLeast upper).isShortest.isPath.eq_cons
        rw [starts]
        exact List.mem_cons_self
    | step notRoot _ ih =>
        rw [(paths.path_eq notRoot).2]
        exact List.mem_cons_of_mem _ ih
  · intro member
    induction height : paths.rank lower generalizing lower with
    | zero =>
        rw [List.length_eq_zero_iff.mp height] at member
        cases member
    | succ height ih =>
        by_cases same : lower = root
        · rw [same, paths.path_root, List.mem_singleton] at member
          rw [same, member]
          exact .refl
        · have higher : paths.rank lower = paths.rank (paths.parent lower) + 1 :=
            paths.tree.rank_parent lower same
          rw [(paths.path_eq same).2] at member
          rcases List.mem_cons.mp member with rfl | member
          · exact .refl
          · exact .step same (ih member (Nat.succ.inj (higher.symm.trans height)))

/-- A path has each of its nodes once. -/
theorem nodup_path (node : V) : (paths.path node).Nodup := by
  induction height : paths.rank node generalizing node with
  | zero =>
      rw [List.length_eq_zero_iff.mp height]
      exact .nil
  | succ height ih =>
      by_cases same : node = root
      · rw [same, paths.path_root]
        exact List.nodup_singleton root
      · have higher : paths.rank node = paths.rank (paths.parent node) + 1 :=
          paths.tree.rank_parent node same
        rw [(paths.path_eq same).2]
        refine List.nodup_cons.mpr ⟨fun member => ?_, ih _ (Nat.succ.inj (higher.symm.trans height))⟩
        have low : paths.rank node ≤ paths.rank (paths.parent node) :=
          (paths.above_iff.mpr member).rank_le
        omega

/-- The ranks of neighbours differ by one at most. -/
theorem rank_le_of_adj {node other : V} (edge : adj node other) :
    paths.rank node ≤ paths.rank other + 1 :=
  (paths.isLeast node).isShortest.shortest _
    (.cons edge (paths.isLeast other).isShortest.isPath)

/-- A node is on the path of a neighbour that is not nearer to the root exactly when
it is the neighbour's parent. -/
theorem above_iff_isChild {node other : V} (edge : adj other node) (different : node ≠ other)
    (farther : paths.rank node ≤ paths.rank other) :
    paths.tree.Above node other ↔ paths.tree.IsChild other node := by
  constructor
  · intro above
    obtain ⟨notRoot, above⟩ := above.parent different
    have near := paths.rank_le_of_adj edge
    have higher : paths.rank other = paths.rank (paths.parent other) + 1 :=
      paths.tree.rank_parent other notRoot
    refine ⟨notRoot, (above.eq_of_rank_le ?_).symm⟩
    change paths.rank (paths.parent other) ≤ paths.rank node
    omega
  · exact fun isChild => isChild.above

/-- The node before another on a path is its child on the way. -/
theorem exists_before {upper lower : V} (above : paths.tree.Above upper lower)
    (different : upper ≠ lower) :
    ∃ child, (paths.path lower)[(paths.path lower).idxOf upper - 1]? = some child ∧
      paths.tree.IsChild child upper ∧ paths.tree.Above child lower := by
  induction above with
  | refl => exact absurd rfl different
  | @step lower notRoot above ih =>
      have path : paths.path lower = lower :: paths.path (paths.tree.parent lower) :=
        (paths.path_eq notRoot).2
      have later : (paths.path lower).idxOf upper =
          (paths.path (paths.tree.parent lower)).idxOf upper + 1 := by
        rw [path, List.idxOf_cons_ne _ (Ne.symm different)]
      by_cases same : upper = paths.tree.parent lower
      · obtain ⟨rest, starts⟩ := (paths.isLeast upper).isShortest.isPath.eq_cons
        refine ⟨lower, ?_, ⟨notRoot, same.symm⟩, .refl⟩
        rw [later, path, ← same, starts, List.idxOf_cons_self]
        rfl
      · obtain ⟨child, before, isChild, higher⟩ := ih same
        refine ⟨child, ?_, isChild, .step notRoot higher⟩
        obtain ⟨index, found⟩ : ∃ index,
            (paths.path (paths.tree.parent lower)).idxOf upper = index + 1 := by
          obtain ⟨rest, starts⟩ :=
            (paths.isLeast (paths.tree.parent lower)).isShortest.isPath.eq_cons
          rw [starts, List.idxOf_cons_ne _ (Ne.symm same)]
          exact ⟨_, rfl⟩
        rw [found] at before
        rw [later, found, path]
        exact before

end LeastPaths
