import Faucet.Stack.Topology

/-!
# The tree of the chosen links

The datapaths choose next datapaths towards the root that make a tree, and every
datapath sees its ports in that tree: the chosen ports towards the root are its
ports to its parent, the active ports away from the root those to its children,
and at both ends of the links between two neighbours the same one is not pruned.
-/

set_option autoImplicit false

namespace Faucet.Stack

variable {Dp : Type}

theorem StackPort.peer_peer (self : Dp) (port : StackPort Dp) :
    (port.peer self).peer port.peerDp = port := rfl

/-! ## Canonical order -/

theorem mem_canonicalUpPorts {ports : List (StackPort Dp)} {port : StackPort Dp} :
    port ∈ canonicalUpPorts ports ↔ port ∈ ports := List.mem_mergeSort

theorem pairwise_canonicalUpPorts (ports : List (StackPort Dp)) :
    (canonicalUpPorts ports).Pairwise fun first second => first.number ≤ second.number := by
  refine (List.pairwise_mergeSort ?_ ?_ ports).imp of_decide_eq_true
  · intro first second third before before'
    rw [decide_eq_true_eq] at *
    omega
  · intro first second
    rw [Bool.or_eq_true, decide_eq_true_eq, decide_eq_true_eq]
    omega

/-- The first port in canonical order is the one with the least number. -/
theorem head?_canonicalUpPorts {ports : List (StackPort Dp)} {port : StackPort Dp}
    (distinct : ∀ first ∈ ports, ∀ second ∈ ports, first.number = second.number → first = second) :
    (canonicalUpPorts ports).head? = some port ↔
      port ∈ ports ∧ ∀ other ∈ ports, port.number ≤ other.number := by
  have sorted := pairwise_canonicalUpPorts ports
  cases heads : canonicalUpPorts ports with
  | nil =>
      refine iff_of_false nofun ?_
      rintro ⟨member, _⟩
      rw [← mem_canonicalUpPorts, heads] at member
      cases member
  | cons first rest =>
      rw [heads] at sorted
      have firstMember : first ∈ ports := mem_canonicalUpPorts.mp (heads ▸ List.mem_cons_self)
      have least : ∀ other ∈ ports, first.number ≤ other.number := by
        intro other member
        rw [← mem_canonicalUpPorts, heads] at member
        rcases List.mem_cons.mp member with rfl | later
        · exact Nat.le_refl _
        · exact (List.pairwise_cons.mp sorted).1 other later
      constructor
      · rintro ⟨⟩
        exact ⟨firstMember, least⟩
      · rintro ⟨member, lowest⟩
        have same : first.number = port.number :=
          Nat.le_antisymm (least port member) (lowest first firstMember)
        rw [List.head?_cons, distinct first firstMember port member same]

namespace Topology

variable [LinearOrder Dp] (topology : Topology Dp)

/-! ## Paths to the root -/

theorem linked_symm {dp peer : Dp} (linked : Linked topology.stackPorts dp peer) :
    Linked topology.stackPorts peer dp := by
  obtain ⟨port, member, rfl⟩ := linked
  exact ⟨port.peer dp, topology.bothEnds dp port member, rfl⟩

/-- The path to the root is the least of the shortest. -/
theorem isLeastPath (dp : Dp) :
    IsLeastPath (Linked topology.stackPorts) dp topology.root (topology.shortestPathToRoot dp) := by
  obtain ⟨path, isPath⟩ := topology.connected dp
  obtain ⟨shortest, isShortest⟩ := isPath.exists_isShortestPath
  rw [← topology.mem_allShortestPaths] at isShortest
  have sorted : ((topology.allShortestPaths dp topology.root).mergeSort
      fun first second => first ≤ second).Pairwise fun first second => first ≤ second := by
    refine (List.pairwise_mergeSort ?_ ?_ _).imp of_decide_eq_true
    · intro first second third before before'
      rw [decide_eq_true_eq] at *
      exact before.trans before'
    · intro first second
      rw [Bool.or_eq_true, decide_eq_true_eq, decide_eq_true_eq]
      exact le_total first second
  rw [shortestPathToRoot, shortestPath]
  cases heads : (topology.allShortestPaths dp topology.root).mergeSort
      fun first second => first ≤ second with
  | nil =>
      rw [← List.mem_mergeSort, heads] at isShortest
      cases isShortest
  | cons first rest =>
      rw [heads] at sorted
      constructor
      · rw [← topology.mem_allShortestPaths, ← List.mem_mergeSort, heads]
        exact List.mem_cons_self
      · intro other isShortest'
        rw [← topology.mem_allShortestPaths, ← List.mem_mergeSort, heads] at isShortest'
        rcases List.mem_cons.mp isShortest' with rfl | later
        · exact le_refl _
        · exact (List.pairwise_cons.mp sorted).1 other later

/-- The shortest paths to the root. -/
def paths : LeastPaths (Linked topology.stackPorts) topology.root where
  path := topology.shortestPathToRoot
  isLeast := topology.isLeastPath

/-- The tree of the next datapaths towards the root. -/
abbrev tree : ParentTree Dp := topology.paths.tree

variable {topology} {self : Dp} {port : StackPort Dp}

theorem rank_le_of_port (member : port ∈ topology.stackPorts self) :
    topology.tree.rank self ≤ topology.tree.rank port.peerDp + 1 :=
  topology.paths.rank_le_of_adj ⟨port, member, rfl⟩

theorem peerDistance_eq : topology.peerDistance port = topology.tree.rank port.peerDp := rfl

theorem port_ext {first second : StackPort Dp} (member : first ∈ topology.stackPorts self)
    (member' : second ∈ topology.stackPorts self) (same : first.number = second.number) :
    first = second :=
  List.inj_on_of_nodup_map (List.Nodup.of_append_left (topology.numbers self)) member member' same

/-! ## Ports in the tree -/

/-- There is a port to the parent. -/
theorem exists_port_to_parent (notRoot : self ≠ topology.root) :
    ∃ port ∈ topology.stackPorts self, port.peerDp = topology.tree.parent self :=
  (topology.paths.path_eq notRoot).1

/-- The ports towards the root lead to the datapaths one step nearer to it. -/
theorem mem_towardsRootPorts (notRoot : self ≠ topology.root) :
    port ∈ topology.towardsRootPorts self ↔
      port ∈ topology.stackPorts self ∧
        topology.tree.rank self = topology.tree.rank port.peerDp + 1 := by
  obtain ⟨up, member, toParent⟩ := topology.exists_port_to_parent notRoot
  have higher := topology.tree.rank_parent self notRoot
  have minimum : ((canonicalUpPorts (topology.stackPorts self)).map topology.peerDistance).min? =
      some (topology.tree.rank (topology.tree.parent self)) := by
    rw [List.min?_eq_some_iff]
    constructor
    · exact List.mem_map.mpr ⟨up, mem_canonicalUpPorts.mpr member, by rw [peerDistance_eq, toParent]⟩
    · intro distance present
      obtain ⟨other, member', rfl⟩ := List.mem_map.mp present
      have near := rank_le_of_port (mem_canonicalUpPorts.mp member')
      rw [peerDistance_eq]
      omega
  rw [towardsRootPorts, List.mem_filter, mem_canonicalUpPorts, minimum, decide_eq_true_eq,
    Option.some.injEq, peerDistance_eq, higher]
  refine and_congr_right fun _ => ?_
  omega

theorem firstPeerDp_eq (notRoot : self ≠ topology.root) :
    topology.firstPeerDp self = some (topology.tree.parent self) := by
  obtain ⟨rest, starts⟩ :=
    (topology.paths.isLeast (topology.tree.parent self)).isShortest.isPath.eq_cons
  have path : topology.shortestPathToRoot self = self :: topology.tree.parent self :: rest :=
    (topology.paths.path_eq notRoot).2.trans (congrArg _ starts)
  rw [firstPeerDp, path]

/-- **The chosen ports** towards the root are the ports to the parent. -/
theorem mem_chosenTowardsPorts : port ∈ (topology.resetPeerDistances self).chosenTowardsPorts ↔
    port ∈ topology.stackPorts self ∧ topology.tree.IsChild self port.peerDp := by
  rw [resetPeerDistances]
  split
  next isRoot => exact iff_of_false nofun fun both => both.2.1 isRoot
  next notRoot =>
    rw [List.mem_filter, mem_towardsRootPorts notRoot, decide_eq_true_eq, firstPeerDp_eq notRoot,
      Option.some.injEq]
    constructor
    · rintro ⟨⟨member, _⟩, toParent⟩
      exact ⟨member, notRoot, toParent.symm⟩
    · rintro ⟨member, isChild⟩
      exact ⟨⟨member, isChild.rank⟩, isChild.2.symm⟩

/-- The ports away from the root. -/
theorem mem_awayPorts : port ∈ (topology.resetPeerDistances self).awayPorts ↔
    port ∈ topology.stackPorts self ∧
      topology.tree.rank self ≤ topology.tree.rank port.peerDp := by
  have rootLowest : topology.tree.rank topology.root ≤ topology.tree.rank port.peerDp :=
    (topology.tree.above_root port.peerDp).rank_le
  rw [resetPeerDistances]
  split
  next isRoot =>
    rw [mem_canonicalUpPorts, isRoot]
    exact (and_iff_left rootLowest).symm
  next notRoot =>
    rw [List.mem_filter, mem_canonicalUpPorts, decide_eq_true_eq, mem_towardsRootPorts notRoot]
    refine and_congr_right fun member => ?_
    have near := rank_le_of_port member
    constructor
    · intro notTowards
      by_contra farther
      exact notTowards ⟨member, by omega⟩
    · rintro farther ⟨_, higher⟩
      omega

theorem mem_towards : topology.isTowardsRoot self port = true ↔
    self ≠ topology.root ∧ port ∈ topology.stackPorts self ∧
      topology.tree.rank self = topology.tree.rank port.peerDp + 1 := by
  rw [isTowardsRoot, List.contains_iff_mem, resetPeerDistances]
  split
  next isRoot => exact iff_of_false nofun fun both => both.1 isRoot
  next notRoot =>
    rw [mem_towardsRootPorts notRoot]
    exact (and_iff_right notRoot).symm

theorem isAway_iff : topology.isAway self port = true ↔
    port ∈ topology.stackPorts self ∧
      topology.tree.rank self ≤ topology.tree.rank port.peerDp := by
  rw [isAway, List.contains_iff_mem, mem_awayPorts]

/-- **The active ports** away from the root are the ports to the children. -/
theorem mem_activeAwayPorts :
    port ∈ (topology.resetPeerDistances self).awayPorts ∧
        port ∉ (topology.resetPeerDistances self).inactiveAwayPorts ↔
      port ∈ topology.stackPorts self ∧ topology.tree.IsChild port.peerDp self := by
  have inactive : port ∈ (topology.resetPeerDistances self).inactiveAwayPorts ↔
      port ∈ (topology.resetPeerDistances self).awayPorts ∧
        ¬ topology.tree.Above self port.peerDp := by
    have filtered : (topology.resetPeerDistances self).inactiveAwayPorts =
        topology.inactiveAwayPorts self (topology.resetPeerDistances self).awayPorts := by
      rw [resetPeerDistances]
      split <;> rfl
    rw [topology.paths.above_iff, filtered, Topology.inactiveAwayPorts, List.mem_filter, isInPath,
      Bool.not_eq_true', ← Bool.not_eq_true, List.contains_iff_mem]
    rfl
  rw [inactive, mem_awayPorts]
  constructor
  · rintro ⟨⟨member, farther⟩, active⟩
    refine ⟨member, ?_⟩
    have above : topology.tree.Above self port.peerDp := by
      by_contra notAbove
      exact active ⟨⟨member, farther⟩, notAbove⟩
    exact (topology.paths.above_iff_isChild
      (topology.linked_symm ⟨port, member, rfl⟩) (topology.noLoop self port member).symm farther).mp above
  · rintro ⟨member, isChild⟩
    refine ⟨⟨member, ?_⟩, fun both => both.2 isChild.above⟩
    rw [isChild.rank]
    exact Nat.le_succ _

/-! ## Parallel links -/

/-- The first of the ports to the parent. -/
def IsMainLink (topology : Topology Dp) (self : Dp) (port : StackPort Dp) : Prop :=
  port ∈ topology.stackPorts self ∧ topology.tree.IsChild self port.peerDp ∧
    ∀ other ∈ topology.stackPorts self, other.peerDp = port.peerDp → port.number ≤ other.number

theorem chosenTowardsPort_iff :
    (topology.resetPeerDistances self).chosenTowardsPort = some port ↔
      topology.IsMainLink self port := by
  have taken : (topology.resetPeerDistances self).chosenTowardsPort =
      (canonicalUpPorts (topology.resetPeerDistances self).chosenTowardsPorts).head? := by
    rw [resetPeerDistances]
    split
    · simp [canonicalUpPorts]
    · rfl
  have distinct : ∀ first ∈ (topology.resetPeerDistances self).chosenTowardsPorts,
      ∀ second ∈ (topology.resetPeerDistances self).chosenTowardsPorts,
        first.number = second.number → first = second :=
    fun first member second member' => port_ext (mem_chosenTowardsPorts.mp member).1
      (mem_chosenTowardsPorts.mp member').1
  rw [taken, head?_canonicalUpPorts distinct, mem_chosenTowardsPorts, IsMainLink, and_assoc]
  refine and_congr_right fun _ => and_congr_right fun isChild => ?_
  constructor
  · intro least other member toParent
    exact least other (mem_chosenTowardsPorts.mpr ⟨member, toParent ▸ isChild⟩)
  · intro least other member
    obtain ⟨member, isChild'⟩ := mem_chosenTowardsPorts.mp member
    exact least other member (isChild'.2.symm.trans isChild.2)

theorem IsMainLink.unique {other : StackPort Dp} (first : topology.IsMainLink self port)
    (second : topology.IsMainLink self other) : port = other := by
  rw [← chosenTowardsPort_iff] at first second
  exact Option.some.inj (first.symm.trans second)

theorem exists_mainLink (notRoot : self ≠ topology.root) :
    ∃ port, topology.IsMainLink self port := by
  obtain ⟨up, member, toParent⟩ := topology.exists_port_to_parent notRoot
  have chosen : up ∈ (topology.resetPeerDistances self).chosenTowardsPorts :=
    mem_chosenTowardsPorts.mpr ⟨member, notRoot, toParent.symm⟩
  cases heads : canonicalUpPorts (topology.resetPeerDistances self).chosenTowardsPorts with
  | nil =>
      rw [← mem_canonicalUpPorts, heads] at chosen
      cases chosen
  | cons first rest =>
      refine ⟨first, chosenTowardsPort_iff.mp ?_⟩
      rw [resetPeerDistances] at heads ⊢
      split
      next isRoot => exact absurd isRoot notRoot
      next =>
        rw [if_neg notRoot] at heads
        exact congrArg List.head? heads

/-- There is a port to a child, at this end of the main link of the child. -/
theorem exists_port_to_child {child : Dp} (isChild : topology.tree.IsChild child self) :
    ∃ port ∈ topology.stackPorts self, port.peerDp = child ∧
      topology.IsMainLink child (port.peer self) := by
  obtain ⟨up, isMain⟩ := exists_mainLink isChild.1
  have toSelf : up.peerDp = self := isMain.2.1.2.symm.trans isChild.2
  subst toSelf
  exact ⟨up.peer child, topology.bothEnds child up isMain.1, rfl, isMain⟩

/-- Of the ports to the parent all but the first are pruned. -/
theorem isPrunedPort_toParent (member : port ∈ topology.stackPorts self)
    (isChild : topology.tree.IsChild self port.peerDp) :
    topology.isPrunedPort self port = true ↔ ¬ topology.IsMainLink self port := by
  rw [isPrunedPort, if_pos (mem_towards.mpr ⟨isChild.1, member, isChild.rank⟩), decide_eq_true_eq,
    ← chosenTowardsPort_iff]

theorem mem_prunedAwayPorts (member : port ∈ topology.stackPorts self)
    (isChild : topology.tree.IsChild port.peerDp self) :
    port ∈ (topology.resetPeerDistances self).prunedAwayPorts ↔
      ¬ topology.IsMainLink port.peerDp (port.peer self) := by
  let away := (topology.resetPeerDistances self).awayPorts
  let remote := (away.filter (·.peerDp = port.peerDp)).map (·.peer self)
  have pruned : (topology.resetPeerDistances self).prunedAwayPorts =
      Topology.prunedAwayPorts self away := by
    simp only [away, resetPeerDistances]
    split <;> rfl
  have memRemote : ∀ other, other ∈ remote ↔
      other ∈ topology.stackPorts port.peerDp ∧ other.peerDp = self := by
    intro other
    simp only [remote, List.mem_map, List.mem_filter, decide_eq_true_eq]
    constructor
    · rintro ⟨down, ⟨present, sameDp⟩, rfl⟩
      refine ⟨?_, rfl⟩
      rw [← sameDp]
      exact topology.bothEnds self down (mem_awayPorts.mp present).1
    · rintro ⟨present, rfl⟩
      refine ⟨other.peer port.peerDp, ⟨mem_awayPorts.mpr ⟨?_, ?_⟩, rfl⟩, rfl⟩
      · exact topology.bothEnds port.peerDp other present
      · exact (Nat.le_succ _).trans_eq isChild.rank.symm
  have first : (canonicalUpPorts remote).head? = some (port.peer self) ↔
      topology.IsMainLink port.peerDp (port.peer self) := by
    rw [head?_canonicalUpPorts]
    · constructor
      · rintro ⟨_, least⟩
        refine ⟨topology.bothEnds self port member, isChild, fun other present toParent => ?_⟩
        exact least other ((memRemote other).mpr ⟨present, toParent⟩)
      · rintro ⟨present, _, least⟩
        refine ⟨(memRemote _).mpr ⟨present, rfl⟩, fun other member => ?_⟩
        obtain ⟨present, toParent⟩ := (memRemote other).mp member
        exact least other present toParent
    · intro one present two present'
      exact port_ext ((memRemote one).mp present).1 ((memRemote two).mp present').1
  rw [pruned, Topology.prunedAwayPorts, ← first, List.mem_flatMap]
  constructor
  · rintro ⟨peerDp, _, listed⟩
    obtain ⟨other, present, same⟩ := List.mem_map.mp listed
    obtain ⟨present, notFirst⟩ := List.mem_filter.mp present
    obtain ⟨down, kept, rfl⟩ := List.mem_map.mp (mem_canonicalUpPorts.mp present)
    have sameDp : down.peerDp = peerDp := of_decide_eq_true (List.mem_filter.mp kept).2
    subst sameDp
    rw [StackPort.peer_peer] at same
    subst same
    exact fun isFirst => of_decide_eq_true notFirst isFirst.symm
  · intro notFirst
    have isDown : port ∈ away :=
      mem_awayPorts.mpr ⟨member, (Nat.le_succ _).trans_eq isChild.rank.symm⟩
    refine ⟨port.peerDp, ?_, List.mem_map.mpr ⟨port.peer self, List.mem_filter.mpr ⟨?_, ?_⟩, rfl⟩⟩
    · rw [OrderedDict.mem_values_id]
      exact List.mem_map_of_mem isDown
    · rw [mem_canonicalUpPorts]
      exact (memRemote _).mpr ⟨topology.bothEnds self port member, rfl⟩
    · rw [decide_eq_true_eq]
      exact fun isFirst => notFirst isFirst.symm

/-- Of the ports to a child all are pruned but the one whose other end is the first of
the child's ports to its parent. -/
theorem isPrunedPort_toChild (member : port ∈ topology.stackPorts self)
    (isChild : topology.tree.IsChild port.peerDp self) :
    topology.isPrunedPort self port = true ↔
      ¬ topology.IsMainLink port.peerDp (port.peer self) := by
  have notTowards : ¬ topology.isTowardsRoot self port = true := by
    rw [mem_towards]
    rintro ⟨_, _, higher⟩
    have lower := isChild.rank
    omega
  have away : topology.isAway self port = true :=
    isAway_iff.mpr ⟨member, (Nat.le_succ _).trans_eq isChild.rank.symm⟩
  rw [isPrunedPort, if_neg notTowards, if_pos away, List.contains_iff_mem,
    mem_prunedAwayPorts member isChild]

end Topology

end Faucet.Stack
