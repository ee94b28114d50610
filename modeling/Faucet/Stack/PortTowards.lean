import Faucet.Stack.SpanningTree

/-!
# The way from one datapath to another

Unicast rules send a packet to the port that the datapath takes to lead towards the
datapath of the host (`relative_port_towards`): away from the root, when the datapath is
on the other's path to the root, and otherwise towards the root. Every datapath decides by
itself. The decisions make one way, up to the first datapath that is above the destination
and then down, which is never longer than the two depths together (`way_to_destination`).
-/

set_option autoImplicit false

namespace Faucet.Stack

namespace Topology

variable {Dp : Type} [LinearOrder Dp] (topology : Topology Dp) (self : Dp)

/-! ## The choice of a port -/

/-- `peer_up_ports` -/
def peerUpPorts (peerDp : Dp) : List (StackPort Dp) :=
  canonicalUpPorts (topology.adjacentStackPorts self peerDp)

/-- `shortest_path_port` -/
def shortestPathPort (destDp : Dp) : Option (StackPort Dp) :=
  match topology.shortestPath destDp self with
  | _ :: peerDp :: _ => (topology.peerUpPorts self peerDp).head?
  | _ => none

/-- `default_port_towards` -/
def defaultPortTowards (dpName : Dp) : Option (StackPort Dp) :=
  topology.shortestPathPort self dpName

/-- The orders in which the datapaths' loops over the set `away_ports` take it. -/
structure SetOrder where
  awayPorts : Dp → List (StackPort Dp)
  perm : ∀ dp, (awayPorts dp).Perm (topology.resetPeerDistances dp).awayPorts

variable {topology}

namespace SetOrder

variable (order : topology.SetOrder)

/-- `relative_port_towards` -/
def relativePortTowards (self dpName : Dp) : Option (StackPort Dp) :=
  if topology.shortestPathToRoot self = [] then topology.defaultPortTowards self dpName
  else if self = dpName then topology.defaultPortTowards self dpName
  else
    let pathToRoot := topology.shortestPathToRoot dpName
    if pathToRoot ≠ [] ∧ self ∈ pathToRoot then
      -- the path starts at `dpName`, which is not this datapath: there is one before it
      let awayDp := pathToRoot[pathToRoot.idxOf self - 1]?
      (order.awayPorts self).find? fun port =>
        some port.peerDp = awayDp && !topology.isPrunedPort self port
    else (topology.resetPeerDistances self).chosenTowardsPort

/-- Where a packet is after some hops along the ports towards a datapath. -/
def follow (destDp : Dp) : Nat → Dp → Option Dp
  | 0, dp => some dp
  | hops + 1, dp =>
      (order.relativePortTowards dp destDp).bind fun port => follow destDp hops port.peerDp

end SetOrder

variable (topology)

/-- The number of hops to the root. -/
def depth (dp : Dp) : Nat := (topology.shortestPathToRoot dp).length - 1

/-- A bound for the hops that are left. -/
def hopsLeft (destDp dp : Dp) : Nat :=
  if dp ∈ topology.shortestPathToRoot destDp then topology.depth destDp - topology.depth dp
  else topology.depth dp + topology.depth destDp

variable {topology}

/-! ## One hop -/

theorem shortestPathToRoot_ne_nil (dp : Dp) : topology.shortestPathToRoot dp ≠ [] := by
  obtain ⟨rest, starts⟩ := (topology.isLeastPath dp).isShortest.isPath.eq_cons
  rw [starts]
  exact List.cons_ne_nil _ _

theorem rank_eq_depth (dp : Dp) : topology.tree.rank dp = topology.depth dp + 1 := by
  have nonempty := List.length_pos_iff.mpr (topology.shortestPathToRoot_ne_nil dp)
  change (topology.shortestPathToRoot dp).length = (topology.shortestPathToRoot dp).length - 1 + 1
  omega

theorem mem_path_iff {upper lower : Dp} :
    upper ∈ topology.shortestPathToRoot lower ↔ topology.tree.Above upper lower :=
  topology.paths.above_iff.symm

theorem depth_child {child node : Dp} (isChild : topology.tree.IsChild child node) :
    topology.depth child = topology.depth node + 1 := by
  have rank := isChild.rank
  rw [rank_eq_depth, rank_eq_depth] at rank
  omega

theorem depth_le_of_above {upper lower : Dp} (above : topology.tree.Above upper lower) :
    topology.depth upper ≤ topology.depth lower := by
  have rank := above.rank_le
  rw [rank_eq_depth, rank_eq_depth] at rank
  omega

namespace SetOrder

variable {dp destDp : Dp}

/-- Below this datapath the port leads to the child that is above the destination. -/
theorem relativePortTowards_of_above (order : topology.SetOrder)
    (above : topology.tree.Above dp destDp)
    (different : dp ≠ destDp) : ∃ port ∈ topology.stackPorts dp,
      order.relativePortTowards dp destDp = some port ∧
        topology.tree.IsChild port.peerDp dp ∧ topology.tree.Above port.peerDp destDp := by
  obtain ⟨child, before, isChild, higher⟩ := topology.paths.exists_before above different
  have before : (topology.shortestPathToRoot destDp)[
      (topology.shortestPathToRoot destDp).idxOf dp - 1]? = some child := before
  rw [relativePortTowards, if_neg (topology.shortestPathToRoot_ne_nil dp), if_neg different]
  dsimp only
  rw [if_pos ⟨topology.shortestPathToRoot_ne_nil destDp, mem_path_iff.mpr above⟩, before]
  have mem_order : ∀ port, port ∈ order.awayPorts dp ↔
      port ∈ (topology.resetPeerDistances dp).awayPorts := fun _ => (order.perm dp).mem_iff
  obtain ⟨down, member, toChild, isMain⟩ := exists_port_to_child isChild
  subst toChild
  have found : ((order.awayPorts dp).find? fun port =>
      some port.peerDp = some down.peerDp && !topology.isPrunedPort dp port).isSome := by
    rw [List.find?_isSome]
    refine ⟨down, (mem_order down).mpr (mem_awayPorts.mpr ⟨member, ?_⟩), ?_⟩
    · exact (Nat.le_succ _).trans_eq isChild.rank.symm
    · have unpruned := mt (isPrunedPort_toChild member isChild).mp (not_not.mpr isMain)
      simp [unpruned]
  obtain ⟨port, chosen⟩ := Option.isSome_iff_exists.mp found
  have toChild : port.peerDp = down.peerDp := by
    have accepted := List.find?_some chosen
    simp only [Bool.and_eq_true, decide_eq_true_eq, Option.some.injEq] at accepted
    exact accepted.1
  have away := (mem_order port).mp (List.mem_of_find?_eq_some chosen)
  exact ⟨port, (mem_awayPorts.mp away).1, chosen, toChild ▸ isChild, toChild ▸ higher⟩

/-- Elsewhere it is the main link to the parent. -/
theorem relativePortTowards_of_not_above (order : topology.SetOrder)
    (notAbove : ¬ topology.tree.Above dp destDp) :
    ∃ port ∈ topology.stackPorts dp, order.relativePortTowards dp destDp = some port ∧
      topology.tree.IsChild dp port.peerDp := by
  have notRoot : dp ≠ topology.root := by
    rintro rfl
    exact notAbove (topology.tree.above_root destDp)
  have different : dp ≠ destDp := by
    rintro rfl
    exact notAbove .refl
  obtain ⟨port, isMain⟩ := exists_mainLink notRoot
  refine ⟨port, isMain.1, ?_, isMain.2.1⟩
  rw [relativePortTowards, if_neg (topology.shortestPathToRoot_ne_nil dp), if_neg different]
  dsimp only
  rw [if_neg fun both => notAbove (mem_path_iff.mp both.2)]
  exact chosenTowardsPort_iff.mpr isMain

/-- **Every datapath but the destination has a port**, and it leads nearer. -/
theorem exists_relativePortTowards (order : topology.SetOrder) (different : dp ≠ destDp) :
    ∃ port ∈ topology.stackPorts dp, order.relativePortTowards dp destDp = some port ∧
      topology.hopsLeft destDp port.peerDp < topology.hopsLeft destDp dp := by
  by_cases above : topology.tree.Above dp destDp
  · obtain ⟨port, member, chosen, isChild, higher⟩ :=
      relativePortTowards_of_above order above different
    refine ⟨port, member, chosen, ?_⟩
    rw [hopsLeft, hopsLeft, if_pos (mem_path_iff.mpr higher), if_pos (mem_path_iff.mpr above)]
    have deeper := depth_child isChild
    have inside := depth_le_of_above higher
    omega
  · obtain ⟨port, member, chosen, isChild⟩ :=
      relativePortTowards_of_not_above order above
    refine ⟨port, member, chosen, ?_⟩
    rw [hopsLeft, hopsLeft, if_neg (mt mem_path_iff.mp above)]
    have deeper := depth_child isChild
    split <;> omega

end SetOrder

/-! ## The way -/

theorem shortestPath_self (dp : Dp) : topology.shortestPath dp dp = [dp] := by
  have trivialPath : [dp] ∈ topology.allShortestPaths dp dp := by
    rw [topology.mem_allShortestPaths]
    refine ⟨.single dp, fun other isPath => ?_⟩
    obtain ⟨rest, rfl⟩ := isPath.eq_cons
    exact Nat.succ_le_succ (Nat.zero_le _)
  rw [shortestPath]
  cases sorted : (topology.allShortestPaths dp dp).mergeSort fun first second => first ≤ second with
  | nil =>
      rw [← List.mem_mergeSort, sorted] at trivialPath
      cases trivialPath
  | cons first rest =>
      have member : first ∈ topology.allShortestPaths dp dp := by
        rw [← List.mem_mergeSort, sorted]
        exact List.mem_cons_self
      have isShortest := (topology.mem_allShortestPaths dp dp first).mp member
      have short := isShortest.shortest _ (.single dp)
      obtain ⟨later, rfl⟩ := isShortest.isPath.eq_cons
      have empty : later = [] := List.length_eq_zero_iff.mp (by simpa using short)
      rw [empty]
      rfl

namespace SetOrder

variable {order : topology.SetOrder} {dp dp' destDp : Dp} {hops : Nat}

/-- The destination sends nothing on. -/
theorem relativePortTowards_self : order.relativePortTowards dp dp = none := by
  rw [relativePortTowards, if_neg (topology.shortestPathToRoot_ne_nil dp), if_pos rfl,
    defaultPortTowards, shortestPathPort, shortestPath_self]

/-- Every hop leads nearer. -/
theorem hopsLeft_of_follow (reached : order.follow destDp hops dp = some dp') :
    topology.hopsLeft destDp dp' + hops ≤ topology.hopsLeft destDp dp := by
  induction hops generalizing dp with
  | zero =>
      cases reached
      exact Nat.le_refl _
  | succ hops ih =>
      obtain ⟨port, taken, later⟩ := Option.bind_eq_some_iff.mp reached
      have different : dp ≠ destDp := by
        rintro rfl
        rw [relativePortTowards_self] at taken
        cases taken
      obtain ⟨port', _, chosen, nearer⟩ := exists_relativePortTowards order different
      cases taken.symm.trans chosen
      have left := ih later
      omega

/-- The hops that are left suffice. -/
theorem exists_follow (order : topology.SetOrder) (destDp dp : Dp) :
    ∃ hops ≤ topology.hopsLeft destDp dp, order.follow destDp hops dp = some destDp := by
  induction left : topology.hopsLeft destDp dp using Nat.strongRecOn generalizing dp with
  | _ left ih =>
      by_cases same : dp = destDp
      · exact ⟨0, Nat.zero_le _, congrArg some same⟩
      · obtain ⟨port, _, chosen, nearer⟩ := exists_relativePortTowards order same
        obtain ⟨hops, short, reached⟩ := ih _ (left ▸ nearer) port.peerDp rfl
        refine ⟨hops + 1, by omega, ?_⟩
        rw [follow, chosen, Option.bind_some]
        exact reached

/-- **The way to the destination**: every other datapath has a port, the way from any
source is as short as the two depths, and no datapath is on a loop. -/
theorem way_to_destination (order : topology.SetOrder) (srcDp destDp : Dp) :
    (∀ dp, dp ≠ destDp → ∃ port ∈ topology.stackPorts dp,
      order.relativePortTowards dp destDp = some port) ∧
    (∃ hops ≤ topology.depth srcDp + topology.depth destDp,
      order.follow destDp hops srcDp = some destDp) ∧
    ∀ dp hops, 0 < hops → order.follow destDp hops dp ≠ some dp := by
  refine ⟨fun dp different => ?_, ?_, fun dp hops positive looped => ?_⟩
  · obtain ⟨port, member, chosen, _⟩ := exists_relativePortTowards order different
    exact ⟨port, member, chosen⟩
  · obtain ⟨hops, short, reached⟩ := exists_follow order destDp srcDp
    refine ⟨hops, short.trans ?_, reached⟩
    rw [hopsLeft]
    split <;> omega
  · have nearer := hopsLeft_of_follow looped
    omega

end SetOrder

end Topology

end Faucet.Stack
