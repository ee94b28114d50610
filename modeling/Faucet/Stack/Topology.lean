import Faucet.Library.LeastPath
import Faucet.Library.OrderedDict

/-!
# The stack of datapaths

The datapaths of a stack are joined by links between stack ports, several of them
between two datapaths if need be, and all of them are up. Every datapath holds the
same graph and the same root. From the shortest paths to the root it works out
which of its ports lead towards the root and which away from it, and which of
them it does not use for broadcasts (`resetPeerDistances`).

The paths are those of a graph library, of which it is known that it returns all
the shortest paths.
-/

set_option autoImplicit false

namespace Faucet.Stack

/-- A stack port: its number, and the datapath and the port at the other end. -/
structure StackPort (Dp : Type) where
  number : Nat
  peerDp : Dp
  peerPort : Nat
deriving DecidableEq

/-- The port at the other end, for a port of the given datapath. -/
def StackPort.peer {Dp : Type} (self : Dp) (port : StackPort Dp) : StackPort Dp where
  number := port.peerPort
  peerDp := self
  peerPort := port.number

/-- A port of the VLAN to which a host is attached. -/
structure HostPort where
  number : Nat
  hairpin : Bool
  unicastFlood : Bool
deriving DecidableEq

/-- The two datapaths are joined by a link. -/
def Linked {Dp : Type} (stackPorts : Dp → List (StackPort Dp)) (dp peer : Dp) : Prop :=
  ∃ port ∈ stackPorts dp, port.peerDp = peer

/-- A stack whose configuration has been accepted: a port number is used once, a
link is configured at both ends, it joins two datapaths, and every datapath is
connected to the root. -/
structure Topology (Dp : Type) [LinearOrder Dp] where
  root : Dp
  stackPorts : Dp → List (StackPort Dp)
  hostPorts : Dp → List HostPort
  numbers : ∀ dp, ((stackPorts dp).map (·.number) ++ (hostPorts dp).map (·.number)).Nodup
  bothEnds : ∀ dp, ∀ port ∈ stackPorts dp, port.peer dp ∈ stackPorts port.peerDp
  noLoop : ∀ dp, ∀ port ∈ stackPorts dp, port.peerDp ≠ dp
  connected : ∀ dp, ∃ path, IsPath (Linked stackPorts) dp root path
  allShortestPaths : Dp → Dp → List (List Dp)
  mem_allShortestPaths : ∀ src dst path,
    path ∈ allShortestPaths src dst ↔ IsShortestPath (Linked stackPorts) src dst path

/-- `canonical_up_ports`: the ports in the order of their numbers. -/
def canonicalUpPorts {Dp : Type} (ports : List (StackPort Dp)) : List (StackPort Dp) :=
  ports.mergeSort fun first second => first.number ≤ second.number

/-- What a datapath knows about its stack ports. -/
structure PeerDistances (Dp : Type) where
  towardsRootPorts : List (StackPort Dp)
  chosenTowardsPorts : List (StackPort Dp)
  chosenTowardsPort : Option (StackPort Dp)
  awayPorts : List (StackPort Dp)
  inactiveAwayPorts : List (StackPort Dp)
  prunedAwayPorts : List (StackPort Dp)

namespace Topology

variable {Dp : Type} [LinearOrder Dp] (topology : Topology Dp) (self : Dp)

/-- The first of the shortest paths in sorted order. -/
def shortestPath (dest src : Dp) : List Dp :=
  ((topology.allShortestPaths src dest).mergeSort fun first second => first ≤ second).headD []

/-- `shortest_path_to_root` -/
def shortestPathToRoot (src : Dp) : List Dp := topology.shortestPath topology.root src

/-- `is_in_path`: the datapath is on the shortest path between the two. -/
def isInPath (src dst : Dp) : Bool := (topology.shortestPath dst src).contains self

/-- The ports whose peers do not reach the root through this datapath. -/
def inactiveAwayPorts (awayPorts : List (StackPort Dp)) : List (StackPort Dp) :=
  awayPorts.filter fun port => !topology.isInPath self port.peerDp topology.root

omit [LinearOrder Dp] in
/-- The ports to each adjacent datapath but the one that is first at the other end. -/
def prunedAwayPorts [DecidableEq Dp] (awayPorts : List (StackPort Dp)) : List (StackPort Dp) :=
  (OrderedDict.values id (awayPorts.map (·.peerDp))).flatMap fun peerDp =>
    let remote := canonicalUpPorts ((awayPorts.filter (·.peerDp = peerDp)).map (·.peer self))
    (remote.filter fun port => some port ≠ remote.head?).map (·.peer peerDp)

/-- How far the peer of a port is from the root. -/
def peerDistance (port : StackPort Dp) : Nat := (topology.shortestPathToRoot port.peerDp).length

/-- The ports to the peers that are nearest to the root. -/
def towardsRootPorts : List (StackPort Dp) :=
  let allPeerPorts := canonicalUpPorts (topology.stackPorts self)
  allPeerPorts.filter fun port =>
    some (topology.peerDistance port) = (allPeerPorts.map topology.peerDistance).min?

/-- The next datapath on the shortest path to the root. -/
def firstPeerDp : Option Dp :=
  match topology.shortestPathToRoot self with
  | _ :: peerDp :: _ => some peerDp
  | _ => (canonicalUpPorts (topology.towardsRootPorts self)).head?.map (·.peerDp)

/-- `reset_peer_distances` -/
def resetPeerDistances : PeerDistances Dp :=
  let allPeerPorts := canonicalUpPorts (topology.stackPorts self)
  if self = topology.root then
    { towardsRootPorts := []
      chosenTowardsPorts := []
      chosenTowardsPort := none
      awayPorts := allPeerPorts
      inactiveAwayPorts := topology.inactiveAwayPorts self allPeerPorts
      prunedAwayPorts := prunedAwayPorts self allPeerPorts }
  else
    let towards := topology.towardsRootPorts self
    let chosen := towards.filter fun port => some port.peerDp = topology.firstPeerDp self
    let away := allPeerPorts.filter fun port => port ∉ towards
    { towardsRootPorts := towards
      chosenTowardsPorts := chosen
      chosenTowardsPort := (canonicalUpPorts chosen).head?
      awayPorts := away
      inactiveAwayPorts := topology.inactiveAwayPorts self away
      prunedAwayPorts := prunedAwayPorts self away }

/-- `is_away` -/
def isAway (port : StackPort Dp) : Bool :=
  (topology.resetPeerDistances self).awayPorts.contains port

/-- `is_towards_root` -/
def isTowardsRoot (port : StackPort Dp) : Bool :=
  (topology.resetPeerDistances self).towardsRootPorts.contains port

/-- `is_pruned_port` -/
def isPrunedPort (port : StackPort Dp) : Bool :=
  if topology.isTowardsRoot self port then
    (topology.resetPeerDistances self).chosenTowardsPort ≠ some port
  else if topology.isAway self port then
    (topology.resetPeerDistances self).prunedAwayPorts.contains port
  else true

/-- `adjacent_stack_ports`. -/
def adjacentStackPorts (peerDp : Dp) : List (StackPort Dp) :=
  (topology.stackPorts self).filter (·.peerDp = peerDp)

end Topology

/-! ## A star -/

/-- There is a root. -/
instance neZero_starDps : NeZero 3 := ⟨by decide⟩

/-- The stack ports of a star: two datapaths, each with two links to the root. -/
def starPorts : Fin 3 → List (StackPort (Fin 3))
  | 0 => [⟨1, 1, 1⟩, ⟨2, 1, 2⟩, ⟨3, 2, 1⟩, ⟨4, 2, 2⟩]
  | 1 => [⟨1, 0, 1⟩, ⟨2, 0, 2⟩]
  | 2 => [⟨1, 0, 3⟩, ⟨2, 0, 4⟩]

/-- The paths of a star. -/
def starPath (src dst : Fin 3) : List (Fin 3) :=
  if src = dst then [src] else if src = 0 ∨ dst = 0 then [src, dst] else [src, 0, dst]

theorem linked_star {dp peer : Fin 3} :
    Linked starPorts dp peer ↔ dp ≠ peer ∧ (dp = 0 ∨ peer = 0) := by
  unfold Linked
  revert dp peer
  decide

theorem isPath_star (src dst : Fin 3) : IsPath (Linked starPorts) src dst (starPath src dst) := by
  unfold starPath
  split
  next same =>
    subst same
    exact .single src
  next different =>
    split
    next direct => exact .cons (linked_star.mpr ⟨different, direct⟩) (.single dst)
    next indirect =>
      rw [not_or] at indirect
      exact .cons (linked_star.mpr ⟨indirect.1, .inr rfl⟩)
        (.cons (linked_star.mpr ⟨Ne.symm indirect.2, .inl rfl⟩) (.single dst))

/-- There are no other paths as short. -/
theorem star_shortest {src dst : Fin 3} {path : List (Fin 3)}
    (isPath : IsPath (Linked starPorts) src dst path)
    (short : path.length ≤ (starPath src dst).length) : path = starPath src dst := by
  have three : ∀ src dst, (starPath src dst).length ≤ 3 := by decide
  rcases isPath.eq_of_length_le (short.trans (three src dst)) with
    ⟨rfl, rfl⟩ | ⟨edge, rfl⟩ | ⟨middle, edge, edge', rfl⟩
  · simp [starPath]
  · rw [linked_star] at edge
    simp [starPath, edge.1, edge.2]
  · rw [linked_star] at edge edge'
    unfold starPath at short ⊢
    split at short
    next => simp at short
    next different =>
      split at short
      next => simp at short
      next indirect =>
        rw [not_or] at indirect
        rw [if_neg different, if_neg (not_or.mpr indirect), edge.2.resolve_left indirect.1]

/-- A root with two neighbours. -/
def star : Topology (Fin 3) where
  root := 0
  stackPorts := starPorts
  hostPorts := fun _ => [⟨5, false, true⟩]
  numbers := by decide
  bothEnds := by decide
  noLoop := by decide
  connected := fun dp => ⟨_, isPath_star dp 0⟩
  allShortestPaths := fun src dst => [starPath src dst]
  mem_allShortestPaths := by
    intro src dst path
    rw [List.mem_singleton]
    constructor
    · intro same
      subst same
      refine ⟨isPath_star src dst, fun other isPath => ?_⟩
      by_contra shorter
      have same := star_shortest isPath (by omega)
      exact shorter (by rw [same])
    · intro isShortest
      exact star_shortest isShortest.isPath (isShortest.shortest _ (isPath_star src dst))

end Faucet.Stack
