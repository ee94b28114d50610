import Faucet.Flooding.Ports
import Faucet.Stack.LinkGraph

/-!
# The stack managers while links change

Every datapath of a stack works out from its own graph, and from those of its neighbours,
which of its ports lead towards the root and which away from it. It does so again whenever
its graph changes (`update_stack_topo`), one datapath after the other.

Once in a while every valve looks at its own stack ports (`fast_state_expire`). Where one of
them has changed its state, the graphs of its own datapath and of those that are running are
changed, and messages are made for all of these that are running.

The paths are those of a graph library.
-/

set_option autoImplicit false

namespace Faucet.Stack

open Lldp (stackPortUpdate)

/-! ## Configuration -/

/-- The stack ports of all datapaths, what each datapath takes to be the root, and the
paths of the graph library; without a path there is no shortest one. -/
structure Fabric (Dp E : Type) [LinearOrder E] extends Cabling Dp E where
  dps : List Dp
  rootName : Dp → Dp
  stackPort : E → Flooding.Port
  allShortestPaths : Finset (E × E) → Dp → Dp → List (List Dp)

/-- The order in which a set of valves is taken. -/
structure ValveOrder (Dp : Type) where
  run : List Dp → List Dp
  perm : ∀ valves, (run valves).Perm valves

/-- What `reset_peer_distances` works out. -/
structure Distances (E : Type) where
  towardsRootPorts : List E
  chosenTowardsPorts : List E
  chosenTowardsPort : Option E
  awayPorts : List E
  inactiveAwayPorts : List E
  prunedAwayPorts : List E
deriving DecidableEq, Repr

namespace Distances

variable {E : Type} [DecidableEq E] (distances : Distances E)

/-- `is_pruned_port` -/
def isPrunedPort (port : E) : Bool :=
  if port ∈ distances.towardsRootPorts then distances.chosenTowardsPort ≠ some port
  else if port ∈ distances.awayPorts then port ∈ distances.prunedAwayPorts
  else true

end Distances

/-- The links with what the stack managers know. -/
structure Nodes (Dp E : Type) extends Links Dp E where
  distances : Dp → Distances E
  staleRoot : Dp → Bool

namespace Fabric

variable {Dp E : Type} [LinearOrder Dp] [LinearOrder E] (fabric : Fabric Dp E)

/-- The number of a stack port. -/
def number (port : E) : OpenFlow.PortNo := (fabric.stackPort port).number

/-- The datapath at the other end. -/
def peerDp (port : E) : Dp := fabric.dp (fabric.peer port)

/-- The stack ports of a datapath. -/
def stackPorts (self : Dp) : List E := fabric.ports.filter fun port => fabric.dp port = self

/-- `adjacent_stack_ports` -/
def adjacentStackPorts (self peerDp : Dp) : List E :=
  (fabric.stackPorts self).filter fun port => fabric.peerDp port = peerDp

/-- `canonical_port_order` -/
def canonicalPortOrder (ports : List E) : List E :=
  ports.insertionSort fun first second => fabric.number first ≤ fabric.number second

/-! ## Distances -/

section Distances

variable (links : Links Dp E)

/-- `canonical_up_ports` -/
def canonicalUpPorts (ports : List E) : List E :=
  fabric.canonicalPortOrder (ports.filter fun port => links.state port = .up)

/-- `shortest_path` in the graph of a datapath. -/
def shortestPath (self destDp srcDp : Dp) : List Dp :=
  ((fabric.allShortestPaths (links.graph self) srcDp destDp).insertionSort (· ≤ ·)).headD []

/-- `shortest_path_to_root` -/
def shortestPathToRoot (self srcDp : Dp) : List Dp :=
  fabric.shortestPath links self (fabric.rootName self) srcDp

/-- `is_root` -/
def isRoot (self : Dp) : Bool := self = fabric.rootName self

/-- `longest_path_to_root_len` -/
def longestPathToRootLen (self : Dp) : Option ℕ :=
  (fabric.dps.map fun dp => (fabric.shortestPathToRoot links self dp).length).max?

/-- `is_edge` -/
def isEdge (self : Dp) : Bool :=
  !fabric.isRoot self &&
    fabric.longestPathToRootLen links self = some (fabric.shortestPathToRoot links self self).length

/-- The length of the path to the root that the peer knows. -/
def portPeerDistance (port : E) : ℕ :=
  (fabric.shortestPathToRoot links (fabric.peerDp port) (fabric.peerDp port)).length

/-- The ports whose peers are closest to the root. -/
def towardsRootPorts (allPeerPorts : List E) : List E :=
  allPeerPorts.filter fun port =>
    some (fabric.portPeerDistance links port) =
      (allPeerPorts.map (fabric.portPeerDistance links)).min?

/-- The datapath of the ports that are chosen. -/
def firstPeerDp (self : Dp) (towards : List E) : Option Dp :=
  match fabric.shortestPathToRoot links self self with
  | _ :: peerDp :: _ => some peerDp
  | _ => (fabric.canonicalPortOrder towards).head?.map fabric.peerDp

/-- The ports whose peers do not reach the root through this datapath. -/
def inactiveAwayPorts (self : Dp) (awayPorts : List E) : List E :=
  awayPorts.filter fun port => self ∉ fabric.shortestPathToRoot links self (fabric.peerDp port)

/-- The ports to each adjacent datapath but the one that is first at the other end. -/
def prunedAwayPorts (awayPorts : List E) : List E :=
  (OrderedDict.values id (awayPorts.map fabric.peerDp)).flatMap fun peerDp =>
    let ports := awayPorts.filter fun port => fabric.peerDp port = peerDp
    let remoteAwayPorts := fabric.canonicalUpPorts links (ports.map fabric.peer)
    (remoteAwayPorts.filter fun port => some port ≠ remoteAwayPorts.head?).map fabric.peer

/-- `reset_peer_distances` -/
def resetPeerDistances (self : Dp) : Distances E :=
  let allPeerPorts := fabric.canonicalUpPorts links (fabric.stackPorts self)
  if fabric.isRoot self then
    { towardsRootPorts := []
      chosenTowardsPorts := []
      chosenTowardsPort := none
      awayPorts := allPeerPorts
      inactiveAwayPorts := fabric.inactiveAwayPorts links self allPeerPorts
      prunedAwayPorts := fabric.prunedAwayPorts links allPeerPorts }
  else
    let towards := fabric.towardsRootPorts links allPeerPorts
    let chosen := towards.filter fun port =>
      some (fabric.peerDp port) = fabric.firstPeerDp links self towards
    let away := allPeerPorts.filter fun port => port ∉ towards
    { towardsRootPorts := towards
      chosenTowardsPorts := chosen
      chosenTowardsPort := (fabric.canonicalUpPorts links chosen).head?
      awayPorts := away
      inactiveAwayPorts := fabric.inactiveAwayPorts links self away
      prunedAwayPorts := fabric.prunedAwayPorts links away }

end Distances

/-! ## Changes -/

/-- `update_stack_topo` of one valve. -/
def updateStackTopo (portUp : Bool) (port : E) (nodes : Nodes Dp E) (stackValve : Dp) :
    Nodes Dp E :=
  let graph := fabric.modifyTopology (nodes.graph stackValve) port portUp
  let links : Links Dp E :=
    { nodes.toLinks with graph := Function.update nodes.graph stackValve graph }
  { nodes with
    toLinks := links
    distances := Function.update nodes.distances stackValve
      (fabric.resetPeerDistances links stackValve) }

/-- The valve and the others that are running. -/
def stackedValves (order : ValveOrder Dp) (nodes : Nodes Dp E) (self : Dp) : List Dp :=
  order.run (fabric.dps.filter fun dp => dp = self ∨ nodes.dynRunning dp = true)

/-- The update of one port, with the number of changes so far. -/
def updatePort (order : ValveOrder Dp) (now : ℚ) (self : Dp) (current : Nodes Dp E × ℕ)
    (port : E) : Option (Nodes Dp E × ℕ) :=
  let (nodes, stackChanges) := current
  match stackPortUpdate (fabric.conf port) now (nodes.port port) with
  | .ok (after, some _) =>
      let next : Nodes Dp E := { nodes with toLinks := nodes.toLinks.setPort port after }
      if nodes.state port = after.stackState then some (next, stackChanges)
      else
        let portUp := next.portUp fabric.toCabling port
        some ((fabric.stackedValves order nodes self).foldl (fabric.updateStackTopo portUp port) next,
          stackChanges + 1)
  | _ => none

/-- The stack after a valve has looked at its ports, and the valves that messages are made
for. -/
structure Outcome (Dp E : Type) where
  nodes : Nodes Dp E
  recipients : List Dp

/-- `update_stack_link_state`; `none` when it raises. -/
def updateStackLinkState (order : ValveOrder Dp) (now : ℚ) (self : Dp) (ports : List E)
    (nodes : Nodes Dp E) : Option (Outcome Dp E) :=
  (ports.foldlM (fabric.updatePort order now self) (nodes, 0)).map fun (next, stackChanges) =>
    if stackChanges ≠ 0 ∨ next.staleRoot self = true then
      { nodes := { next with staleRoot := Function.update next.staleRoot self false }
        recipients := (fabric.stackedValves order next self).filter fun dp => next.dynRunning dp }
    else ⟨next, []⟩

/-- What `fast_state_expire` does about stack ports. -/
def fastStateExpire (order : ValveOrder Dp) (now : ℚ) (nodes : Nodes Dp E) (self : Dp) :
    Option (Outcome Dp E) :=
  fabric.updateStackLinkState order now self (fabric.stackPorts self) nodes

/-- The loop of `valve_flow_services` over the valves. -/
def valveFlowServices (order : ValveOrder Dp) (now : ℚ) :
    List Dp → Nodes Dp E → Option (List (Outcome Dp E))
  | [], _ => some []
  | valve :: rest, nodes =>
      (fabric.fastStateExpire order now nodes valve).bind fun outcome =>
        (valveFlowServices order now rest outcome.nodes).map (outcome :: ·)

end Fabric

end Faucet.Stack
