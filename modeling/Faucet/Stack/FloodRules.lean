import Faucet.Library.Flood
import Faucet.Stack.Topology

/-!
# The flood rules of a stack

Every datapath has one flood rule for each of its ports, for broadcasts and for
destinations that nobody has learned. A rule outputs towards the root, away from
it and to the hosts of the datapath, in one of two ways: with reflection off the
root and without. A broadcast that comes in by a pruned port is dropped.

A frame is at a datapath, at the port it came in by. It goes out by the ports of
the rule, over the links to the next datapaths and to the hosts. A switch does not
send a frame out of the port it came in by unless it is told to do just that.

The VLAN has no link aggregation, external or restricted ports, and the ports that
others are mirrored to are not ports of the VLAN. A port has a rule of its own here,
also where the code leaves it to the rule of the VLAN, which outputs to the same ports
and to the port of the frame itself.
-/

set_option autoImplicit false

namespace Faucet.Stack

/-- The two managers of the flood rules, without and with reflection off the root. -/
inductive FloodMode where
  | noReflection
  | reflection
deriving DecidableEq, Repr

/-- The rules for broadcasts, and the one for destinations that are not known. -/
inductive FloodKind where
  | broadcast
  | unicast
deriving DecidableEq, Repr

/-- A port of a datapath. -/
inductive Port (Dp : Type) where
  | stack (port : StackPort Dp)
  | host (port : HostPort)
deriving DecidableEq

/-- An output action. -/
inductive Output (Dp : Type) where
  | port (port : Port Dp)
  | inPort
deriving DecidableEq

/-- A frame at a datapath, with the port it came in by. -/
structure Frame (Dp : Type) where
  dp : Dp
  inPort : Port Dp
deriving DecidableEq

variable {Dp : Type}

/-- The option `hairpin`, which stack ports do not have. -/
def Port.hairpin : Port Dp → Bool
  | stack _ => false
  | host port => port.hairpin

/-- `flood_tagged_port_outputs` -/
def floodTaggedPortOutputs [DecidableEq Dp] (ports : List (Port Dp)) (inPort : Port Dp)
    (excludePorts : List (Port Dp)) : List (Output Dp) :=
  ports.flatMap fun port =>
    if port = inPort then if inPort.hairpin then [.inPort] else []
    else if port ∈ excludePorts then []
    else [.port port]

namespace Topology

variable [LinearOrder Dp] (topology : Topology Dp) (self : Dp)

/-- The hosts that a frame is flooded to; a destination that is not known may be
kept from a port. -/
def floodPorts (kind : FloodKind) : List HostPort :=
  match kind with
  | .broadcast => topology.hostPorts self
  | .unicast => (topology.hostPorts self).filter (·.unicastFlood)

/-- The ports that a frame does not go away from the root by. -/
def excludePorts : Port Dp → List (StackPort Dp)
  | .stack inPort =>
      (topology.resetPeerDistances self).inactiveAwayPorts ++
        topology.adjacentStackPorts self inPort.peerDp
  | .host _ => (topology.resetPeerDistances self).inactiveAwayPorts

/-- The outputs to the hosts of the datapath. -/
def localFloodActions (kind : FloodKind) (inPort : Port Dp) : List (Output Dp) :=
  floodTaggedPortOutputs ((topology.floodPorts self kind).map .host) inPort []

/-- The outputs away from the root. -/
def awayFloodActions (inPort : Port Dp) : List (Output Dp) :=
  floodTaggedPortOutputs ((topology.resetPeerDistances self).awayPorts.map .stack) inPort
    ((topology.excludePorts self inPort).map .stack)

/-- The outputs towards the root. -/
def towardFloodActions (inPort : Port Dp) : List (Output Dp) :=
  floodTaggedPortOutputs ((topology.resetPeerDistances self).chosenTowardsPorts.map .stack) inPort []

/-- `_flood_actions` of the two managers. -/
def floodActions (mode : FloodMode) (kind : FloodKind) (inPort : Port Dp) : List (Output Dp) :=
  let localActions := topology.localFloodActions self kind inPort
  let away := topology.awayFloodActions self inPort
  let toward := topology.towardFloodActions self inPort
  match mode, inPort with
  | .noReflection, _ => toward ++ away ++ localActions
  | .reflection, .host _ =>
      if self = topology.root then away ++ localActions else toward
  | .reflection, .stack port =>
      if self = topology.root then
        if topology.isAway self port then away ++ [.inPort] ++ localActions
        else away ++ localActions
      else if topology.isAway self port then toward
      else if topology.isTowardsRoot self port then away ++ localActions
      else toward

/-- The rule for a port: a broadcast is dropped at a pruned port, and no port is
output to twice. -/
def floodRule (mode : FloodMode) (kind : FloodKind) (inPort : Port Dp) : List (Output Dp) :=
  let prune := match kind, inPort with
    | .broadcast, .stack port => topology.isPrunedPort self port
    | _, _ => false
  if prune then [] else OrderedDict.values id (topology.floodActions self mode kind inPort)

/-- The ports that the frame leaves by. -/
def leavesBy (mode : FloodMode) (kind : FloodKind) (frame : Frame Dp) : List (Port Dp) :=
  (topology.floodRule frame.dp mode kind frame.inPort).filterMap fun
    | .port port => if port = frame.inPort then none else some port
    | .inPort => some frame.inPort

/-- The frames that arrive at the next datapaths. -/
def next (mode : FloodMode) (kind : FloodKind) (frame : Frame Dp) : List (Frame Dp) :=
  (topology.leavesBy mode kind frame).filterMap fun
    | .stack port => some ⟨port.peerDp, .stack (port.peer frame.dp)⟩
    | .host _ => none

/-- The copies that hosts get. -/
def deliver (mode : FloodMode) (kind : FloodKind) (frame : Frame Dp) : List (Dp × HostPort) :=
  (topology.leavesBy mode kind frame).filterMap fun
    | .stack _ => none
    | .host port => some (frame.dp, port)

end Topology

end Faucet.Stack
