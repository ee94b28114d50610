import Faucet.Lacp.VlanRules
import Faucet.OpenFlow.Provenance
import Faucet.Switching.Packets

/-!
# What the managers of a datapath write

A datapath without ACLs, routing, stacking and the egress pipeline has the tables for
VLANs, classification, sources, destinations and flooding. None of its ports is for a
coprocessor, under 802.1X or the local port of the switch. The managers write to them when
the datapath starts, when VLANs and ports are added or deleted, when a LAG changes, and
when a host is learned from a packet that the switch has sent to the controller.

The calls may come in any order and be put together in any batches, and flows may expire at
any time.
-/

set_option autoImplicit false

namespace Faucet.Switching

open OpenFlow
open Flooding (Vid VlanConf popVlan setExternalForwardingRequested
  setNoExternalForwardingRequested macByteMask)
open Learning (Mac inPort vlanVid ethSrc lowPriority filterPriority)
open Lacp (ofppController nullVlan)

/-! ## Ports -/

/-- A port with the options that flooding and the VLAN table read. -/
structure Port extends Learning.Port where
  unicastFlood : Bool
  restrictedBcastArpnd : Bool
  countUntagVlanMiss : Bool
  receiveLldp : Bool
  outputOnly : Bool
  opstatusReconf : Bool
deriving DecidableEq

namespace Port

variable (port : Port) (vid : Vid)

/-- `_native_vlan` of the switch manager. -/
def untaggedVlan : Option Vid := port.dynDot1xNativeVlan.or port.nativeVlan

/-- Packets with these tags are of the VLAN when they come in by the port; `inner` are the
tags under that of the VLAN. -/
def Carries (tags : List Vid) (inner : List Vid) : Prop :=
  vid ∈ port.taggedVlans ∧ tags = vid :: inner ∨
    port.isUntagged vid = true ∧ tags = [] ∧ inner = []

/-- A packet of the VLAN has these tags when it goes out by the port. -/
def Wears (inner : List Vid) (tags : List Vid) : Prop :=
  vid ∈ port.taggedVlans ∧ tags = vid :: inner ∨ port.isUntagged vid = true ∧ tags = inner

/-- The port is in the VLAN. -/
def IsIn : Prop := vid ∈ port.taggedVlans ∨ port.isUntagged vid = true

/-- The port in a state. -/
def inState (state : Lacp.Port) : Lacp.Port :=
  { state with number := port.number, lacp := port.lacp }

/-- The port as it is for flooding. -/
def flooding (state : Lacp.Port) : Flooding.Port where
  toPort := port.inState state
  hairpin := port.hairpin
  mirror := port.mirror
  unicastFlood := port.unicastFlood
  restrictedBcastArpnd := port.restrictedBcastArpnd
  loopProtectExternal := port.loopProtectExternal
  nativeVlan := port.nativeVlan
  dynDot1xNativeVlan := port.dynDot1xNativeVlan
  taggedVlans := port.taggedVlans

end Port

/-! ## The datapath -/

/-- The largest number of a port, below those that stand for something else. -/
def ofppMax : PortNo := 0xffffff00

/-- A datapath whose managers share their tables and ports. -/
structure Datapath where
  ports : List Port
  learning : Learning.Dp
  flooding : Flooding.Dp
  lag : Lacp.Datapath
  dropSpoofedFaucetMac : Bool
  dropBroadcastSourceAddress : Bool
  learningPorts : learning.ports = ports.map Port.toPort
  noEgress : learning.egressTable = none
  apart : ([lag.vlanTable, learning.ethSrcTable, learning.ethDstTable, flooding.floodTable] ++
    learning.classification.toList ++ learning.ethDstHairpinTable.toList).Nodup
  numbers : ∀ port ∈ ports, port.number < ofppMax ∧ ∀ mirror ∈ port.mirror, mirror < ofppMax

namespace Datapath

variable (dp : Datapath)

/-- The ports in the states that their numbers have. -/
def floodPorts (states : PortNo → Lacp.Port) : List Flooding.Port :=
  dp.ports.map fun port => port.flooding (states port.number)

/-! ## The VLAN table -/

/-- The instructions of `_port_add_vlan_rules`. -/
def vlanInst (port : Port) (pushes : Option Vid) : List Instruction :=
  let actions := port.mirrorActions ++ (pushes.toList.flatMap fun vid => [pushVlan, setVlanVid vid]) ++
    if dp.learning.hasExternals then
      if port.loopProtectExternal then [setNoExternalForwardingRequested]
      else [setExternalForwardingRequested]
    else []
  (if actions = [] then [] else [.applyActions actions]) ++
    [.gotoTable dp.learning.classificationTable]

/-- The port as it is for the rules of the VLAN table. -/
def lagPort (port : Port) (state : Lacp.Port) (updated : Option ℤ) : Lacp.LagPort where
  toPort := port.inState state
  nativeVlan := port.untaggedVlan.map fun vid => (vid, dp.vlanInst port (some vid))
  taggedVlans := port.taggedVlans.map fun vid => (vid, dp.vlanInst port none)
  countUntagVlanMiss := port.countUntagVlanMiss
  receiveLldp := port.receiveLldp
  outputOnly := port.outputOnly
  coprocessor := none
  stack := none
  opstatusReconf := port.opstatusReconf
  dynLacpUpdatedTime := updated

/-! ## Messages -/

/-- `filter_packets` of the pipeline. -/
def filterPackets (fields : Match) (priorityOffset : ℕ) : FlowMod :=
  dp.learning.flowdrop dp.learning.classificationTable fields (filterPriority + priorityOffset) 0

/-- `_add_default_drop_flows` for a table, with the table that a miss goes to. -/
def missFlow (table : Fin 255) (miss : Option (Fin 255)) : FlowMod :=
  dp.learning.flowmod table .any dp.flooding.lowestPriority
    (miss.toList.map fun next => .gotoTable next) 0 0

/-- The tables with those that a miss goes to. -/
def tables : List (Fin 255 × Option (Fin 255)) :=
  (dp.lag.vlanTable, none) ::
    (dp.learning.classification.toList.map fun table => (table, some dp.learning.ethSrcTable)) ++
    (dp.learning.ethSrcTable, some dp.learning.ethDstTable) ::
    (dp.learning.ethDstHairpinTable.toList.map fun table => (table, some dp.learning.ethDstTable)) ++
    [(dp.learning.ethDstTable, some dp.flooding.floodTable), (dp.flooding.floodTable, none)]

/-- `_add_default_flows` and `initialise_tables` of the managers. -/
def defaultFlows : List Ofmsg :=
  .flowMod Lacp.Datapath.wildcardFlowdel ::
    (if dp.flooding.useGroupTable then [.groupMod (.delete ofpgAll)] else []) ++
    (dp.tables.map (fun entry => dp.missFlow entry.1 entry.2) ++ dp.flooding.initialiseTables ++
      (if dp.dropBroadcastSourceAddress then
        [dp.filterPackets (.single (ethSrc 0xffffffffffff)) 0] else []) ++
      [dp.filterPackets (.single ⟨5, 0x9000, none⟩) 10]).map .flowMod

/-- The rule of a VLAN in the source table: packets of hosts that are not known. -/
def unknownSource (vid : Vid) : FlowMod :=
  dp.learning.flowmod dp.learning.ethSrcTable (.single (vlanVid vid)) lowPriority
    [.applyActions [.output ofppController], .gotoTable dp.learning.outputTable] 0 0

/-- `add_vlan` of the managers. -/
def addVlan (conf : VlanConf) (faucetMac : Mac) (states : PortNo → Lacp.Port) (coldStart : Bool) :
    List Ofmsg :=
  if conf.reservedInternalVlan then []
  else
    ((if dp.dropSpoofedFaucetMac then [dp.filterPackets (.single (ethSrc faucetMac)) 0] else []) ++
      [dp.unknownSource conf.vid]).map .flowMod ++
      dp.flooding.addVlan (conf.resetPorts (dp.floodPorts states)) coldStart

/-- `del_vlan` of the managers; the filter goes when no VLAN has the MAC address. -/
def delVlan (vid : Vid) (faucetMac : Mac) (unused : Bool) : List Ofmsg :=
  ([dp.learning.flowdel dp.flooding.floodTable (.single (vlanVid vid)),
      dp.learning.flowdel dp.learning.ethSrcTable (.single (vlanVid vid))] ++
    if dp.dropSpoofedFaucetMac && unused then
      [{ dp.learning.flowdel dp.learning.classificationTable (.single (ethSrc faucetMac)) with
        command := .deleteStrict
        priority := filterPriority }]
    else []).map .flowMod

/-- `_del_host_flows` -/
def delHostFlows (portNum : PortNo) : List FlowMod :=
  dp.learning.flowdel dp.learning.ethSrcTable (.single (inPort portNum)) ::
    (dp.learning.ethDstTable :: dp.learning.ethDstHairpinTable.toList).map fun table =>
      { dp.learning.flowdel table .any with outPort := some portNum }

/-! ## Calls -/

/-- A packet that the switch has sent to the controller, with the id of its outer tag. -/
structure PacketIn where
  inPort : PortNo
  vid : Vid
  ethSrc : Mac
deriving DecidableEq

/-- The calls of the managers, each for a configured VLAN or port. -/
inductive Call (dp : Datapath) where
  | addVlan (conf : VlanConf) (known : conf ∈ dp.flooding.vlans) (faucetMac : Mac)
      (states : PortNo → Lacp.Port) (coldStart : Bool)
  | delVlan (vid : Vid) (faucetMac : Mac) (unused : Bool)
  | updateVlan (conf : VlanConf) (known : conf ∈ dp.flooding.vlans) (states : PortNo → Lacp.Port)
  | addPort (port : Port) (known : port ∈ dp.ports) (state : Lacp.Port)
  | delPort (port : Port) (known : port ∈ dp.ports) (state : Lacp.Port)
  | enableForwarding (portNum : PortNo)
  | disableForwarding (portNum : PortNo)
  /-- Loop protection, or too many hosts. -/
  | tempBan (fields : Match)
  | filterHost (mac : Mac) (portNum : PortNo)
  | learnHost (port : Port) (known : port ∈ dp.ports) (vid : Vid) (mac : Mac)
      (deleteExisting refreshRules : Bool)
  | deleteHost (mac : Mac) (vid : Vid)

namespace Call

variable {dp}

/-- The messages of a call. -/
def messages : Call dp → List Ofmsg
  | addVlan conf _ faucetMac states coldStart => dp.addVlan conf faucetMac states coldStart
  | delVlan vid faucetMac unused => dp.delVlan vid faucetMac unused
  | updateVlan conf _ states => dp.flooding.updateVlan (conf.resetPorts (dp.floodPorts states))
  | addPort port _ state => (dp.lag.managersAddPort (dp.lagPort port state none)).map .flowMod
  | delPort port _ state =>
      (dp.lag.managersDelPort (dp.lagPort port state none) ++ dp.delHostFlows port.number).map .flowMod
  | enableForwarding portNum => [.flowMod (dp.lag.enableForwarding portNum)]
  | disableForwarding portNum => [.flowMod (dp.lag.disableForwarding portNum)]
  | tempBan fields => [.flowMod (dp.learning.tempBanHostLearning fields)]
  | filterHost mac portNum => [.flowMod (dp.learning.filterPackets mac portNum)]
  | learnHost port _ vid mac deleteExisting refreshRules =>
      (dp.learning.learnHostOnVlanPortFlows port.toPort vid mac deleteExisting refreshRules).map
        .flowMod
  | deleteHost mac vid => (dp.learning.deleteHostFromVlan mac vid).map .flowMod

/-- A host is learned only from a packet of a configured VLAN that was sent to the
controller. -/
def Permitted (packetIns : List PacketIn) : Call dp → Prop
  | learnHost port _ vid mac _ _ =>
      ⟨port.number, vid, mac⟩ ∈ packetIns ∧ vid ∈ dp.flooding.vlans.map (·.vid)
  | _ => True

end Call

/-! ## Runs -/

/-- The switch, and what it has sent to the controller. -/
structure State where
  switch : Switch
  packetIns : List PacketIn

/-- Messages are sent, a packet goes to the controller, or flows expire. Only packets that meet
the guard come in. -/
inductive Step (dp : Datapath) (guard : Packet → Prop) : State → State → Prop where
  | send {state : State} {next : Switch} (calls : List (Call dp))
      (permitted : ∀ call ∈ calls, call.Permitted state.packetIns)
      (gets : state.switch.Gets (calls.flatMap fun call => call.messages) next) :
      Step dp guard state { state with switch := next }
  | packetIn {state : State} (packet : Packet) (vid : Vid) (inner : List Vid)
      (meets : guard packet)
      (sends : Sends state.switch dp.lag.vlanTable packet ⟨ofppController, vid :: inner⟩) :
      Step dp guard state
        { state with packetIns := ⟨packet.inPort, vid, packet.ethSrc⟩ :: state.packetIns }
  | expire {state : State} (gone : FlowId → Bool) :
      Step dp guard state
        { state with switch :=
          { state.switch with flows := fun flow => if gone flow then none else state.switch.flows flow } }

/-- After a cold start: what was there is deleted, and nothing has been sent to the
controller. -/
def ColdStart (state : State) : Prop :=
  state.packetIns = [] ∧ ∃ (before : Switch) (calls : List (Call dp)),
    (∀ call ∈ calls, call.Permitted []) ∧
      before.Gets (dp.defaultFlows ++ calls.flatMap fun call => call.messages) state.switch

/-- States in the runs after a cold start. -/
def Reached (guard : Packet → Prop) (state : State) : Prop :=
  ∃ start, dp.ColdStart start ∧ Relation.ReflTransGen (Step dp guard) start state

/-! ## Isolation -/

/-- The port outputs a packet of the VLAN: by itself, with the tags of the VLAN, or by its
mirrors. A packet goes back where it came from only by a hairpin. -/
structure Leaves (packet : Packet) (vid : Vid) (inner : List Vid) (port : Port) (out : Output) :
    Prop where
  wears : port.Wears vid inner out.tags
  output : out.port ∈ port.number :: port.mirror
  back : out.port = packet.inPort → out.port = port.number ∧ port.hairpinning = true

/-- Where a packet may go: to the controller, to the mirrors of the port that it came in by,
and to ports of its VLAN. -/
inductive Within (packet : Packet) (out : Output) : Prop where
  | controller (isController : out.port = ofppController)
  | mirrored (port : Port) (known : port ∈ dp.ports) (number : port.number = packet.inPort)
      (isMirror : out.port ∈ port.mirror) (tags : out.tags = packet.tags)
  | member (ingress egress : Port) (known : ingress ∈ dp.ports) (known' : egress ∈ dp.ports)
      (number : ingress.number = packet.inPort) (vid : Vid) (inner : List Vid)
      (carries : ingress.Carries vid packet.tags inner)
      (leaves : Leaves packet vid inner egress out)

/-- Packets are isolated: each goes only where it may. -/
def Isolates (switch : Switch) : Prop :=
  ∀ packet out, Sends switch dp.lag.vlanTable packet out → dp.Within packet out

/-- The port sends the packet to the controller as it comes in, for LACP or LLDP. -/
def ToController (port : Port) (packet : Packet) : Prop :=
  port.number = packet.inPort ∧
    (port.lacp ≠ 0 ∧ packet.accepted (Lacp.Datapath.lacpMatch port.number) = true ∨
      port.receiveLldp = true ∧ packet.accepted (Lacp.Datapath.lldpMatch port.number) = true)

/-- A packet for LACP or LLDP has no tag of a configured VLAN that its port is not in. -/
def Orderly (packet : Packet) : Prop :=
  ∀ port ∈ dp.ports, ToController port packet → ∀ vid ∈ dp.flooding.vlans.map (·.vid),
    packet.tags.head? = some vid → port.IsIn vid

end Datapath

end Faucet.Switching
