import Faucet.Lacp.Port
import Faucet.Learning.Hosts
import Faucet.OpenFlow.TableMessages

/-!
# The rules of a port in the VLAN table

The managers write rules for a port to the `vlan` table: for the packets of its VLANs, for
its LACP and LLDP packets, for a stack port, a coprocessor or a port that is for output only,
and the rule that drops everything of a LACP port that does not forward (`dropFlow`).

Of the messages that `lacp_update` sends, only `disable_forwarding` and `enable_forwarding` touch
the drop rule of the port, and no message about another port does.
-/

set_option autoImplicit false

namespace Faucet.Lacp

open OpenFlow
open Flooding (Vid)
open Learning (inPort ethDst vlanVid)

/-! ## Ports and the datapath -/

/-- A port with what its rules are made of; a VLAN, a coprocessor and a stack link come with
the instructions of their rule. -/
structure LagPort extends Port where
  /-- `_native_vlan`, which 802.1X may have set. -/
  nativeVlan : Option (Vid × List Instruction)
  taggedVlans : List (Vid × List Instruction)
  countUntagVlanMiss : Bool
  receiveLldp : Bool
  outputOnly : Bool
  coprocessor : Option (List Instruction)
  stack : Option (List Instruction)
  opstatusReconf : Bool
  dynLacpUpdatedTime : Option ℤ
deriving DecidableEq, Repr

namespace LagPort

/-- `port.vlans()` is not empty. -/
def hasVlans (port : LagPort) : Bool := port.nativeVlan.isSome || !port.taggedVlans.isEmpty

/-- The port is selected and its actor is up. -/
def forwards (port : LagPort) : Bool := port.isPortSelected && port.isActorUp

/-- `lacp_actor_update`, with the time of the update. -/
def actorUpdate (port : LagPort) (lacpUp lacpPkt coldStart : Bool) (now : Option ℤ) : LagPort :=
  { port with
    toPort := port.toPort.lacpActorUpdate lacpUp lacpPkt coldStart
    dynLacpUpdatedTime := now }

/-- `lacp_port_update` -/
def portUpdate (port : LagPort) (selected coldStart : Bool) : LagPort :=
  { port with toPort := port.toPort.lacpPortUpdate selected coldStart }

/-- The port comes up, or goes down. -/
def setPhysUp (port : LagPort) (physUp : Bool) : LagPort :=
  { port with toPort := { port.toPort with dynPhysUp := physUp } }

end LagPort

/-- What the rules of the `vlan` table share. The priorities of the rules for all that a port
sends differ, as those that are set by default do. -/
structure Datapath where
  vlanTable : Fin 255
  flowCookie : ℕ
  flags : ℕ
  lowestPriority : ℕ
  lowPriority : ℕ
  highPriority : ℕ
  highestPriority : ℕ
  highest_ne : highestPriority ≠ highPriority
  low_ne : lowPriority ≠ highPriority
  managerLow_ne : Learning.lowPriority ≠ highPriority
  /-- Where a packet without a rule goes. -/
  missInst : List Instruction
  lacpTimeout : ℤ

/-- `ETH_TYPE_SLOW`. -/
def ethTypeSlow : OxmField := ⟨5, 0x8809, none⟩
/-- `ETH_TYPE_LLDP`. -/
def ethTypeLldp : OxmField := ⟨5, 0x88cc, none⟩
/-- `SLOW_PROTOCOL_MULTICAST`. -/
def slowProtocolMulticast : ℕ := 0x0180c2000002
/-- `LLDP_MAC_NEAREST_BRIDGE` under `BRIDGE_GROUP_MASK`. -/
def lldpMacNearestBridge : OxmField := ⟨3, 0x0180c200000e, some 0xfffffffffff0⟩
/-- The match of `NullVLAN`, `OFPVID_NONE`. -/
def nullVlan : OxmField := ⟨6, 0, none⟩
/-- `OFPP_CONTROLLER`. -/
def ofppController : PortNo := 0xfffffffd

namespace Datapath

variable (dp : Datapath)

/-! ## Messages -/

/-- `ValveTable.flowmod` for the VLAN table. -/
def flowmod (fields : Match) (priority : ℕ) (instructions : List Instruction) : FlowMod where
  command := .add
  tableId := dp.vlanTable
  priority := priority
  cookie := dp.flowCookie
  outPort := some 0
  matchFields := fields
  instructions := instructions
  hardTimeout := 0
  idleTimeout := 0
  flags := dp.flags

/-- `ValveTable.flowdel` for the VLAN table. -/
def flowdel (fields : Match) (priority : ℕ) (strict : Bool) : FlowMod where
  command := if strict then .deleteStrict else .delete
  tableId := dp.vlanTable
  priority := priority
  cookie := dp.flowCookie
  outPort := none
  matchFields := fields
  instructions := []
  hardTimeout := 0
  idleTimeout := 0
  flags := dp.flags

/-- `ValveTable.flowdrop` for the VLAN table. -/
def flowdrop (fields : Match) (priority : ℕ) : FlowMod := dp.flowmod fields priority []

/-- `ValveTable.flowcontroller` for the VLAN table. -/
def flowcontroller (fields : Match) (priority : ℕ) : FlowMod :=
  dp.flowmod fields priority [.applyActions [.output ofppController]]

/-- Packets of the port with this VLAN. -/
def vlanMatch (portNum : PortNo) (vid : Vid) : Match := .ofFields [inPort portNum, vlanVid vid]

/-- Packets of the port without a VLAN. -/
def nullVlanMatch (portNum : PortNo) : Match := .ofFields [inPort portNum, nullVlan]

/-- All packets of the port. -/
def portMatch (portNum : PortNo) : Match := .single (inPort portNum)

/-- LACP packets of the port. -/
def lacpMatch (portNum : PortNo) : Match :=
  .ofFields [inPort portNum, ethDst slowProtocolMulticast, ethTypeSlow]

/-- LLDP packets of the port. -/
def lldpMatch (portNum : PortNo) : Match :=
  .ofFields [inPort portNum, lldpMacNearestBridge, ethTypeLldp]

/-! ## The managers -/

/-- `add_port` of the switch manager, also of the one for stacks. -/
def addPort (port : LagPort) : List FlowMod :=
  (if port.hasVlans then
    port.taggedVlans.map (fun vlan =>
      dp.flowmod (vlanMatch port.number vlan.1) Learning.lowPriority vlan.2) ++
    (match port.nativeVlan with
      | some vlan => [dp.flowmod (nullVlanMatch port.number) Learning.lowPriority vlan.2]
      | none =>
          if port.countUntagVlanMiss then
            [dp.flowdrop (nullVlanMatch port.number) Learning.lowPriority]
          else []) ++
    if port.lacp ≠ 0 then [dp.flowcontroller (lacpMatch port.number) dp.highestPriority] else []
  else []) ++
  match port.stack with
  | some inst =>
      [dp.flowdrop (nullVlanMatch port.number) (Learning.lowPriority + 1),
        dp.flowmod (portMatch port.number) Learning.lowPriority inst]
  | none => []

/-- `del_port` of the switch manager. -/
def delPort (port : LagPort) : List FlowMod :=
  if port.hasVlans then
    (if port.nativeVlan.isSome || port.countUntagVlanMiss then
      [dp.flowdel (nullVlanMatch port.number) Learning.lowPriority false] else []) ++
    port.taggedVlans.map (fun vlan =>
      dp.flowdel (vlanMatch port.number vlan.1) Learning.lowPriority false) ++
    if port.lacp ≠ 0 then [dp.flowdel (lacpMatch port.number) dp.highestPriority false] else []
  else []

/-- `add_port` of all managers. -/
def managersAddPort (port : LagPort) : List FlowMod :=
  dp.addPort port ++
  (if port.receiveLldp then [dp.flowcontroller (lldpMatch port.number) dp.highestPriority]
    else []) ++
  (match port.coprocessor with
    | some inst => [dp.flowmod (portMatch port.number) dp.lowPriority inst]
    | none => []) ++
  if port.outputOnly then [dp.flowdrop (portMatch port.number) dp.highestPriority] else []

/-- `del_port` of all managers. -/
def managersDelPort (port : LagPort) : List FlowMod :=
  dp.delPort port ++
  (if port.receiveLldp then [dp.flowdel (lldpMatch port.number) dp.highestPriority false]
    else []) ++
  if port.outputOnly then [dp.flowdel (portMatch port.number) dp.highestPriority false] else []

/-- The drop rule of the port is deleted. -/
def enableForwarding (portNum : PortNo) : FlowMod :=
  dp.flowdel (portMatch portNum) dp.highPriority true

/-- The drop rule of the port. -/
def disableForwarding (portNum : PortNo) : FlowMod :=
  dp.flowdrop (portMatch portNum) dp.highPriority

/-- `lacp_update`; `selected` says whether the port's DP is the nominated one. -/
def lacpUpdate (port : LagPort) (lacpUp lacpPkt coldStart selected : Bool) (now : Option ℤ) :
    LagPort × List FlowMod :=
  let start := if coldStart then
      (port.actorUpdate lacpUp lacpPkt true now).portUpdate selected true
    else port
  let next := (start.actorUpdate lacpUp lacpPkt false now).portUpdate selected false
  let updated := start.dynLacpActorState ≠ next.dynLacpActorState
  let selectUpdated := start.dynLacpPortSelected ≠ next.dynLacpPortSelected
  (next,
    if updated ∨ selectUpdated then
      if next.forwards then [dp.enableForwarding next.number]
      else dp.disableForwarding next.number ::
        if coldStart then [] else dp.delPort next ++ dp.addPort next
    else [])

/-- `flowdel` of the `wildcard_table`, for all flows of all tables. -/
def wildcardFlowdel : FlowMod where
  command := .delete
  tableId := ofpttAll
  priority := 0
  cookie := 0
  outPort := none
  matchFields := .any
  instructions := []
  hardTimeout := 0
  idleTimeout := 0
  flags := 0

/-- The first messages of a cold start about the table. -/
def defaultFlows : List FlowMod :=
  [wildcardFlowdel, dp.flowmod .any dp.lowestPriority dp.missInst]

/-- What the drop rule of a port is. -/
def dropFlow (portNum : PortNo) : FlowId where
  tableId := dp.vlanTable
  priority := dp.highPriority
  matchFields := portMatch portNum

/-- The drop rule as it is installed. -/
def dropEntry : FlowEntry := (dp.disableForwarding 0).entry

end Datapath

end Faucet.Lacp
