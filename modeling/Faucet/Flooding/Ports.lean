import Faucet.Lacp.Port
import Faucet.Library.OrderedDict
import Faucet.OpenFlow.Switch

/-!
# The ports of a VLAN and where a packet is flooded

A VLAN lists its ports (`reset_ports`). A packet is flooded to them, with their
mirrors, except for ports that are left out: those of the same LAG, all but one of
each other LAG, external ports beyond the first, and restricted ports.
-/

set_option autoImplicit false

namespace Faucet.Flooding

open OpenFlow (Act PortNo)

/-- A VLAN id. -/
abbrev Vid := ℕ

/-! ## Ports and VLANs -/

/-- A port; `mirror` has no ports when it is not configured. -/
structure Port extends Lacp.Port where
  hairpin : Bool
  mirror : List PortNo
  unicastFlood : Bool
  restrictedBcastArpnd : Bool
  loopProtectExternal : Bool
  nativeVlan : Option Vid
  dynDot1xNativeVlan : Option Vid
  taggedVlans : List Vid
deriving DecidableEq, Repr

/-- All VLANs the port is in. -/
def Port.vlans (port : Port) : List Vid :=
  port.nativeVlan.toList ++ port.dynDot1xNativeVlan.toList ++ port.taggedVlans

/-- The options of a VLAN that flooding reads. -/
structure VlanConf where
  vid : Vid
  unicastFlood : Bool
  reservedInternalVlan : Bool
deriving DecidableEq, Repr

/-- A VLAN with its ports. -/
structure Vlan extends VlanConf where
  tagged : List Port
  untagged : List Port
  dot1xUntagged : List Port
deriving DecidableEq, Repr

/-- `reset_ports`; the ports are in the order of their numbers. -/
def VlanConf.resetPorts (conf : VlanConf) (ports : List Port) : Vlan where
  toVlanConf := conf
  tagged := ports.filter fun port => conf.vid ∈ port.taggedVlans
  untagged := ports.filter fun port =>
    port.nativeVlan = some conf.vid ∧ port.dynDot1xNativeVlan = none
  dot1xUntagged := ports.filter fun port => port.dynDot1xNativeVlan = some conf.vid

namespace Vlan

variable (vlan : Vlan)

/-- `get_ports` -/
def getPorts : List Port := vlan.tagged ++ vlan.untagged ++ vlan.dot1xUntagged

/-- `restricted_bcast_arpnd_ports` -/
def restrictedBcastArpndPorts : List Port := vlan.getPorts.filter (·.restrictedBcastArpnd)

/-- `loop_protect_external_ports` -/
def loopProtectExternalPorts : List Port := vlan.getPorts.filter (·.loopProtectExternal)

/-- `loop_protect_external_ports_up` -/
def loopProtectExternalPortsUp : List Port := vlan.loopProtectExternalPorts.filter (·.dynPhysUp)

/-- `lacp_ports` -/
def lacpPorts : List Port := vlan.getPorts.filter (·.lacp ≠ 0)

/-- `lacp_up_selected_ports` -/
def lacpUpSelectedPorts : List Port :=
  vlan.lacpPorts.filter fun port => port.isPortSelected && port.isActorUp

/-- The ids of the LAGs. -/
def lags : List Lacp.LagId := (vlan.lacpPorts.map (·.lacp)).dedup

/-- The ports of a LAG but the one that is flooded to. -/
def unusedLagPorts (lag : Lacp.LagId) : List Port :=
  let ports := vlan.lacpPorts.filter (·.lacp = lag)
  match vlan.lacpUpSelectedPorts.find? (·.lacp = lag) with
  | some selected => ports.erase selected
  | none => ports

/-- `excluded_lag_ports`: the LAG of the input port, and all but one port of the others. -/
def excludedLagPorts (inPort : Option Port) : List PortNo :=
  (vlan.lacpPorts.filter fun port =>
      inPort.any fun other => other.lacp ≠ 0 ∧ other.lacp = port.lacp).map (·.number) ++
    (vlan.lags.flatMap vlan.unusedLagPorts).map (·.number)

/-- `exclude_native_if_dot1x` -/
def excludeNativeIfDot1x : List PortNo :=
  (vlan.untagged.filter fun port =>
    port.dynDot1xNativeVlan ≠ none ∧ port.dynDot1xNativeVlan ≠ some vlan.vid).map (·.number)

/-- The configured ports that allow flooding. -/
def floodPorts (configuredPorts : List Port) (excludeUnicast : Bool) : List Port :=
  if excludeUnicast then configuredPorts.filter (·.unicastFlood) else configuredPorts

/-- `tagged_flood_ports` -/
def taggedFloodPorts (excludeUnicast : Bool) : List Port :=
  floodPorts vlan.tagged excludeUnicast

/-- `untagged_flood_ports` -/
def untaggedFloodPorts (excludeUnicast : Bool) : List Port :=
  floodPorts (vlan.untagged ++ vlan.dot1xUntagged) excludeUnicast

/-- `_vlan_all_ports` -/
def allPorts (excludeUnicast : Bool) : List Port := floodPorts vlan.getPorts excludeUnicast

end Vlan

/-! ## Actions -/

/-- `OFPP_IN_PORT`. -/
def ofppInPort : PortNo := 0xfffffff8

/-- `OFPActionPopVlan`. -/
def popVlan : Act := .other 18

/-- The action that marks a packet for external ports. -/
def setExternalForwardingRequested : Act := .other 25

/-- The action that marks a packet as not for external ports. -/
def setNoExternalForwardingRequested : Act := .other 281

/-- `is_output` of a port. -/
def isOutput : Act → Bool
  | .output _ => true
  | _ => false

/-- `dedupe_output_port_acts` -/
def dedupeOutputPortActs (ports : List PortNo) : List Act :=
  (ports.dedup.insertionSort (· ≤ ·)).map .output

theorem mem_insertionSort_dedup {numbers : List PortNo} {number : PortNo} :
    number ∈ numbers.dedup.insertionSort (· ≤ ·) ↔ number ∈ numbers := by
  rw [(List.perm_insertionSort _ _).mem_iff, List.mem_dedup]

/-- What is output for one port. -/
def portOutputs (inPort : Option Port) (excludePorts : List PortNo) (port : Port) : List PortNo :=
  if inPort.map (·.number) = some port.number then
    if port.hairpin then [ofppInPort] else []
  else if port.number ∈ excludePorts then []
  -- The input port was mirrored already, when the packet came in.
  else if inPort.map (·.mirror.toFinset) = some port.mirror.toFinset then [port.number]
  else port.number :: port.mirror

/-- `flood_tagged_port_outputs` -/
def floodTaggedPortOutputs (ports : List Port) (inPort : Option Port)
    (excludePorts : List PortNo) : List Act :=
  dedupeOutputPortActs (ports.flatMap (portOutputs inPort excludePorts))

/-- `flood_untagged_port_outputs` -/
def floodUntaggedPortOutputs (ports : List Port) (inPort : Option Port)
    (excludePorts : List PortNo) : List Act :=
  let floodActs := floodTaggedPortOutputs ports inPort excludePorts
  if floodActs.isEmpty then [] else popVlan :: floodActs

/-- `flood_port_outputs` -/
def floodPortOutputs (taggedPorts untaggedPorts : List Port) (inPort : Option Port)
    (excludePorts : List PortNo) : List Act :=
  floodTaggedPortOutputs taggedPorts inPort excludePorts ++
    floodUntaggedPortOutputs untaggedPorts inPort excludePorts

/-- The actions that `output_non_output_actions` leaves. -/
def dedupedActs (floodActs : List Act) : List Act := OrderedDict.values id floodActs

/-- The ports that the actions output to. -/
def outputPorts (floodActs : List Act) : Finset PortNo :=
  (floodActs.filterMap fun act => match act with
    | .output port => some port
    | _ => none).toFinset

/-- The actions that are neither an output nor a `pop_vlan`. -/
def nonOutputActs (floodActs : List Act) : Finset Act :=
  (floodActs.filter (!isOutput ·)).toFinset.erase popVlan

namespace Vlan

variable (vlan : Vlan)

/-- The external ports that are left out: all of them, or all but the first. -/
def excludedExternalPorts (inPort : Option Port) (excludeAllExternal : Bool) : List PortNo :=
  let externalPorts := (vlan.loopProtectExternalPortsUp.map (·.number)).insertionSort (· ≤ ·)
  if excludeAllExternal || inPort.any (·.loopProtectExternal) then externalPorts
  else externalPorts.tail

/-- `_build_flood_local_rule_actions` -/
def buildFloodLocalRuleActions (excludeUnicast : Bool) (inPort : Option Port)
    (excludeAllExternal excludeRestrictedBcastArpnd : Bool) : List Act :=
  let excludePorts :=
    vlan.excludedLagPorts inPort ++ vlan.excludeNativeIfDot1x ++
      vlan.excludedExternalPorts inPort excludeAllExternal ++
      if excludeRestrictedBcastArpnd then vlan.restrictedBcastArpndPorts.map (·.number) else []
  floodPortOutputs (vlan.taggedFloodPorts excludeUnicast) (vlan.untaggedFloodPorts excludeUnicast)
    inPort excludePorts

/-- `_build_flood_rule_actions` -/
def buildFloodRuleActions (excludeUnicast : Bool) (inPort : Option Port)
    (excludeAllExternal excludeRestrictedBcastArpnd : Bool) : List Act :=
  (if vlan.loopProtectExternalPorts ≠ [] ∧ vlan.taggedFloodPorts excludeUnicast ≠ [] then
      [setExternalForwardingRequested] else []) ++
    vlan.buildFloodLocalRuleActions excludeUnicast inPort excludeAllExternal
      excludeRestrictedBcastArpnd

/-- The actions of the rule for the whole VLAN. -/
def buildFloodActsForVlan (excludeUnicast : Bool) : List Act :=
  vlan.buildFloodRuleActions excludeUnicast none false true

/-- The actions of the rule for one port; none when it is down or outputs nowhere. -/
def buildFloodActsForPort (excludeUnicast : Bool) (port : Port)
    (excludeRestrictedBcastArpnd : Bool) : List Act :=
  if port.dynPhysUp then
    let floodActs := dedupedActs <| vlan.buildFloodRuleActions excludeUnicast (some port) false
      (excludeRestrictedBcastArpnd && port.restrictedBcastArpnd)
    if outputPorts floodActs = ∅ then [] else floodActs
  else []

end Vlan

end Faucet.Flooding
