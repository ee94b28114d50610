import Faucet.Flooding.Lookup
import Faucet.Learning.Hosts
import Faucet.Stack.ChangingTopology

/-!
# The messages of a change of the stack

When the stack has changed a datapath makes all its VLANs again and deletes the rules of the
hosts that were learned on its stack ports. The flood rules of a VLAN output to its own
ports, towards the root and away from it, for a port of the VLAN and for a stack port. In
the classification table packets from a pruned port are dropped.

Of what the stack managers know, the messages depend on the distances alone (`View`). The
other managers have messages for a VLAN too, which do not depend on the stack.
-/

set_option autoImplicit false

namespace Faucet.Stack

open OpenFlow
open Flooding (Vid VlanConf Vlan FloodDst PortRule ofppInPort floodMatch floodPriority
  floodInst outputPorts nonOutputActs dedupedActs buildGroupFloodBuckets vlanGroupOffset
  setExternalForwardingRequested setNoExternalForwardingRequested)
open Learning (Mac inPort ethSrc vlanVid vlanPcp pcpExtPortFlag pcpNonextPortFlag lowPriority
  filterPriority)

/-! ## Datapaths -/

/-- A datapath with its ports that are not stack ports. -/
structure Node extends Flooding.Dp where
  ports : List Flooding.Port
  numbers : (ports.map (·.number)).Nodup
  flags : ℕ
  hasExternals : Bool
  rootCandidate : Bool
  rootFloodReflection : Bool
  dropSpoofedFaucetMac : Bool
  faucetMac : Vid → Mac
  vlanTable : Fin 255
  classificationTable : Fin 255
  ethSrcTable : Fin 255
  ethDstTable : Fin 255
  ethDstHairpinTable : Option (Fin 255)
  /-- `add_vlan` of the ACL, route and other managers -/
  managersAddVlan : VlanConf → List Ofmsg

namespace Node

variable (node : Node)

/-- The tables with the rules of hosts. -/
def hostTables : List (Fin 255) :=
  [node.ethSrcTable, node.ethDstTable] ++ node.ethDstHairpinTable.toList

/-- The tables besides the flood table that a host or a VLAN has rules in. -/
def otherTables : List (Fin 255) := node.vlanTable :: node.classificationTable :: node.hostTables

/-- `output_table` -/
def outputTable : Fin 255 := node.ethDstHairpinTable.getD node.ethDstTable

/-- `ValveTable.flowmod` -/
def flowmod (table : Fin 255) (fields : Match) (priority : ℕ) (instructions : List Instruction) :
    FlowMod where
  command := .add
  tableId := table
  priority := priority
  cookie := node.flowCookie
  outPort := some 0
  matchFields := fields
  instructions := instructions
  hardTimeout := 0
  idleTimeout := 0
  flags := node.flags

/-- `ValveTable.flowdel` -/
def flowdel (table : Fin 255) (fields : Match) (priority : ℕ) (outPort : Option PortNo)
    (strict : Bool) : FlowMod where
  command := if strict then .deleteStrict else .delete
  tableId := table
  priority := priority
  cookie := node.flowCookie
  outPort := outPort
  matchFields := fields
  instructions := []
  hardTimeout := 0
  idleTimeout := 0
  flags := node.flags

/-- `_HIGH_PRIORITY`, of the rules that select packets. -/
def selectPriority : ℕ := 0x4000

/-- `classification_offset` -/
def classificationOffset : ℕ := 0x100

/-- The priority at which a filter is replaced by a selection, for a destination with an
address. -/
def replacePriority : ℕ := selectPriority + classificationOffset

end Node

/-- The datapaths of a stack; a stack port has no other port's number, and the other managers
add rules to other tables, where these are of hosts with the cookie of the datapath and to no
group. -/
structure Stacked (Dp E : Type) [LinearOrder E] extends Fabric Dp E where
  node : Dp → Node
  apart : ∀ port, ∀ other ∈ (node (dp port)).ports, other.number ≠ (stackPort port).number
  floodApart : ∀ self, (node self).floodTable ∉ (node self).otherTables
  managersAdd : ∀ self conf mod, .flowMod mod ∈ (node self).managersAddVlan conf →
    mod.command = .add ∧ mod.tableId ≠ ofpttAll ∧ mod.tableId ≠ (node self).floodTable.val ∧
      ∀ table ∈ (node self).otherTables, mod.tableId = table.val →
        mod.cookie = (node self).flowCookie ∧ ∀ groupId, mod.entry.refersTo groupId = false

/-- What the messages of a datapath depend on. -/
structure View (E : Type) where
  isEdge : Bool
  distances : Distances E
deriving DecidableEq, Repr

/-- The port that a packet comes in by. -/
inductive InPort (E : Type) where
  | vlan (port : Flooding.Port)
  | stack (port : E)

namespace Stacked

variable {Dp E : Type} [LinearOrder Dp] [LinearOrder E] (stack : Stacked Dp E) (self : Dp)

/-- What the rules of a datapath depend on. -/
def view (nodes : Nodes Dp E) : View E where
  isEdge := stack.isEdge nodes.toLinks self
  distances := nodes.distances self

/-- The port that a packet comes in by. -/
def port : InPort E → Flooding.Port
  | .vlan port => port
  | .stack port => stack.stackPort port

/-- `external_root_only` -/
def externalRootOnly : Bool :=
  (stack.node self).hasExternals && !stack.isRoot self && (stack.node self).rootCandidate

/-! ## Flood actions -/

section FloodActions

variable (view : View E)

/-- An action that is only there with external ports. -/
def portFlag (act : Act) : List Act := if (stack.node self).hasExternals then [act] else []

/-- `_flood_actions` of the two managers. -/
def floodActions (inPort : Option (InPort E)) (externalPorts : Bool)
    (awayFloodActions towardFloodActions localFloodActions : List Act) : List Act :=
  let setExt := stack.portFlag self setExternalForwardingRequested
  let setNonext := stack.portFlag self setNoExternalForwardingRequested
  let prefixFlag := if externalPorts then setNonext else setExt
  let isAway := fun port => port ∈ view.distances.awayPorts
  if !(stack.node self).rootFloodReflection then
    let floodPrefix := match inPort with
      | some (.vlan _) => prefixFlag
      | _ => []
    floodPrefix ++ towardFloodActions ++ awayFloodActions ++ localFloodActions
  else if stack.isRoot self then
    let reflected := match inPort with
      | some (.stack port) => if isAway port then [.output ofppInPort] else []
      | _ => []
    prefixFlag ++ (awayFloodActions ++ reflected ++ localFloodActions)
  else
    match inPort with
    | none => prefixFlag ++ towardFloodActions
    | some port =>
        -- a packet from an external port has been flooded externally
        let fromOutside :=
          if (stack.port port).loopProtectExternal then setNonext ++ towardFloodActions
          else setExt ++ towardFloodActions
        match port with
        | .vlan _ => fromOutside
        | .stack port =>
            if isAway port then towardFloodActions
            else if port ∈ view.distances.towardsRootPorts then
              if externalPorts then setNonext ++ awayFloodActions ++ localFloodActions
              else awayFloodActions ++ setNonext ++ localFloodActions
            else fromOutside

/-- `_build_flood_rule_actions` -/
def buildFloodRuleActions (vlan : Vlan) (excludeUnicast : Bool) (inPort : Option (InPort E))
    (excludeAllExternal excludeRestrictedBcastArpnd : Bool) : List Act :=
  let port := inPort.map stack.port
  let adjacent := match inPort with
    | some (.stack port) => stack.adjacentStackPorts self (stack.peerDp port)
    | _ => []
  let excludePorts := (view.distances.inactiveAwayPorts ++ adjacent).map stack.number
  let localFloodActions := vlan.buildFloodLocalRuleActions excludeUnicast port excludeAllExternal
    excludeRestrictedBcastArpnd
  let awayFloodActions :=
    Flooding.floodTaggedPortOutputs (view.distances.awayPorts.map stack.stackPort) port excludePorts
  let towardFloodActions :=
    Flooding.floodTaggedPortOutputs (view.distances.chosenTowardsPorts.map stack.stackPort) port []
  stack.floodActions self view inPort (vlan.loopProtectExternalPorts ≠ []) awayFloodActions
    towardFloodActions localFloodActions

/-- The actions of the rule for the whole VLAN. -/
def buildFloodActsForVlan (vlan : Vlan) (excludeUnicast : Bool) : List Act :=
  stack.buildFloodRuleActions self view vlan excludeUnicast none false true

/-- The actions of the rule for one port; none when it is down or outputs nowhere. -/
def buildFloodActsForPort (vlan : Vlan) (excludeUnicast : Bool) (inPort : InPort E)
    (excludeAllExternal excludeRestrictedBcastArpnd : Bool) : List Act :=
  if (stack.port inPort).dynPhysUp then
    let floodActs := dedupedActs <| stack.buildFloodRuleActions self view vlan excludeUnicast
      (some inPort) (excludeAllExternal || stack.externalRootOnly self)
      (excludeRestrictedBcastArpnd && (stack.port inPort).restrictedBcastArpnd)
    if outputPorts floodActs = ∅ then [] else floodActs
  else []

end FloodActions

/-! ## Flood rules -/

section FloodRules

/-- The match of the rule for a stack port, with the field for external ports if there are
any. -/
def stackFloodMatch (vid : Vid) (port : E) (dst : FloodDst) (portFlag : Option ℕ) : Match :=
  .ofFields (portFlag.toList.map vlanPcp ++
    Flooding.floodFields vid (some (stack.number port)) dst)

/-- A flood rule with its actions. -/
def floodRule (fields : Match) (inPort : Option PortNo) (dst : FloodDst) (floodActs : List Act) :
    FlowMod :=
  (stack.node self).flowmod (stack.node self).floodTable fields (floodPriority inPort dst)
    (floodInst floodActs)

variable (view : View E)

/-- What the loop over the ports of the VLAN does about one of them. -/
def portRule (vlan : Vlan) (dst : FloodDst) (port : Flooding.Port) : PortRule :=
  let floodActs := stack.buildFloodActsForPort self view vlan dst.unicast (.vlan port) false
    dst.ethType.isNone
  let vlanActs := stack.buildFloodActsForVlan self view vlan dst.unicast
  if floodActs = [] then .skip
  else if !(stack.node self).combinatorialPortFlood &&
      outputPorts vlanActs \ {port.number} = outputPorts floodActs &&
      nonOutputActs vlanActs = nonOutputActs floodActs then .remove
  else .install floodActs

/-- The messages for the rule of one port. -/
def portRuleMods (vlan : Vlan) (dst : FloodDst) (port : Flooding.Port) : List FlowMod :=
  match stack.portRule self view vlan dst port with
  | .install floodActs =>
      [stack.floodRule self (floodMatch vlan.vid (some port.number) dst) (some port.number) dst
        floodActs]
  | .remove =>
      [(stack.node self).flowdel (stack.node self).floodTable
        (floodMatch vlan.vid (some port.number) dst) (floodPriority (some port.number) dst) none
        false]
  | .skip => []

/-- A broadcast that comes in by a port that is not used for it is dropped. -/
def prune (dst : FloodDst) (port : E) : Bool :=
  dst.ethDst.isSome && view.distances.isPrunedPort port

/-- The match of a filter rule. -/
def filterMatch (vid : Vid) (dst : FloodDst) (port : E) : Match :=
  .ofFields ([inPort (stack.number port), vlanVid vid] ++
    dst.ethDst.toList.map fun (address, mask) => ⟨3, address, some mask⟩)

/-- The priority of a filter rule. -/
def filterPriorityOf (dst : FloodDst) : ℕ :=
  if dst.ethDst.isSome then Node.replacePriority else Node.replacePriority - 1

/-- `_build_mask_flood_rules_filters` -/
def floodRulesFilters (vid : Vid) (dst : FloodDst) (port : E) : List FlowMod :=
  let node := stack.node self
  let fields := stack.filterMatch vid dst port
  if prune view dst port then [node.flowmod node.classificationTable fields (filterPriorityOf dst) []]
  else
    node.flowdel node.classificationTable fields (filterPriorityOf dst) none true ::
      -- not all that is flooded is learned from, with reflection
      if !stack.isRoot self && dst.ethDst.isSome && node.rootFloodReflection &&
          (view.isEdge || port ∈ view.distances.towardsRootPorts) then
        [node.flowmod node.classificationTable fields Node.replacePriority
          [.gotoTable node.floodTable]]
      else []

/-- The rules for a stack port: one, or one for packets that are flooded externally and one
for those that are not. -/
def floodRulesFloodActs (vlan : Vlan) (dst : FloodDst) (port : E) : List FlowMod :=
  let rule := fun (portFlag : Option ℕ) (excludeAllExternal : Bool) =>
    stack.floodRule self (stack.stackFloodMatch vlan.vid port dst portFlag)
      (some (stack.number port)) dst
      (if prune view dst port then []
        else stack.buildFloodActsForPort self view vlan dst.unicast (.stack port) excludeAllExternal
          dst.ethType.isNone)
  if (stack.node self).hasExternals then
    [rule (some pcpNonextPortFlag) true, rule (some pcpExtPortFlag) false]
  else [rule none false]

/-- `_build_mask_flood_rules` -/
def buildMaskFloodRules (vlan : Vlan) (dst : FloodDst) : List FlowMod :=
  let node := stack.node self
  (if node.combinatorialPortFlood || node.useGroupTable then []
    else [stack.floodRule self (floodMatch vlan.vid none dst) none dst
      (stack.buildFloodActsForVlan self view vlan dst.unicast)]) ++
    (vlan.allPorts dst.unicast).flatMap (stack.portRuleMods self view vlan dst) ++
    (stack.stackPorts self).flatMap fun port =>
      stack.floodRulesFilters self view vlan.vid dst port ++
        stack.floodRulesFloodActs self view vlan dst port

/-! ### Groups -/

/-- Unicast packets are flooded to other ports than broadcasts. -/
def unicastGroupDiffers (vlan : Vlan) : Bool :=
  outputPorts (dedupedActs (stack.buildFloodActsForVlan self view vlan true)) ≠
    outputPorts (dedupedActs (stack.buildFloodActsForVlan self view vlan false))

/-- The group that a rule refers to. -/
def floodGroupId (vlan : Vlan) (unicast : Bool) : ℕ :=
  if unicast && stack.unicastGroupDiffers self view vlan then vlan.vid + vlanGroupOffset
  else vlan.vid

/-- That group. -/
def floodGroup (vlan : Vlan) (unicast : Bool) : Group where
  type := 0
  buckets := buildGroupFloodBuckets [] <|
    if unicast && stack.unicastGroupDiffers self view vlan then
      dedupedActs (stack.buildFloodActsForVlan self view vlan true)
    else stack.buildFloodActsForVlan self view vlan false

/-- `_build_group_flood_rules` -/
def buildGroupFloodRules (vlan : Vlan) : List Ofmsg :=
  ([false, true].flatMap fun unicast =>
    [.groupMod (.delete (stack.floodGroupId self view vlan unicast)),
      .groupMod (.add (stack.floodGroupId self view vlan unicast)
        (stack.floodGroup self view vlan unicast))]) ++
    ((stack.node self).vlanFloodDsts vlan.toVlanConf).map fun dst =>
      .flowMod (stack.floodRule self (floodMatch vlan.vid none dst) none dst
        [.group (stack.floodGroupId self view vlan dst.unicast)])

/-! ## Messages -/

/-- `_build_flood_rules` -/
def buildFloodRules (vlan : Vlan) : List Ofmsg :=
  ((((stack.node self).vlanFloodDsts vlan.toVlanConf).flatMap
      (stack.buildMaskFloodRules self view vlan)).map .flowMod) ++
    if (stack.node self).useGroupTable then stack.buildGroupFloodRules self view vlan else []

/-- `add_drop_spoofed_faucet_mac_rules` -/
def addDropSpoofedFaucetMacRules (conf : VlanConf) : List FlowMod :=
  let node := stack.node self
  if node.dropSpoofedFaucetMac then
    node.ports.map fun port =>
      node.flowmod node.classificationTable
        (.ofFields [ethSrc (node.faucetMac conf.vid), inPort port.number]) filterPriority []
  else []

/-- The rule that sends packets of unknown hosts to the controller, `OFPP_CONTROLLER`. -/
def learnRule (conf : VlanConf) : FlowMod :=
  let node := stack.node self
  node.flowmod node.ethSrcTable (.single (vlanVid conf.vid)) lowPriority
    [.applyActions [.output 0xfffffffd], .gotoTable node.outputTable]

/-- `add_vlan` -/
def addVlan (conf : VlanConf) : List Ofmsg :=
  if conf.reservedInternalVlan then []
  else
    (stack.addDropSpoofedFaucetMacRules self conf ++ [stack.learnRule self conf]).map .flowMod ++
      stack.buildFloodRules self view (conf.resetPorts (stack.node self).ports) ++
      (stack.node self).managersAddVlan conf

/-- `_del_host_flows`; a stack port has no VLANs, and so it has no other rules. -/
def delHostFlows (port : E) : List FlowMod :=
  let node := stack.node self
  node.flowdel node.ethSrcTable (.single (inPort (stack.number port))) 0 none false ::
    (node.ethDstTable :: node.ethDstHairpinTable.toList).map fun table =>
      node.flowdel table .any 0 (some (stack.number port)) false

/-- What a valve sends when the stack has changed. -/
def ofmsgs : List Ofmsg :=
  (stack.node self).vlans.flatMap (stack.addVlan self view) ++
    ((stack.stackPorts self).flatMap (stack.delHostFlows self)).map .flowMod

end FloodRules

end Stacked

end Faucet.Stack
