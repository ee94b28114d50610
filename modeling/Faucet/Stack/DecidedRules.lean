import Faucet.Flooding.SafeCalls
import Faucet.OpenFlow.Successive
import Faucet.Stack.TopologyMessages

/-!
# What the messages of a change say about each rule

The messages of a datapath say the same thing about most of its rules whatever the distances
are: rules that do not depend on the stack are always sent, and rules of whole VLANs, rules
for stack ports and filters are always sent or deleted. Only for the rules of ports of a VLAN
this is not so: a port that has nothing to flood to is passed over, and its rule is neither
sent nor deleted (`decision`).
-/

set_option autoImplicit false

namespace Faucet.Stack

open OpenFlow
open Flooding (Vid VlanConf Vlan FloodDst PortRule floodMatch floodPriority floodInst
  inPort_mem_floodMatch)

namespace Stacked

variable {Dp E : Type} [LinearOrder Dp] [LinearOrder E] (stack : Stacked Dp E)

/-! ## Rules -/

/-- The datapath has flood rules of the VLAN for the destination. -/
structure Ruled (dp : Dp) (conf : VlanConf) (dst : FloodDst) : Prop where
  known : conf ∈ (stack.node dp).vlans
  unreserved : conf.reservedInternalVlan = false
  listed : dst ∈ (stack.node dp).vlanFloodDsts conf

variable (self : Dp)

/-- The VLAN with its ports. -/
def vlanOf (conf : VlanConf) : Vlan := conf.resetPorts (stack.node self).ports

/-- The rule of a VLAN, or of one of its ports. -/
def floodFlow (vid : Vid) (inPort : Option PortNo) (dst : FloodDst) : FlowId :=
  (stack.node self).flowId vid inPort dst

/-- The flood flow of a stack port. -/
def stackFlow (vid : Vid) (port : E) (dst : FloodDst) (portFlag : Option ℕ) : FlowId where
  tableId := (stack.node self).floodTable
  priority := floodPriority (some (stack.number port)) dst
  matchFields := stack.stackFloodMatch vid port dst portFlag

/-- The filter flow of a stack port. -/
def filterFlow (vid : Vid) (dst : FloodDst) (port : E) : FlowId where
  tableId := (stack.node self).classificationTable
  priority := filterPriorityOf dst
  matchFields := stack.filterMatch vid dst port

/-- A flood flow of a VLAN. -/
def IsVlanFlow (flow : FlowId) : Prop :=
  ∃ conf dst, stack.Ruled self conf dst ∧ (stack.node self).combinatorialPortFlood = false ∧
    flow = stack.floodFlow self conf.vid none dst

/-- A flood flow of a stack port. -/
def IsStackFlow (flow : FlowId) : Prop :=
  ∃ conf dst, stack.Ruled self conf dst ∧ ∃ port ∈ stack.stackPorts self,
    ∃ portFlag, ((stack.node self).hasExternals = true ∧
      (portFlag = some Learning.pcpNonextPortFlag ∨ portFlag = some Learning.pcpExtPortFlag) ∨
      (stack.node self).hasExternals = false ∧ portFlag = none) ∧
      flow = stack.stackFlow self conf.vid port dst portFlag

/-- A filter flow of a stack port. -/
def IsFilterFlow (flow : FlowId) : Prop :=
  ∃ conf dst, stack.Ruled self conf dst ∧ ∃ port ∈ stack.stackPorts self,
    flow = stack.filterFlow self conf.vid dst port

/-- What the messages do about the rule of a port. -/
structure DecidedRule where
  vid : Vid
  dst : FloodDst
  port : PortNo
  rule : PortRule

/-- A flood flow as it is installed. -/
def floodEntry (floodActs : List Act) : FlowEntry where
  cookie := (stack.node self).flowCookie
  instructions := floodInst floodActs
  hardTimeout := 0
  idleTimeout := 0
  flags := (stack.node self).flags

/-- The entry that is installed, if it is that of this flow. -/
def installs (flow : FlowId) (decided : DecidedRule) : Option FlowEntry :=
  match decided.rule with
  | .install floodActs =>
      if flow = stack.floodFlow self decided.vid (some decided.port) decided.dst then
        some (stack.floodEntry self floodActs)
      else none
  | _ => none

/-- The rule is deleted, and this flow with it. -/
def removes (flow : FlowId) (decided : DecidedRule) : Bool :=
  decided.rule = .remove && flow.tableId = (stack.node self).floodTable &&
    (floodMatch decided.vid (some decided.port) decided.dst).covers flow.matchFields

section View

variable (view : View E)

/-- All rules of ports that the messages are about, and those that are passed over. -/
def portRules : List DecidedRule :=
  (stack.node self).vlans.flatMap fun conf =>
    if conf.reservedInternalVlan then []
    else ((stack.node self).vlanFloodDsts conf).flatMap fun dst =>
      ((stack.vlanOf self conf).allPorts dst.unicast).map fun port =>
        ⟨conf.vid, dst, port.number, stack.portRule self view (stack.vlanOf self conf) dst port⟩

/-- What the messages say about a flow, as far as they are about rules of ports: the entry it
gets, that it goes, or nothing. -/
def decision (flow : FlowId) : Option (Option FlowEntry) :=
  match (stack.portRules self view).findSome? (stack.installs self flow) with
  | some entry => some (some entry)
  | none => if (stack.portRules self view).any (stack.removes self flow) then some none else none

/-- The actions of the rule for a whole VLAN. -/
def vlanActs (vlan : Vlan) (dst : FloodDst) : List Act :=
  if (stack.node self).useGroupTable then [.group (stack.floodGroupId self view vlan dst.unicast)]
  else stack.buildFloodActsForVlan self view vlan dst.unicast

end View

/-- The messages that do not depend on the stack. -/
def fixedOfmsgs : List Ofmsg :=
  ((stack.node self).vlans.flatMap fun conf =>
    if conf.reservedInternalVlan then []
    else (stack.addDropSpoofedFaucetMacRules self conf ++ [stack.learnRule self conf]).map
      Ofmsg.flowMod ++ (stack.node self).managersAddVlan conf) ++
    ((stack.stackPorts self).flatMap (stack.delHostFlows self)).map .flowMod

variable {stack self} {view : View E} {flow : FlowId} {mod : FlowMod} {conf : VlanConf}
  {dst : FloodDst} {port : E}

omit [LinearOrder Dp] in
@[simp] theorem vlanOf_vid : (stack.vlanOf self conf).vid = conf.vid := rfl

/-! ## The messages about flows -/

/-- A message about a flow that depends on the stack. -/
inductive Varies (stack : Stacked Dp E) (self : Dp) (view : View E) : FlowMod → Prop where
  | vlanRule {conf : VlanConf} {dst : FloodDst} (ruled : stack.Ruled self conf dst)
      (plain : (stack.node self).combinatorialPortFlood = false) :
      Varies stack self view (stack.floodRule self (floodMatch conf.vid none dst) none dst
        (stack.vlanActs self view (stack.vlanOf self conf) dst))
  | portRule {conf : VlanConf} {dst : FloodDst} {port : Flooding.Port} {mod : FlowMod}
      (ruled : stack.Ruled self conf dst)
      (inVlan : port ∈ (stack.vlanOf self conf).allPorts dst.unicast)
      (built : mod ∈ stack.portRuleMods self view (stack.vlanOf self conf) dst port) :
      Varies stack self view mod
  | filter {conf : VlanConf} {dst : FloodDst} {port : E} {mod : FlowMod}
      (ruled : stack.Ruled self conf dst) (listed : port ∈ stack.stackPorts self)
      (built : mod ∈ stack.floodRulesFilters self view conf.vid dst port) :
      Varies stack self view mod
  | stackRule {conf : VlanConf} {dst : FloodDst} {port : E} {mod : FlowMod}
      (ruled : stack.Ruled self conf dst) (listed : port ∈ stack.stackPorts self)
      (built : mod ∈ stack.floodRulesFloodActs self view (stack.vlanOf self conf) dst port) :
      Varies stack self view mod

theorem flowMod_mem_buildFloodRules {vlan : Vlan} :
    .flowMod mod ∈ stack.buildFloodRules self view vlan ↔
      ∃ dst ∈ (stack.node self).vlanFloodDsts vlan.toVlanConf,
        ((stack.node self).combinatorialPortFlood = false ∧
          mod = stack.floodRule self (floodMatch vlan.vid none dst) none dst
            (stack.vlanActs self view vlan dst)) ∨
        (∃ port ∈ vlan.allPorts dst.unicast, mod ∈ stack.portRuleMods self view vlan dst port) ∨
        ∃ port ∈ stack.stackPorts self, mod ∈ stack.floodRulesFilters self view vlan.vid dst port ∨
          mod ∈ stack.floodRulesFloodActs self view vlan dst port := by
  have exclusive := (stack.node self).exclusive
  have ofGroups : .flowMod mod ∈ stack.buildGroupFloodRules self view vlan ↔
      ∃ dst ∈ (stack.node self).vlanFloodDsts vlan.toVlanConf,
        mod = stack.floodRule self (floodMatch vlan.vid none dst) none dst
          [.group (stack.floodGroupId self view vlan dst.unicast)] := by
    simp [buildGroupFloodRules, eq_comm]
  have ofMasks : .flowMod mod ∈ (((stack.node self).vlanFloodDsts vlan.toVlanConf).flatMap
        (stack.buildMaskFloodRules self view vlan)).map Ofmsg.flowMod ↔
      ∃ dst ∈ (stack.node self).vlanFloodDsts vlan.toVlanConf,
        mod ∈ stack.buildMaskFloodRules self view vlan dst := by
    simp [List.mem_flatMap]
  rw [buildFloodRules, List.mem_append, ofMasks]
  simp only [buildMaskFloodRules, List.mem_append, List.mem_flatMap, vlanActs]
  cases group : (stack.node self).useGroupTable with
  | true =>
      have plain : (stack.node self).combinatorialPortFlood = false := by simp_all
      simp only [Bool.or_true, if_true, List.not_mem_nil, false_or, ofGroups, plain, true_and]
      constructor
      · rintro (⟨dst, listed, other⟩ | ⟨dst, listed, rule⟩)
        · exact ⟨dst, listed, .inr other⟩
        · exact ⟨dst, listed, .inl rule⟩
      · rintro ⟨dst, listed, rule | other⟩
        · exact .inr ⟨dst, listed, rule⟩
        · exact .inl ⟨dst, listed, other⟩
  | false =>
      simp only [Bool.or_false, Bool.false_eq_true, if_false, List.not_mem_nil, or_false]
      refine exists_congr fun dst => and_congr_right fun _ => ?_
      cases combinatorial : (stack.node self).combinatorialPortFlood <;> simp [or_assoc]

theorem mem_addVlan : .flowMod mod ∈ stack.addVlan self view conf ↔
    conf.reservedInternalVlan = false ∧
      (mod ∈ stack.addDropSpoofedFaucetMacRules self conf ∨ mod = stack.learnRule self conf ∨
        .flowMod mod ∈ stack.buildFloodRules self view (stack.vlanOf self conf) ∨
        .flowMod mod ∈ (stack.node self).managersAddVlan conf) := by
  rw [addVlan]
  cases conf.reservedInternalVlan with
  | true => simp
  | false => simp [vlanOf]

/-- **A message about a flow** is fixed, or one of the four kinds that vary. -/
theorem flowMod_mem_ofmsgs : .flowMod mod ∈ stack.ofmsgs self view ↔
    .flowMod mod ∈ stack.fixedOfmsgs self ∨ Varies stack self view mod := by
  have ofVlans : .flowMod mod ∈ ((stack.node self).vlans.flatMap (stack.addVlan self view)) ↔
      (∃ conf ∈ (stack.node self).vlans, conf.reservedInternalVlan = false ∧
        (mod ∈ stack.addDropSpoofedFaucetMacRules self conf ∨ mod = stack.learnRule self conf ∨
          .flowMod mod ∈ (stack.node self).managersAddVlan conf)) ∨ Varies stack self view mod := by
    simp only [List.mem_flatMap, mem_addVlan, flowMod_mem_buildFloodRules]
    constructor
    · rintro ⟨conf, known, unreserved, spoofed | learn | ⟨dst, listed, kinds⟩ | others⟩
      · exact .inl ⟨conf, known, unreserved, .inl spoofed⟩
      · exact .inl ⟨conf, known, unreserved, .inr (.inl learn)⟩
      · have ruled : stack.Ruled self conf dst := ⟨known, unreserved, listed⟩
        right
        rcases kinds with ⟨plain, rfl⟩ | ⟨port, inVlan, built⟩ | ⟨port, listed, built | built⟩
        · exact .vlanRule ruled plain
        · exact .portRule ruled inVlan built
        · exact .filter ruled listed built
        · exact .stackRule ruled listed built
      · exact .inl ⟨conf, known, unreserved, .inr (.inr others)⟩
    · rintro (⟨conf, known, unreserved, kinds⟩ | varies)
      · refine ⟨conf, known, unreserved, ?_⟩
        rcases kinds with spoofed | learn | others
        · exact .inl spoofed
        · exact .inr (.inl learn)
        · exact .inr (.inr (.inr others))
      · cases varies with
        | vlanRule ruled plain =>
            exact ⟨_, ruled.known, ruled.unreserved, .inr (.inr (.inl
              ⟨_, ruled.listed, .inl ⟨plain, rfl⟩⟩))⟩
        | portRule ruled inVlan built =>
            exact ⟨_, ruled.known, ruled.unreserved, .inr (.inr (.inl
              ⟨_, ruled.listed, .inr (.inl ⟨_, inVlan, built⟩)⟩))⟩
        | filter ruled listed built =>
            exact ⟨_, ruled.known, ruled.unreserved, .inr (.inr (.inl
              ⟨_, ruled.listed, .inr (.inr ⟨_, listed, .inl built⟩)⟩))⟩
        | stackRule ruled listed built =>
            exact ⟨_, ruled.known, ruled.unreserved, .inr (.inr (.inl
              ⟨_, ruled.listed, .inr (.inr ⟨_, listed, .inr built⟩)⟩))⟩
  have ofFixed : .flowMod mod ∈ stack.fixedOfmsgs self ↔
      (∃ conf ∈ (stack.node self).vlans, conf.reservedInternalVlan = false ∧
        (mod ∈ stack.addDropSpoofedFaucetMacRules self conf ∨ mod = stack.learnRule self conf ∨
          .flowMod mod ∈ (stack.node self).managersAddVlan conf)) ∨
      .flowMod mod ∈ ((stack.stackPorts self).flatMap (stack.delHostFlows self)).map
        Ofmsg.flowMod := by
    rw [fixedOfmsgs, List.mem_append, List.mem_flatMap]
    refine or_congr_left (exists_congr fun conf => and_congr_right fun _ => ?_)
    cases conf.reservedInternalVlan with
    | true => simp
    | false => simp
  rw [ofmsgs, List.mem_append, ofVlans, ofFixed, or_right_comm]

/-! ## Tables -/

theorem names_flowmod {node : Node} {table : Fin 255} {fields : Match} {priority : ℕ}
    {instructions : List Instruction} :
    (node.flowmod table fields priority instructions).names flow = true ↔
      flow = ⟨table, priority, fields⟩ := by
  obtain ⟨tableId, flowPriority, matchFields⟩ := flow
  simp only [FlowMod.names, Node.flowmod, Bool.and_eq_true, beq_iff_eq, FlowId.mk.injEq,
    Fin.ext_iff, and_assoc]
  exact and_congr eq_comm (and_congr eq_comm eq_comm)

theorem reaches_flowdel {node : Node} {table : Fin 255} {fields : Match} {priority : ℕ}
    {outPort : Option PortNo} {strict : Bool} :
    (node.flowdel table fields priority outPort strict).reaches flow = true ↔
      flow.tableId = table ∧
        if strict then priority = flow.priority ∧ fields = flow.matchFields
        else fields.covers flow.matchFields = true := by
  have oneTable : table.val ≠ ofpttAll := Nat.ne_of_lt table.isLt
  cases strict <;>
    simp [FlowMod.reaches, Node.flowdel, oneTable, Fin.ext_iff, eq_comm (a := flow.tableId.val)]

theorem mem_portRuleMods {vlan : Vlan} {port : Flooding.Port} :
    mod ∈ stack.portRuleMods self view vlan dst port ↔
      (∃ floodActs, stack.portRule self view vlan dst port = .install floodActs ∧
        mod = stack.floodRule self (floodMatch vlan.vid (some port.number) dst)
          (some port.number) dst floodActs) ∨
      stack.portRule self view vlan dst port = .remove ∧
        mod = (stack.node self).flowdel (stack.node self).floodTable
          (floodMatch vlan.vid (some port.number) dst) (floodPriority (some port.number) dst) none
          false := by
  rw [portRuleMods]
  cases stack.portRule self view vlan dst port <;> simp

theorem mem_floodRulesFilters {vid : Vid}
    (built : mod ∈ stack.floodRulesFilters self view vid dst port) :
    (∃ instructions, (instructions = [] ∨
        instructions = [.gotoTable (stack.node self).floodTable]) ∧
      mod = (stack.node self).flowmod (stack.node self).classificationTable
        (stack.filterMatch vid dst port) (filterPriorityOf dst) instructions) ∨
    mod = (stack.node self).flowdel (stack.node self).classificationTable
      (stack.filterMatch vid dst port) (filterPriorityOf dst) none true := by
  unfold floodRulesFilters at built
  dsimp only at built
  split at built
  next => exact .inl ⟨_, .inl rfl, List.mem_singleton.mp built⟩
  next =>
    rcases List.mem_cons.mp built with rfl | selected
    · exact .inr rfl
    · split at selected
      next condition =>
        simp only [Bool.and_eq_true] at condition
        rw [filterPriorityOf, if_pos condition.1.1.2]
        exact .inl ⟨_, .inr rfl, List.mem_singleton.mp selected⟩
      next => cases selected

theorem mem_floodRulesFloodActs {vlan : Vlan}
    (built : mod ∈ stack.floodRulesFloodActs self view vlan dst port) :
    ∃ portFlag floodActs, ((stack.node self).hasExternals = true ∧
        (portFlag = some Learning.pcpNonextPortFlag ∨ portFlag = some Learning.pcpExtPortFlag) ∨
      (stack.node self).hasExternals = false ∧ portFlag = none) ∧
      (floodActs = [] ∨ ∃ excludeAllExternal, floodActs = stack.buildFloodActsForPort self view vlan
        dst.unicast (.stack port) excludeAllExternal dst.ethType.isNone) ∧
      mod = stack.floodRule self (stack.stackFloodMatch vlan.vid port dst portFlag)
        (some (stack.number port)) dst floodActs := by
  have ofActs : ∀ floodActs excludeAllExternal, floodActs = (if prune view dst port then []
      else stack.buildFloodActsForPort self view vlan dst.unicast (.stack port) excludeAllExternal
        dst.ethType.isNone) →
      floodActs = [] ∨ ∃ excludeAllExternal, floodActs = stack.buildFloodActsForPort self view vlan
        dst.unicast (.stack port) excludeAllExternal dst.ethType.isNone := by
    rintro floodActs excludeAllExternal rfl
    split
    next => exact .inl rfl
    next => exact .inr ⟨_, rfl⟩
  unfold floodRulesFloodActs at built
  dsimp only at built
  split at built
  next externals =>
    rcases List.mem_cons.mp built with rfl | built
    · exact ⟨_, _, .inl ⟨externals, .inl rfl⟩, ofActs _ _ rfl, rfl⟩
    · cases List.mem_singleton.mp built
      exact ⟨_, _, .inl ⟨externals, .inr rfl⟩, ofActs _ _ rfl, rfl⟩
  next noExternals =>
    cases List.mem_singleton.mp built
    exact ⟨_, _, .inr ⟨by simpa using noExternals, rfl⟩, ofActs _ _ rfl, rfl⟩

/-- A message that is fixed: an add, or a delete of the flows of a stack port. -/
theorem fixed_cases (member : .flowMod mod ∈ stack.fixedOfmsgs self) :
    mod.command = .add ∧ mod.tableId ≠ ofpttAll ∧ mod.tableId ≠ (stack.node self).floodTable.val ∧
      (∀ table ∈ (stack.node self).otherTables, mod.tableId = table.val →
        mod.cookie = (stack.node self).flowCookie ∧ ∀ groupId, mod.entry.refersTo groupId = false) ∨
    ∃ port ∈ stack.stackPorts self, mod ∈ stack.delHostFlows self port := by
  have ofTable : ∀ table ∈ (stack.node self).otherTables, table.val ≠ ofpttAll ∧
      table.val ≠ (stack.node self).floodTable.val := by
    intro table listed
    refine ⟨Nat.ne_of_lt table.isLt, fun same => stack.floodApart self ?_⟩
    rwa [← Fin.ext same]
  rw [fixedOfmsgs, List.mem_append] at member
  rcases member with ofVlan | ofPort
  · left
    obtain ⟨conf, known, ofVlan⟩ := List.mem_flatMap.mp ofVlan
    split at ofVlan
    next => cases ofVlan
    next =>
      rcases List.mem_append.mp ofVlan with own | others
      · obtain ⟨_, own, ⟨⟩⟩ := List.mem_map.mp own
        rcases List.mem_append.mp own with spoofed | learn
        · unfold addDropSpoofedFaucetMacRules at spoofed
          dsimp only at spoofed
          split at spoofed
          next =>
            obtain ⟨port, _, rfl⟩ := List.mem_map.mp spoofed
            obtain ⟨notAll, notFlood⟩ := ofTable (stack.node self).classificationTable
              (by simp [Node.otherTables])
            exact ⟨rfl, notAll, notFlood, fun _ _ _ => ⟨rfl, fun _ => rfl⟩⟩
          next => cases spoofed
        · cases List.mem_singleton.mp learn
          obtain ⟨notAll, notFlood⟩ := ofTable (stack.node self).ethSrcTable
            (by simp [Node.otherTables, Node.hostTables])
          exact ⟨rfl, notAll, notFlood, fun _ _ _ => ⟨rfl, fun _ => rfl⟩⟩
      · exact stack.managersAdd self conf mod others
  · obtain ⟨_, ofPort, ⟨⟩⟩ := List.mem_map.mp ofPort
    obtain ⟨port, listed, ofPort⟩ := List.mem_flatMap.mp ofPort
    exact .inr ⟨port, listed, ofPort⟩

omit [LinearOrder Dp] in
/-- A delete of flows of hosts is of a table of hosts, and not strict. -/
theorem mem_delHostFlows (member : mod ∈ stack.delHostFlows self port) :
    ∃ table ∈ (stack.node self).hostTables, ∃ fields outPort,
      (fields = .any ∨ fields = .single (Learning.inPort (stack.number port))) ∧
      mod = (stack.node self).flowdel table fields 0 outPort false := by
  rw [delHostFlows] at member
  rcases List.mem_cons.mp member with rfl | member
  · exact ⟨_, by simp [Node.hostTables], _, _, .inr rfl, rfl⟩
  · obtain ⟨table, listed, rfl⟩ := List.mem_map.mp member
    exact ⟨table, List.mem_cons_of_mem _ listed, _, _, .inl rfl, rfl⟩

theorem Varies.table (varies : Varies stack self view mod) :
    (mod.tableId = (stack.node self).floodTable.val ∨
      mod.tableId = (stack.node self).classificationTable.val) ∧
      mod.cookie = (stack.node self).flowCookie ∧ mod.command ≠ .modifyStrict := by
  cases varies with
  | vlanRule => exact ⟨.inl rfl, rfl, nofun⟩
  | portRule _ _ built =>
      rcases mem_portRuleMods.mp built with ⟨_, _, rfl⟩ | ⟨_, rfl⟩
      · exact ⟨.inl rfl, rfl, nofun⟩
      · exact ⟨.inl rfl, rfl, nofun⟩
  | filter _ _ built =>
      rcases mem_floodRulesFilters built with ⟨_, _, rfl⟩ | rfl
      · exact ⟨.inr rfl, rfl, nofun⟩
      · exact ⟨.inr rfl, rfl, nofun⟩
  | stackRule _ _ built =>
      obtain ⟨_, _, _, _, rfl⟩ := mem_floodRulesFloodActs built
      exact ⟨.inl rfl, rfl, nofun⟩

theorem addsAndDeletes {table : Fin 255}
    (ofTables : table = (stack.node self).floodTable ∨ table ∈ (stack.node self).otherTables) :
    AddsAndDeletes table (stack.node self).flowCookie (stack.ofmsgs self view) where
  oneTable := by
    intro mod member
    rcases flowMod_mem_ofmsgs.mp member with fixed | varies
    · rcases fixed_cases fixed with ⟨_, notAll, _⟩ | ⟨_, _, built⟩
      · exact notAll
      · obtain ⟨table, _, _, _, _, rfl⟩ := mem_delHostFlows built
        exact Nat.ne_of_lt table.isLt
    · rcases varies.table.1 with inTable | inTable
      · exact inTable ▸ Nat.ne_of_lt (Fin.isLt _)
      · exact inTable ▸ Nat.ne_of_lt (Fin.isLt _)
  sameCookie := by
    intro mod member inTable
    rcases flowMod_mem_ofmsgs.mp member with fixed | varies
    · rcases fixed_cases fixed with ⟨_, _, notFlood, cookie⟩ | ⟨_, _, built⟩
      · rcases ofTables with rfl | other
        · exact absurd inTable notFlood
        · exact (cookie table other inTable).1
      · obtain ⟨_, _, _, _, _, rfl⟩ := mem_delHostFlows built
        rfl
    · exact varies.table.2.1
  noModify := by
    intro mod member _
    rcases flowMod_mem_ofmsgs.mp member with fixed | varies
    · rcases fixed_cases fixed with ⟨isAdd, _⟩ | ⟨_, _, built⟩
      · rw [isAdd]
        rintro ⟨⟩
      · obtain ⟨_, _, _, _, _, rfl⟩ := mem_delHostFlows built
        rintro ⟨⟩
    · exact varies.table.2.2

/-! ## Rules that are always sent or deleted -/

theorem adds_of_isVlanFlow (isVlan : stack.IsVlanFlow self flow) :
    Adds (stack.ofmsgs self view) flow := by
  obtain ⟨conf, dst, ruled, plain, rfl⟩ := isVlan
  exact ⟨_, flowMod_mem_ofmsgs.mpr (.inr (.vlanRule ruled plain)), rfl, names_flowmod.mpr rfl⟩

theorem adds_of_isStackFlow (isStack : stack.IsStackFlow self flow) :
    Adds (stack.ofmsgs self view) flow := by
  obtain ⟨conf, dst, ruled, port, listed, portFlag, flagged, rfl⟩ := isStack
  have built : ∃ floodActs, stack.floodRule self (stack.stackFloodMatch conf.vid port dst portFlag)
      (some (stack.number port)) dst floodActs ∈
        stack.floodRulesFloodActs self view (stack.vlanOf self conf) dst port := by
    unfold floodRulesFloodActs
    rcases flagged with ⟨externals, rfl | rfl⟩ | ⟨noExternals, rfl⟩
    · rw [externals, if_pos rfl]
      exact ⟨_, List.mem_cons_self⟩
    · rw [externals, if_pos rfl]
      exact ⟨_, List.mem_cons_of_mem _ (List.mem_singleton_self _)⟩
    · rw [noExternals, if_neg Bool.false_ne_true]
      exact ⟨_, List.mem_singleton_self _⟩
  obtain ⟨floodActs, built⟩ := built
  exact ⟨_, flowMod_mem_ofmsgs.mpr (.inr (.stackRule ruled listed built)), rfl,
    names_flowmod.mpr rfl⟩

theorem decides_of_isFilterFlow (isFilter : stack.IsFilterFlow self flow) :
    Adds (stack.ofmsgs self view) flow ∨ Deletes (stack.ofmsgs self view) flow := by
  obtain ⟨conf, dst, ruled, port, listed, rfl⟩ := isFilter
  have sent : ∀ mod ∈ stack.floodRulesFilters self view conf.vid dst port,
      .flowMod mod ∈ stack.ofmsgs self view :=
    fun mod built => flowMod_mem_ofmsgs.mpr (.inr (.filter ruled listed built))
  unfold floodRulesFilters at sent
  dsimp only at sent
  split at sent
  next => exact .inl ⟨_, sent _ (List.mem_singleton_self _), rfl, names_flowmod.mpr rfl⟩
  next =>
    have deleted := sent _ List.mem_cons_self
    by_cases readded : Readded (stack.ofmsgs self view) (.flowMod ((stack.node self).flowdel
      (stack.node self).classificationTable (stack.filterMatch conf.vid dst port)
        (filterPriorityOf dst) none true))
    · obtain ⟨other, member, kind, sameKey⟩ := readded
      obtain ⟨other, rfl, notDel⟩ := flowMod_of_flowaddmod kind
      obtain ⟨sameMatch, _, samePriority, sameTable⟩ :=
        FlowmodKey.mk.inj (Option.some.inj sameKey)
      have batch : AddsAndDeletes (stack.node self).classificationTable
          (stack.node self).flowCookie (stack.ofmsgs self view) :=
        addsAndDeletes (.inr (by simp [Node.otherTables]))
      have named : other.names (stack.filterFlow self conf.vid dst port) = true := by
        rw [FlowMod.names, sameMatch, samePriority, sameTable]
        simp [Node.flowdel, filterFlow]
      obtain ⟨_, ⟨⟩, isAdd, _⟩ := batch.add_of_sets rfl member
        (show sets (stack.filterFlow self conf.vid dst port) (.flowMod other) = true by
          rw [sets, notDel, named]
          rfl)
      exact .inl ⟨other, member, isAdd, named⟩
    · refine .inr ⟨_, deleted, rfl, ?_, rfl, readded⟩
      exact reaches_flowdel.mpr ⟨rfl, rfl, rfl⟩

/-! ## Rules of ports -/

theorem mem_portRules {decided : DecidedRule} : decided ∈ stack.portRules self view ↔
    ∃ conf dst port, stack.Ruled self conf dst ∧
      port ∈ (stack.vlanOf self conf).allPorts dst.unicast ∧
      decided = ⟨conf.vid, dst, port.number,
        stack.portRule self view (stack.vlanOf self conf) dst port⟩ := by
  rw [portRules, List.mem_flatMap]
  constructor
  · rintro ⟨conf, known, member⟩
    split at member
    next => cases member
    next unreserved =>
      obtain ⟨dst, listed, member⟩ := List.mem_flatMap.mp member
      obtain ⟨port, inVlan, rfl⟩ := List.mem_map.mp member
      exact ⟨conf, dst, port, ⟨known, by simpa using unreserved, listed⟩, inVlan, rfl⟩
  · rintro ⟨conf, dst, port, ruled, inVlan, rfl⟩
    refine ⟨conf, ruled.known, ?_⟩
    rw [ruled.unreserved, if_neg Bool.false_ne_true]
    exact List.mem_flatMap.mpr ⟨dst, ruled.listed, List.mem_map.mpr ⟨port, inVlan, rfl⟩⟩

omit [LinearOrder Dp] in
/-- A flow is the rule of one port at most. -/
theorem rule_unique {conf' : VlanConf} {dst' : FloodDst} {port port' : Flooding.Port}
    (ruled : stack.Ruled self conf dst) (ruled' : stack.Ruled self conf' dst')
    (inVlan : port ∈ (stack.vlanOf self conf).allPorts dst.unicast)
    (inVlan' : port' ∈ (stack.vlanOf self conf').allPorts dst'.unicast)
    (same : stack.floodFlow self conf.vid (some port.number) dst =
      stack.floodFlow self conf'.vid (some port'.number) dst') :
    conf = conf' ∧ dst = dst' ∧ port = port' := by
  obtain ⟨vid, number, rfl⟩ := Flooding.Dp.flowId_inj (Flooding.Dp.mem_allFloodDsts ruled.listed)
    (Flooding.Dp.mem_allFloodDsts ruled'.listed) same
  refine ⟨List.inj_on_of_nodup_map (stack.node self).vids ruled.known ruled'.known vid, rfl, ?_⟩
  exact Flooding.eq_of_number (stack.node self).numbers (Flooding.mem_allPorts.mp inVlan).1
    (Flooding.mem_allPorts.mp inVlan').1 (Option.some.inj number)

omit [LinearOrder Dp] in
theorem inPort_mem_stackFloodMatch {vid : Vid} {portFlag : Option ℕ} {number : PortNo} :
    ⟨0, number, none⟩ ∈ (stack.stackFloodMatch vid port dst portFlag).items ↔
      number = stack.number port := by
  have kinds : ((portFlag.toList.map Learning.vlanPcp ++
      Flooding.floodFields vid (some (stack.number port)) dst).map (·.field)).Nodup := by
    obtain ⟨unicast, ethType, ethDst⟩ := dst
    cases portFlag <;> cases ethType <;> cases ethDst <;>
      simp [Flooding.floodFields, FloodDst.fields, Learning.vlanPcp]
  rw [stackFloodMatch, Match.mem_ofFields kinds, List.mem_append, Flooding.mem_floodFields]
  constructor
  · rintro (flagged | ⟨other, same, equal⟩ | equal | ofDst)
    · obtain ⟨_, _, equal⟩ := List.mem_map.mp flagged
      cases equal
    · cases equal
      exact (Option.some.inj same).symm
    · cases equal
    · rcases Flooding.kind_of_mem_fields ofDst with kind | kind <;> cases kind
  · rintro rfl
    exact .inr (.inl ⟨_, rfl, rfl⟩)

/-- A port of a VLAN does not have the number of a stack port. -/
theorem number_apart {other : Flooding.Port} (listed : port ∈ stack.stackPorts self)
    (inVlan : other ∈ (stack.vlanOf self conf).allPorts dst.unicast) :
    other.number ≠ stack.number port := by
  have own : stack.dp port = self := by simpa [Fabric.stackPorts] using (List.mem_filter.mp listed).2
  subst own
  exact stack.apart port other (Flooding.mem_allPorts.mp inVlan).1

/-- The match of the rule of a port covers no rule of a whole VLAN or of a stack port. -/
theorem not_covers {other : Flooding.Port}
    (inVlan : other ∈ (stack.vlanOf self conf).allPorts dst.unicast)
    (always : stack.IsVlanFlow self flow ∨ stack.IsStackFlow self flow) :
    (floodMatch conf.vid (some other.number) dst).covers flow.matchFields = false := by
  rw [← Bool.not_eq_true]
  intro covers
  have present := Match.mem_of_covers rfl covers
    (inPort_mem_floodMatch.mpr (rfl : some other.number = some other.number))
  rcases always with ⟨conf', dst', _, _, rfl⟩ | ⟨conf', dst', _, port, listed, portFlag, _, rfl⟩
  · cases inPort_mem_floodMatch.mp present
  · exact number_apart listed inVlan (inPort_mem_stackFloodMatch.mp present)

theorem floodFlow_not_always {other : Flooding.Port}
    (inVlan : other ∈ (stack.vlanOf self conf).allPorts dst.unicast) :
    ¬ stack.IsVlanFlow self (stack.floodFlow self conf.vid (some other.number) dst) ∧
      ¬ stack.IsStackFlow self (stack.floodFlow self conf.vid (some other.number) dst) := by
  have self_covers : (floodMatch conf.vid (some other.number) dst).covers
      (stack.floodFlow self conf.vid (some other.number) dst).matchFields = true :=
    Match.covers_self
  constructor
  · intro isVlan
    rw [not_covers inVlan (.inl isVlan)] at self_covers
    cases self_covers
  · intro isStack
    rw [not_covers inVlan (.inr isStack)] at self_covers
    cases self_covers

omit [LinearOrder Dp] in
theorem installs_eq_some {decided : DecidedRule} {entry : FlowEntry} :
    stack.installs self flow decided = some entry ↔
      ∃ floodActs, decided.rule = .install floodActs ∧
        flow = stack.floodFlow self decided.vid (some decided.port) decided.dst ∧
        entry = stack.floodEntry self floodActs := by
  obtain ⟨vid, dst, port, rule⟩ := decided
  cases rule with
  | install floodActs => simp [installs, eq_comm]
  | remove => simp [installs]
  | skip => simp [installs]

section Decision

variable {other : Flooding.Port} {floodActs : List Act}

/-- A port with a rule of its own. -/
theorem decision_of_install (ruled : stack.Ruled self conf dst)
    (inVlan : other ∈ (stack.vlanOf self conf).allPorts dst.unicast)
    (rule : stack.portRule self view (stack.vlanOf self conf) dst other = .install floodActs) :
    stack.decision self view (stack.floodFlow self conf.vid (some other.number) dst) =
      some (some (stack.floodEntry self floodActs)) := by
  have installed : ∃ decided ∈ stack.portRules self view,
      (stack.installs self (stack.floodFlow self conf.vid (some other.number) dst) decided).isSome := by
    refine ⟨_, mem_portRules.mpr ⟨conf, dst, other, ruled, inVlan, rfl⟩, ?_⟩
    have found : stack.installs self (stack.floodFlow self conf.vid (some other.number) dst)
        ⟨conf.vid, dst, other.number, stack.portRule self view (stack.vlanOf self conf) dst other⟩ =
          some (stack.floodEntry self floodActs) :=
      installs_eq_some.mpr ⟨floodActs, rule, rfl, rfl⟩
    rw [found]
    rfl
  obtain ⟨entry, found⟩ := Option.isSome_iff_exists.mp (List.findSome?_isSome_iff.mpr installed)
  rw [decision, found]
  obtain ⟨decided, member, installs⟩ := List.exists_of_findSome?_eq_some found
  obtain ⟨conf', dst', other', ruled', inVlan', rfl⟩ := mem_portRules.mp member
  obtain ⟨floodActs', rule', same, rfl⟩ := installs_eq_some.mp installs
  obtain ⟨rfl, rfl, rfl⟩ := rule_unique ruled ruled' inVlan inVlan' same
  cases rule.symm.trans rule'
  rfl

/-- A flow that is not the rule of a port with a rule of its own: it goes with the rule of a
port that needs none, or nothing is said about it. -/
theorem decision_of_not_install
    (free : ∀ conf dst other floodActs, stack.Ruled self conf dst →
      other ∈ (stack.vlanOf self conf).allPorts dst.unicast →
      stack.portRule self view (stack.vlanOf self conf) dst other = .install floodActs →
      flow ≠ stack.floodFlow self conf.vid (some other.number) dst) :
    stack.decision self view flow =
      if (stack.portRules self view).any (stack.removes self flow) then some none else none := by
  have absent : (stack.portRules self view).findSome? (stack.installs self flow) = none := by
    refine List.findSome?_eq_none_iff.mpr fun decided member => ?_
    rw [Option.eq_none_iff_forall_not_mem]
    intro entry installs
    obtain ⟨conf, dst, other, ruled, inVlan, rfl⟩ := mem_portRules.mp member
    obtain ⟨floodActs, rule, same, _⟩ := installs_eq_some.mp installs
    exact free conf dst other floodActs ruled inVlan rule same
  rw [decision, absent]

theorem any_removes (inTable : flow.tableId = (stack.node self).floodTable) :
    (stack.portRules self view).any (stack.removes self flow) = true ↔
      ∃ conf dst other, stack.Ruled self conf dst ∧
        other ∈ (stack.vlanOf self conf).allPorts dst.unicast ∧
        stack.portRule self view (stack.vlanOf self conf) dst other = .remove ∧
        (floodMatch conf.vid (some other.number) dst).covers flow.matchFields = true := by
  rw [List.any_eq_true]
  constructor
  · rintro ⟨decided, member, removed⟩
    obtain ⟨conf, dst, other, ruled, inVlan, rfl⟩ := mem_portRules.mp member
    simp only [removes, Bool.and_eq_true, decide_eq_true_eq] at removed
    exact ⟨conf, dst, other, ruled, inVlan, removed.1.1, removed.2⟩
  · rintro ⟨conf, dst, other, ruled, inVlan, rule, covers⟩
    refine ⟨_, mem_portRules.mpr ⟨conf, dst, other, ruled, inVlan, rfl⟩, ?_⟩
    simp [removes, rule, inTable, covers]

/-- Nothing is decided about the rules that are always sent. -/
theorem decision_of_always (always : stack.IsVlanFlow self flow ∨ stack.IsStackFlow self flow) :
    stack.decision self view flow = none := by
  have inTable : flow.tableId = (stack.node self).floodTable := by
    rcases always with ⟨_, _, _, _, rfl⟩ | ⟨_, _, _, _, _, _, _, rfl⟩
    · rfl
    · rfl
  rw [decision_of_not_install, if_neg]
  · rw [any_removes inTable]
    rintro ⟨conf, dst, other, _, inVlan, _, covers⟩
    rw [not_covers inVlan always] at covers
    cases covers
  · rintro conf dst other _ _ inVlan _ rfl
    obtain ⟨notVlan, notStack⟩ := floodFlow_not_always inVlan
    rcases always with isVlan | isStack
    · exact notVlan isVlan
    · exact notStack isStack

end Decision

/-! ## The flood table -/

theorem varies_of_floodTable (member : .flowMod mod ∈ stack.ofmsgs self view)
    (inTable : mod.tableId = (stack.node self).floodTable.val) : Varies stack self view mod := by
  rcases flowMod_mem_ofmsgs.mp member with fixed | varies
  · rcases fixed_cases fixed with ⟨_, _, notFlood, _⟩ | ⟨_, _, built⟩
    · exact absurd inTable notFlood
    · obtain ⟨table, listed, _, _, _, rfl⟩ := mem_delHostFlows built
      refine absurd ?_ (stack.floodApart self)
      rw [← Fin.ext (a := table) inTable]
      exact List.mem_cons_of_mem _ (List.mem_cons_of_mem _ listed)
  · exact varies

section FloodTable

variable (inTable : flow.tableId = (stack.node self).floodTable)
include inTable

omit [LinearOrder Dp] inTable in
theorem classification_ne_flood :
    (stack.node self).classificationTable ≠ (stack.node self).floodTable := by
  intro same
  exact stack.floodApart self (by simp [← same, Node.otherTables])

/-- An add of a flow that is not always sent is of a port with a rule of its own. -/
theorem install_of_names (notVlan : ¬ stack.IsVlanFlow self flow)
    (notStack : ¬ stack.IsStackFlow self flow) (member : .flowMod mod ∈ stack.ofmsgs self view)
    (isAdd : mod.command = .add) (named : mod.names flow = true) :
    ∃ conf dst other floodActs, stack.Ruled self conf dst ∧
      other ∈ (stack.vlanOf self conf).allPorts dst.unicast ∧
      stack.portRule self view (stack.vlanOf self conf) dst other = .install floodActs ∧
      flow = stack.floodFlow self conf.vid (some other.number) dst ∧
      mod.entry = stack.floodEntry self floodActs := by
  have ofTable : mod.tableId = (stack.node self).floodTable.val := by
    rw [FlowMod.names, Bool.and_eq_true, Bool.and_eq_true, beq_iff_eq, inTable] at named
    exact named.1.1
  cases varies_of_floodTable member ofTable with
  | vlanRule ruled plain =>
      exact absurd ⟨_, _, ruled, plain, names_flowmod.mp named⟩ notVlan
  | portRule ruled inVlan built =>
      rcases mem_portRuleMods.mp built with ⟨floodActs, rule, rfl⟩ | ⟨_, rfl⟩
      · exact ⟨_, _, _, floodActs, ruled, inVlan, rule, names_flowmod.mp named, rfl⟩
      · cases isAdd
  | filter _ _ built =>
      rcases mem_floodRulesFilters built with ⟨_, _, rfl⟩ | rfl
      · exact absurd (Fin.ext ofTable) classification_ne_flood
      · cases isAdd
  | stackRule ruled listed built =>
      obtain ⟨portFlag, _, flagged, _, rfl⟩ := mem_floodRulesFloodActs built
      exact absurd ⟨_, _, ruled, _, listed, portFlag, flagged, names_flowmod.mp named⟩ notStack

/-- A delete that reaches a flow is of a port that needs no rule. -/
theorem remove_of_reaches (member : .flowMod mod ∈ stack.ofmsgs self view)
    (reaches : mod.reaches flow = true) :
    ∃ conf dst other, stack.Ruled self conf dst ∧
      other ∈ (stack.vlanOf self conf).allPorts dst.unicast ∧
      stack.portRule self view (stack.vlanOf self conf) dst other = .remove ∧
      (floodMatch conf.vid (some other.number) dst).covers flow.matchFields = true := by
  have batch : AddsAndDeletes (stack.node self).floodTable (stack.node self).flowCookie
      (stack.ofmsgs self view) := addsAndDeletes (.inl rfl)
  have ofTable : mod.tableId = (stack.node self).floodTable.val := by
    have reached := reaches
    rw [FlowMod.reaches, Bool.and_eq_true, Bool.or_eq_true, beq_iff_eq, beq_iff_eq,
      inTable] at reached
    exact reached.1.resolve_left (batch.oneTable mod member)
  have isDel := FlowMod.isFlowdel_of_reaches reaches
  cases varies_of_floodTable member ofTable with
  | vlanRule => cases isDel
  | portRule ruled inVlan built =>
      rcases mem_portRuleMods.mp built with ⟨_, _, rfl⟩ | ⟨rule, rfl⟩
      · cases isDel
      · exact ⟨_, _, _, ruled, inVlan, rule, (reaches_flowdel.mp reaches).2⟩
  | filter _ _ built =>
      rcases mem_floodRulesFilters built with ⟨_, _, rfl⟩ | rfl
      · cases isDel
      · exact absurd (Fin.ext ofTable) classification_ne_flood
  | stackRule _ _ built =>
      obtain ⟨_, _, _, _, rfl⟩ := mem_floodRulesFloodActs built
      cases isDel

omit inTable in
/-- The rule of a port that needs none is deleted. -/
theorem deletes_of_remove {other : Flooding.Port} (ruled : stack.Ruled self conf dst)
    (inVlan : other ∈ (stack.vlanOf self conf).allPorts dst.unicast)
    (rule : stack.portRule self view (stack.vlanOf self conf) dst other = .remove)
    (inTable : flow.tableId = (stack.node self).floodTable)
    (covers : (floodMatch conf.vid (some other.number) dst).covers flow.matchFields = true) :
    Deletes (stack.ofmsgs self view) flow := by
  have batch : AddsAndDeletes (stack.node self).floodTable (stack.node self).flowCookie
      (stack.ofmsgs self view) := addsAndDeletes (.inl rfl)
  have built := mem_portRuleMods.mpr (.inr ⟨rule, rfl⟩)
  refine ⟨_, flowMod_mem_ofmsgs.mpr (.inr (.portRule ruled inVlan built)), rfl,
    reaches_flowdel.mpr ⟨inTable, covers⟩, rfl, ?_⟩
  rintro ⟨readd, member, kind, sameKey⟩
  obtain ⟨readd, rfl, notDel⟩ := flowMod_of_flowaddmod kind
  obtain ⟨sameMatch, _, samePriority, sameTable⟩ := FlowmodKey.mk.inj (Option.some.inj sameKey)
  have named : readd.names (stack.floodFlow self conf.vid (some other.number) dst) = true := by
    rw [FlowMod.names, sameMatch, samePriority, sameTable]
    simp [Node.flowdel, floodFlow, Flooding.Dp.flowId]
  have isSet : sets (stack.floodFlow self conf.vid (some other.number) dst)
      (.flowMod readd) = true := by
    rw [sets, notDel, named]
    rfl
  obtain ⟨_, ⟨⟩, isAdd, _⟩ := batch.add_of_sets rfl member isSet
  obtain ⟨notVlan, notStack⟩ := floodFlow_not_always inVlan
  obtain ⟨conf', dst', other', floodActs, ruled', inVlan', rule', same, _⟩ :=
    install_of_names rfl notVlan notStack member isAdd named
  obtain ⟨rfl, rfl, rfl⟩ := rule_unique ruled ruled' inVlan inVlan' same
  cases rule.symm.trans rule'

end FloodTable

end Stacked

end Faucet.Stack
