import Faucet.Flooding.Events

/-!
# What a packet is flooded to

The flood table sends a packet by its rule of the highest priority that accepts it,
directly or by the group of the rule. A switch does not send a packet out of the port
it came in by, unless it is told so with `OFPP_IN_PORT`.

The rules that are wanted for a state of the ports are installed (`Installed`) when
those of the VLANs are there, and those of the ports that are up. What is left of the
rules of ports that are down plays no part: two switches with the wanted rules flood
the packets from the other ports in the same way (`Installed.sameFlooding`).
-/

set_option autoImplicit false

namespace Faucet.Flooding

open OpenFlow

/-! ## Packets -/

/-- A packet in the flood table, with its VLAN tag. -/
structure Packet where
  inPort : PortNo
  vid : Vid
  ethType : ℕ
  ethDst : ℕ
deriving DecidableEq, Repr

namespace Packet

variable (packet : Packet)

/-- The field of a kind. -/
def value (kind : ℕ) : Option ℕ :=
  if kind = 0 then some packet.inPort
  else if kind = 3 then some packet.ethDst
  else if kind = 5 then some packet.ethType
  else if kind = 6 then some (packet.vid + 0x1000)
  else none

/-- The packet has the field, as far as the mask asks for it. -/
def hasField (field : OxmField) : Bool :=
  match packet.value field.field, field.mask with
  | none, _ => false
  | some value, none => value == field.value
  | some value, some mask => value &&& mask == field.value &&& mask

/-- The packet has all fields of the match. -/
def accepted (fields : Match) : Bool := fields.items.all packet.hasField

end Packet

/-- The rule is one of the highest priority that accept the packet. -/
structure Selects (dp : Dp) (switch : Switch) (packet : Packet) (flow : FlowId)
    (entry : FlowEntry) : Prop where
  inTable : flow.tableId = dp.floodTable
  present : switch.flows flow = some entry
  accepts : packet.accepted flow.matchFields = true
  best : ∀ other, other.tableId = dp.floodTable → switch.flows other ≠ none →
    packet.accepted other.matchFields = true → other.priority ≤ flow.priority

/-! ## Outputs -/

/-- A copy of the packet: where it is sent, and whether it is tagged. -/
structure Output where
  port : PortNo
  tagged : Bool
deriving DecidableEq, Repr

/-- Where an output to this port goes. -/
def outputTo (inPort port : PortNo) : Option PortNo :=
  if port = ofppInPort then some inPort else if port = inPort then none else some port

/-- The copies that the actions of a bucket send. -/
def bucketOutputs (inPort : PortNo) : Bool → List Act → List Output
  | _, [] => []
  | tagged, .output port :: rest =>
      (outputTo inPort port).toList.map (⟨·, tagged⟩) ++ bucketOutputs inPort tagged rest
  | tagged, act :: rest => bucketOutputs inPort (tagged && act ≠ popVlan) rest

/-- The copies that a group of all buckets sends. -/
def groupOutputs (inPort : PortNo) (tagged : Bool) (group : Group) : List Output :=
  group.buckets.flatMap fun bucket => bucketOutputs inPort tagged bucket.actions

/-- The copies that actions send, with those of their groups. -/
def actOutputs (groups : ℕ → Option Group) (inPort : PortNo) : Bool → List Act → List Output
  | _, [] => []
  | tagged, .output port :: rest =>
      (outputTo inPort port).toList.map (⟨·, tagged⟩) ++ actOutputs groups inPort tagged rest
  | tagged, .group groupId :: rest =>
      (groups groupId).toList.flatMap (groupOutputs inPort tagged) ++
        actOutputs groups inPort tagged rest
  | tagged, act :: rest => actOutputs groups inPort (tagged && act ≠ popVlan) rest

/-- The copies that a flow sends. -/
def entryOutputs (groups : ℕ → Option Group) (inPort : PortNo) (entry : FlowEntry) :
    List Output :=
  entry.instructions.flatMap fun instruction => match instruction with
    | .applyActions actions => actOutputs groups inPort true actions
    | _ => []

/-- The packet is flooded to this output. -/
def Floods (dp : Dp) (switch : Switch) (packet : Packet) (output : Output) : Prop :=
  ∃ flow entry, Selects dp switch packet flow entry ∧
    output ∈ entryOutputs switch.groups packet.inPort entry

/-- The two switches flood in the same way whatever comes in by a port that is up. -/
def SameFlooding (dp : Dp) (ports : List Port) (switch fresh : Switch) : Prop :=
  ∀ packet output, (∃ port ∈ ports, port.number = packet.inPort ∧ port.dynPhysUp = true) →
    (Floods dp switch packet output ↔ Floods dp fresh packet output)

section Outputs

variable {groups groups' : ℕ → Option Group} {inPort : PortNo}

theorem actOutputs_congr {acts : List Act}
    (same : ∀ groupId, .group groupId ∈ acts → groups groupId = groups' groupId) (tagged : Bool) :
    actOutputs groups inPort tagged acts = actOutputs groups' inPort tagged acts := by
  induction acts generalizing tagged with
  | nil => rfl
  | cons act rest ih =>
      have ih := ih fun groupId member => same groupId (List.mem_cons_of_mem _ member)
      cases act with
      | output port => rw [actOutputs, actOutputs, ih]
      | group groupId => rw [actOutputs, actOutputs, ih, same groupId List.mem_cons_self]
      | other code => rw [actOutputs, actOutputs, ih] <;> simp

theorem subset_of_floodInst {floodActs actions : List Act}
    (member : .applyActions actions ∈ floodInst floodActs) : actions ⊆ floodActs := by
  unfold floodInst at member
  dsimp only at member
  split at member
  next => cases member
  next =>
    cases List.mem_singleton.mp member
    exact List.IsPrefix.subset (List.rdropWhile_prefix _ _)

theorem entryOutputs_congr {dp : Dp} {floodActs : List Act}
    (same : ∀ groupId, .group groupId ∈ floodActs → groups groupId = groups' groupId) :
    entryOutputs groups inPort (dp.floodEntry floodActs) =
      entryOutputs groups' inPort (dp.floodEntry floodActs) := by
  refine List.flatMap_congr fun instruction member => ?_
  cases instruction with
  | applyActions actions =>
      exact actOutputs_congr (fun groupId listed =>
        same groupId (subset_of_floodInst member listed)) true
  | _ => rfl

end Outputs

/-! ## Where groups occur -/

theorem not_group_floodPortOutputs {taggedPorts untaggedPorts : List Port} {inPort : Option Port}
    {excludePorts : List PortNo} {groupId : ℕ} :
    .group groupId ∉ floodPortOutputs taggedPorts untaggedPorts inPort excludePorts := by
  have tagged : ∀ ports, .group groupId ∉ floodTaggedPortOutputs ports inPort excludePorts := by
    intro ports member
    obtain ⟨_, _, same⟩ := List.mem_map.mp member
    cases same
  intro member
  rcases List.mem_append.mp member with member | member
  · exact tagged _ member
  · unfold floodUntaggedPortOutputs at member
    dsimp only at member
    split at member
    next => cases member
    next =>
      rcases List.mem_cons.mp member with same | member
      · cases same
      · exact tagged _ member

namespace Vlan

variable {vlan : Vlan} {groupId : ℕ}

theorem not_group_buildFloodRuleActions {excludeUnicast excludeAll excludeRestricted : Bool}
    {inPort : Option Port} :
    .group groupId ∉
      vlan.buildFloodRuleActions excludeUnicast inPort excludeAll excludeRestricted := by
  intro member
  rcases List.mem_append.mp member with external | member
  · split at external
    · cases List.mem_singleton.mp external
    · cases external
  · exact not_group_floodPortOutputs member

theorem not_group_buildFloodActsForPort {excludeUnicast excludeRestricted : Bool} {port : Port} :
    .group groupId ∉ vlan.buildFloodActsForPort excludeUnicast port excludeRestricted := by
  intro member
  unfold buildFloodActsForPort at member
  split at member
  next =>
    dsimp only at member
    split at member
    next => cases member
    next => exact not_group_buildFloodRuleActions (OrderedDict.mem_of_mem_values member)
  next => cases member

end Vlan

namespace Dp

variable {dp : Dp} {vlan : Vlan} {dst : FloodDst} {port : Port} {floodActs : List Act}

theorem acts_of_install (rule : dp.portRule vlan dst port = .install floodActs) :
    floodActs = vlan.buildFloodActsForPort dst.unicast port dst.ethType.isNone := by
  unfold portRule at rule
  dsimp only at rule
  split at rule
  next => cases rule
  next =>
    split at rule
    next => cases rule
    next =>
      cases rule
      rfl

/-- Rules refer to groups only with the group table, and to the groups of their VLAN. -/
theorem group_of_ruleActs {inPort : Option Port} {groupId : ℕ}
    (wanted : dp.ruleActs vlan dst inPort = some floodActs) (member : .group groupId ∈ floodActs) :
    dp.useGroupTable = true ∧ groupId = vlan.floodGroupId dst.unicast := by
  cases inPort with
  | none =>
      rw [ruleActs, vlanActs] at wanted
      split at wanted
      next => cases wanted
      next =>
        split at wanted
        next group =>
          cases wanted
          cases List.mem_singleton.mp member
          exact ⟨group, rfl⟩
        next =>
          cases wanted
          exact absurd member Vlan.not_group_buildFloodRuleActions
  | some port =>
      obtain ⟨_, rule⟩ := ruleActs_port_iff.mp wanted
      rw [acts_of_install rule] at member
      exact absurd member Vlan.not_group_buildFloodActsForPort

end Dp

/-! ## The rules that are installed -/

theorem Dp.eq_floodDrop {dp : Dp} {mod : FlowMod} (member : mod ∈ dp.coldStartDrops) :
    ∃ ethDst, mod = dp.floodDrop ethDst := by
  rcases List.mem_cons.mp member with rfl | member
  · exact ⟨none, rfl⟩
  · obtain ⟨ethDst, _, rfl⟩ := List.mem_map.mp member
    exact ⟨some ethDst, rfl⟩

/-- The flow is the rule of a VLAN, or of one of the ports in a VLAN. -/
def Dp.RuleId (dp : Dp) (ports : List Port) (flow : FlowId) : Prop :=
  ∃ conf ∈ dp.vlans, conf.reservedInternalVlan = false ∧ ∃ dst ∈ dp.vlanFloodDsts conf,
    ∃ inPort : Option Port, (∀ port ∈ inPort, port ∈ ports) ∧
      flow = dp.flowId conf.vid (inPort.map (·.number)) dst

/-- The flows that drop. -/
def Dp.initialFlows (dp : Dp) (flow : FlowId) : Option FlowEntry :=
  (dp.coldStartDrops.find? (·.names flow)).map FlowMod.entry

/-- The rule is not one of a port in the VLAN that is down. -/
def Watched (ports : List Port) (vlan : Vlan) (dst : FloodDst) (inPort : Option Port) : Prop :=
  ∀ port ∈ inPort, port ∈ ports ∧
    (port.dynPhysUp = true ∨ port ∉ vlan.allPorts dst.unicast)

/-- The switch has the rules that are wanted for the ports, and their groups. -/
structure Installed (dp : Dp) (ports : List Port) (switch : Switch) : Prop where
  rules : ∀ conf ∈ dp.vlans, conf.reservedInternalVlan = false → ∀ dst ∈ dp.vlanFloodDsts conf,
    ∀ inPort, Watched ports (conf.resetPorts ports) dst inPort →
      switch.flows (dp.flowId conf.vid (inPort.map (·.number)) dst) =
        (dp.ruleActs (conf.resetPorts ports) dst inPort).map dp.floodEntry
  others : ∀ flow, flow.tableId = dp.floodTable → ¬ dp.RuleId ports flow →
    switch.flows flow = dp.initialFlows flow
  groups : dp.useGroupTable = true → ∀ conf ∈ dp.vlans, conf.reservedInternalVlan = false →
    ∀ unicast, switch.groups ((conf.resetPorts ports).floodGroupId unicast) =
      some ((conf.resetPorts ports).floodGroup unicast)

section Installed

variable {dp : Dp} {ports : List Port} {switch fresh : Switch} {packet : Packet}

theorem eq_of_number (numbers : (ports.map (·.number)).Nodup) {port other : Port}
    (member : port ∈ ports) (member' : other ∈ ports) (same : port.number = other.number) :
    port = other :=
  List.inj_on_of_nodup_map numbers member member' same

theorem inPort_of_accepted {vid : Vid} {dst : FloodDst} {inPort : Option PortNo} {port : PortNo}
    (accepts : packet.accepted (floodMatch vid inPort dst) = true) (isPort : inPort = some port) :
    packet.inPort = port := by
  have field := List.all_eq_true.mp accepts _ (inPort_mem_floodMatch.mpr isPort)
  simpa [Packet.hasField, Packet.value] using field

variable (numbers : (ports.map (·.number)).Nodup) (installed : Installed dp ports switch)
  (installed' : Installed dp ports fresh)
  (isUp : ∃ port ∈ ports, port.number = packet.inPort ∧ port.dynPhysUp = true)
include numbers installed installed' isUp

/-- The rules that accept the packet, and what they do with it, are the same. -/
theorem Installed.agree {flow : FlowId} (inTable : flow.tableId = dp.floodTable)
    (accepts : packet.accepted flow.matchFields = true) :
    switch.flows flow = fresh.flows flow ∧ ∀ entry, switch.flows flow = some entry →
      entryOutputs switch.groups packet.inPort entry =
        entryOutputs fresh.groups packet.inPort entry := by
  by_cases isRule : dp.RuleId ports flow
  · obtain ⟨conf, known, unreserved, dst, listed, inPort, member, rfl⟩ := isRule
    have watched : Watched ports (conf.resetPorts ports) dst inPort := by
      intro port isPort
      refine ⟨member port isPort, .inl ?_⟩
      obtain ⟨other, member', same, up⟩ := isUp
      have number := inPort_of_accepted accepts (by rw [Option.mem_def.mp isPort, Option.map_some])
      rwa [eq_of_number numbers (member port isPort) member' (number.symm.trans same.symm)]
    have rule := installed.rules conf known unreserved dst listed inPort watched
    have rule' := installed'.rules conf known unreserved dst listed inPort watched
    refine ⟨rule.trans rule'.symm, fun entry present => ?_⟩
    rw [rule, Option.map_eq_some_iff] at present
    obtain ⟨floodActs, wanted, rfl⟩ := present
    refine entryOutputs_congr fun groupId member => ?_
    obtain ⟨group, rfl⟩ := Dp.group_of_ruleActs wanted member
    rw [installed.groups group conf known unreserved, installed'.groups group conf known unreserved]
  · have rule := installed.others flow inTable isRule
    refine ⟨rule.trans (installed'.others flow inTable isRule).symm, fun entry present => ?_⟩
    rw [rule, Dp.initialFlows, Option.map_eq_some_iff] at present
    obtain ⟨mod, found, rfl⟩ := present
    obtain ⟨ethDst, rfl⟩ := Dp.eq_floodDrop (List.mem_of_find?_eq_some found)
    rfl

theorem Installed.floods_of_floods {output : Output} (floods : Floods dp switch packet output) :
    Floods dp fresh packet output := by
  obtain ⟨flow, entry, selected, sends⟩ := floods
  obtain ⟨same, sameOutputs⟩ :=
    installed.agree numbers installed' isUp selected.inTable selected.accepts
  refine ⟨flow, entry, ⟨selected.inTable, same ▸ selected.present, selected.accepts, ?_⟩,
    sameOutputs entry selected.present ▸ sends⟩
  intro other inTable present accepts
  rw [← (installed.agree numbers installed' isUp inTable accepts).1] at present
  exact selected.best other inTable present accepts

omit isUp in
/-- **Switches with the wanted rules flood in the same way.** -/
theorem Installed.sameFlooding : SameFlooding dp ports switch fresh := by
  intro packet output isUp
  exact ⟨installed.floods_of_floods numbers installed' isUp,
    installed'.floods_of_floods numbers installed isUp⟩

end Installed

end Faucet.Flooding
