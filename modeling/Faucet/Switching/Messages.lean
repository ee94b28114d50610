import Faucet.Flooding.Messages
import Faucet.Switching.Rules

/-!
# What the managers write keeps packets in their VLANs

Each message of the managers makes only rules that keep to the assertions of the tables,
and only groups of VLANs that output to their ports (`messages_keep`), in whatever state
the ports are.
-/

set_option autoImplicit false

namespace Faucet.Switching

open OpenFlow
open Flooding (Vid VlanConf FloodDst popVlan ofppInPort vlanGroupOffset
  setExternalForwardingRequested setNoExternalForwardingRequested outputTo)
open Learning (Mac inPort vlanVid)
open Lacp (ofppController nullVlan)

namespace Datapath

variable {dp : Datapath} {port : Port} {packet : Packet} {out : Output} {mod : FlowMod}
  {flow : FlowId} {vid : Vid}

/-- The message makes only rules and groups that keep packets to where they may go. -/
def MessageKeeps (dp : Datapath) (ofmsg : Ofmsg) : Prop :=
  MakesFlows dp.Keeps ofmsg ∧ MakesGroups dp.GroupKeeps ofmsg

theorem messageKeeps_flowMod (makes : MakesFlows dp.Keeps (.flowMod mod)) :
    dp.MessageKeeps (.flowMod mod) := ⟨makes, makesGroups_flowMod⟩

/-! ## The tables -/

theorem ne_vlanTable {table : Fin 255}
    (listed : table ∈ [dp.learning.ethSrcTable, dp.learning.ethDstTable, dp.flooding.floodTable] ++
      dp.learning.classification.toList ++ dp.learning.ethDstHairpinTable.toList) :
    (table : ℕ) ≠ dp.lag.vlanTable := by
  have apart := dp.apart
  rw [List.cons_append, List.cons_append, List.nodup_cons] at apart
  exact fun same => apart.1 (Fin.ext same ▸ listed)

theorem ethSrcTable_ne : (dp.learning.ethSrcTable : ℕ) ≠ dp.lag.vlanTable := ne_vlanTable (by simp)

theorem ethDstTable_ne : (dp.learning.ethDstTable : ℕ) ≠ dp.lag.vlanTable := ne_vlanTable (by simp)

theorem floodTable_ne : (dp.flooding.floodTable : ℕ) ≠ dp.lag.vlanTable := ne_vlanTable (by simp)

theorem hairpinTable_ne {table : Fin 255} (isTable : dp.learning.ethDstHairpinTable = some table) :
    (table : ℕ) ≠ dp.lag.vlanTable := ne_vlanTable (by simp [isTable])

theorem classificationTable_ne : (dp.learning.classificationTable : ℕ) ≠ dp.lag.vlanTable := by
  rw [Learning.Dp.classificationTable]
  cases isTable : dp.learning.classification with
  | none => exact ethSrcTable_ne
  | some table => exact ne_vlanTable (by simp [isTable])

theorem outputTable_ne : (dp.learning.outputTable : ℕ) ≠ dp.lag.vlanTable := by
  rw [Learning.Dp.outputTable]
  cases isTable : dp.learning.ethDstHairpinTable with
  | none => exact ethDstTable_ne
  | some table => exact hairpinTable_ne isTable

/-! ## Rules of the VLAN table -/

section VlanRules

variable {pushes : Option Vid} {switch : Switch}

/-- The actions of a rule for the packets of a VLAN. -/
def vlanActions (dp : Datapath) (port : Port) (pushes : Option Vid) : List Act :=
  port.mirror.map .output ++ ((pushes.toList.flatMap fun vid => [pushVlan, setVlanVid vid]) ++
    if dp.learning.hasExternals then
      if port.loopProtectExternal then [setNoExternalForwardingRequested]
      else [setExternalForwardingRequested]
    else [])

theorem vlanInst_eq : dp.vlanInst port pushes =
    (if dp.vlanActions port pushes = [] then [] else [.applyActions (dp.vlanActions port pushes)]) ++
      [.gotoTable dp.learning.classificationTable] := by
  rw [vlanInst, vlanActions, Learning.Port.mirrorActions, List.append_assoc]

theorem marks_outputs {groups : ℕ → Packet → List Output} {externals external : Bool} :
    actOutputs groups packet (if externals then
      if external then [setNoExternalForwardingRequested] else [setExternalForwardingRequested]
      else []) = [] := by
  cases externals <;> cases external <;> rfl

theorem marks_tags {externals external : Bool} :
    (packet.after (if externals then
      if external then [setNoExternalForwardingRequested] else [setExternalForwardingRequested]
      else [])).tags = packet.tags := by
  cases externals <;> cases external <;> rfl

theorem vlanActions_outputs {groups : ℕ → Packet → List Output} :
    actOutputs groups packet (dp.vlanActions port pushes) =
      (port.mirror.flatMap fun mirror => (outputTo packet.inPort mirror).toList).map
        fun sentTo => (⟨sentTo, packet.tags⟩ : Output) := by
  rw [vlanActions, mirrorActions_outputs]
  cases pushes with
  | none =>
      rw [Option.toList_none, List.flatMap_nil, List.nil_append, marks_outputs, List.append_nil]
  | some vid =>
      have quiet : actOutputs groups packet ((Option.toList (some vid)).flatMap
          (fun vid => [pushVlan, setVlanVid vid]) ++ if dp.learning.hasExternals then
            if port.loopProtectExternal then [setNoExternalForwardingRequested]
            else [setExternalForwardingRequested] else []) = [] := marks_outputs
      rw [quiet, List.append_nil]

theorem vlanActions_tags :
    (packet.after (dp.vlanActions port pushes)).tags = pushes.toList ++ packet.tags := by
  rw [vlanActions, mirrorActions_after]
  cases pushes with
  | none => exact marks_tags
  | some vid =>
      refine marks_tags.trans ?_
      rw [Packet.changed_pushVlan, Packet.changed_setVlanVid]
      rfl

theorem vlanInst_outputs (member : out ∈ instOutputs switch packet (dp.vlanInst port pushes)) :
    out ∈ (port.mirror.flatMap fun mirror => (outputTo packet.inPort mirror).toList).map
      fun sentTo => (⟨sentTo, packet.tags⟩ : Output) := by
  rw [vlanInst_eq] at member
  split at member
  · cases member
  · change out ∈ actOutputs (groupOutputs switch) packet (dp.vlanActions port pushes) ++ [] at member
    rwa [List.append_nil, vlanActions_outputs] at member

theorem vlanInst_through : packet.through (dp.vlanInst port pushes) =
    packet.after (dp.vlanActions port pushes) := by
  rw [vlanInst_eq]
  split
  next none =>
    rw [none]
    rfl
  next => rfl

/-- **A rule of the VLAN table** that hands packets on with the tag of a VLAN of the port. -/
theorem keeps_vlanInst (table : (flow.tableId : ℕ) = dp.lag.vlanTable) (known : port ∈ dp.ports)
    (forPort : inPort port.number ∈ flow.matchFields.items)
    (carries : ∀ packet : Packet, packet.accepted flow.matchFields = true →
      ∃ vid inner, port.Carries vid packet.tags inner ∧
        (packet.after (dp.vlanActions port pushes)).tags = vid :: inner) :
    dp.Keeps flow (dp.vlanInst port pushes) := by
  intro switch _ origin packet inTable accepts
  rw [table, inTable_first] at inTable
  subst inTable
  have number := (Packet.inPort_of_mem accepts forPort).symm
  refine ⟨fun out member => good_of_mirror known number (vlanInst_outputs member),
    fun next goes => ?_⟩
  have isNext : next = dp.learning.classificationTable := by
    rw [vlanInst_eq, List.mem_append, List.mem_singleton, Instruction.gotoTable.injEq] at goes
    rcases goes with impossible | same
    · split at impossible
      · cases impossible
      · cases List.mem_singleton.mp impossible
    · exact same
  obtain ⟨vid, inner, ofPort, tags⟩ := carries packet accepts
  rw [isNext, inTable_of_ne classificationTable_ne, vlanInst_through]
  exact ⟨port, known, number, Packet.after_inPort _, vid, inner, ofPort, tags⟩

theorem isUntagged_of_untaggedVlan (native : port.untaggedVlan = some vid) :
    port.isUntagged vid = true := by
  rw [Port.untaggedVlan] at native
  rw [Learning.Port.isUntagged, decide_eq_true_eq]
  cases dot1x : port.dynDot1xNativeVlan with
  | none =>
      rw [dot1x, Option.none_or] at native
      exact .inl ⟨native, rfl⟩
  | some dynamic =>
      rw [dot1x, Option.some_or] at native
      exact .inr native

theorem inPort_mem_vlanMatch : inPort port.number ∈ (Lacp.Datapath.vlanMatch port.number vid).items := by
  rw [Lacp.Datapath.vlanMatch, Match.mem_ofFields (by simp [inPort, vlanVid])]
  exact List.mem_cons_self

theorem vlanVid_mem_vlanMatch : vlanVid vid ∈ (Lacp.Datapath.vlanMatch port.number vid).items := by
  rw [Lacp.Datapath.vlanMatch, Match.mem_ofFields (by simp [inPort, vlanVid])]
  simp

theorem inPort_mem_nullVlanMatch :
    inPort port.number ∈ (Lacp.Datapath.nullVlanMatch port.number).items := by
  rw [Lacp.Datapath.nullVlanMatch, Match.mem_ofFields (by simp [inPort, nullVlan])]
  exact List.mem_cons_self

theorem nullVlan_mem_nullVlanMatch : nullVlan ∈ (Lacp.Datapath.nullVlanMatch port.number).items := by
  rw [Lacp.Datapath.nullVlanMatch, Match.mem_ofFields (by simp [inPort, nullVlan])]
  simp

theorem inPort_mem_lacpMatch : inPort port.number ∈ (Lacp.Datapath.lacpMatch port.number).items := by
  rw [Lacp.Datapath.lacpMatch, Match.mem_ofFields (by simp [inPort, Learning.ethDst, Lacp.ethTypeSlow])]
  exact List.mem_cons_self

theorem inPort_mem_lldpMatch : inPort port.number ∈ (Lacp.Datapath.lldpMatch port.number).items := by
  rw [Lacp.Datapath.lldpMatch,
    Match.mem_ofFields (by simp [inPort, Lacp.lldpMacNearestBridge, Lacp.ethTypeLldp])]
  exact List.mem_cons_self

end VlanRules

theorem makesFlows_vlan {fields : Match} {priority : ℕ} {insts : List Instruction}
    (keeps : ∀ flow : FlowId, (flow.tableId : ℕ) = dp.lag.vlanTable → flow.matchFields = fields →
      dp.Keeps flow insts) : MakesFlows dp.Keeps (.flowMod (dp.lag.flowmod fields priority insts)) :=
  makesFlows_of_keeps keeps

theorem makesFlows_lag_flowdel {fields : Match} {priority : ℕ} {strict : Bool} :
    MakesFlows dp.Keeps (.flowMod (dp.lag.flowdel fields priority strict)) := by
  cases strict <;> exact makesFlows_of_isFlowdel rfl

/-- The rules of a port are for its VLANs, for LACP or for LLDP, or drop. -/
theorem addPort_cases {state : Lacp.Port}
    (member : mod ∈ dp.lag.managersAddPort (dp.lagPort port state none)) :
    (∃ vid ∈ port.taggedVlans, mod = dp.lag.flowmod (Lacp.Datapath.vlanMatch port.number vid)
        Learning.lowPriority (dp.vlanInst port none)) ∨
      (∃ vid, port.untaggedVlan = some vid ∧ mod = dp.lag.flowmod
        (Lacp.Datapath.nullVlanMatch port.number) Learning.lowPriority
          (dp.vlanInst port (some vid))) ∨
      (port.lacp ≠ 0 ∧ mod = dp.lag.flowcontroller (Lacp.Datapath.lacpMatch port.number)
        dp.lag.highestPriority) ∨
      (port.receiveLldp = true ∧ mod = dp.lag.flowcontroller
        (Lacp.Datapath.lldpMatch port.number) dp.lag.highestPriority) ∨
      ∃ fields priority, mod = dp.lag.flowdrop fields priority := by
  rw [lagPort, Lacp.Datapath.managersAddPort, Lacp.Datapath.addPort] at member
  simp only [List.append_nil, List.mem_append, List.map_map, List.mem_ite_nil_right,
    List.mem_singleton, List.mem_map, Function.comp_apply] at member
  rcases member with (⟨_, (⟨vid, isTagged, rfl⟩ | native) | lacp⟩ | lldp) | ⟨_, rfl⟩
  · exact .inl ⟨vid, isTagged, rfl⟩
  · cases untagged : port.untaggedVlan with
    | some vid =>
        rw [untagged, Option.map_some] at native
        exact .inr (.inl ⟨vid, rfl, List.mem_singleton.mp native⟩)
    | none =>
        rw [untagged, Option.map_none] at native
        obtain ⟨_, same⟩ := List.mem_ite_nil_right.mp native
        exact .inr (.inr (.inr (.inr ⟨_, _, List.mem_singleton.mp same⟩)))
  · exact .inr (.inr (.inl lacp))
  · exact .inr (.inr (.inr (.inl lldp)))
  · exact .inr (.inr (.inr (.inr ⟨_, _, rfl⟩)))

/-- **The rules of a port in the VLAN table.** -/
theorem addPort_keeps (known : port ∈ dp.ports) {state : Lacp.Port}
    (member : mod ∈ dp.lag.managersAddPort (dp.lagPort port state none)) :
    MakesFlows dp.Keeps (.flowMod mod) := by
  obtain ⟨vid, isTagged, rfl⟩ | ⟨vid, native, rfl⟩ | ⟨isLacp, rfl⟩ | ⟨receives, rfl⟩ |
    ⟨fields, priority, rfl⟩ := addPort_cases member
  · refine makesFlows_vlan fun flow table fields => keeps_vlanInst table known
      (fields ▸ inPort_mem_vlanMatch) fun packet accepts => ?_
    obtain ⟨inner, tags⟩ := Packet.tag_of_mem accepts (fields ▸ vlanVid_mem_vlanMatch)
    exact ⟨vid, inner, .inl ⟨isTagged, tags⟩, vlanActions_tags.trans tags⟩
  · refine makesFlows_vlan fun flow table fields => keeps_vlanInst table known
      (fields ▸ inPort_mem_nullVlanMatch) fun packet accepts => ?_
    have tags := Packet.untagged_of_mem accepts (fields ▸ nullVlan_mem_nullVlanMatch)
    refine ⟨vid, [], .inr ⟨isUntagged_of_untaggedVlan native, tags, rfl⟩, ?_⟩
    rw [vlanActions_tags, tags]
    rfl
  · exact makesFlows_vlan fun flow table fields => keeps_controller table known
      fun packet accepts => ⟨(Packet.inPort_of_mem accepts (fields ▸ inPort_mem_lacpMatch)).symm,
        .inl ⟨isLacp, fields ▸ accepts⟩⟩
  · exact makesFlows_vlan fun flow table fields => keeps_controller table known
      fun packet accepts => ⟨(Packet.inPort_of_mem accepts (fields ▸ inPort_mem_lldpMatch)).symm,
        .inr ⟨receives, fields ▸ accepts⟩⟩
  · exact makesFlows_vlan fun _ _ _ => keeps_drop

theorem delPort_keeps {lagPort : Lacp.LagPort} (member : mod ∈ dp.lag.managersDelPort lagPort) :
    MakesFlows dp.Keeps (.flowMod mod) := by
  simp only [Lacp.Datapath.managersDelPort, Lacp.Datapath.delPort, List.mem_append,
    List.mem_ite_nil_right, List.mem_singleton, List.mem_map] at member
  rcases member with (⟨_, (⟨_, rfl⟩ | ⟨_, _, rfl⟩) | ⟨_, rfl⟩⟩ | ⟨_, rfl⟩) | ⟨_, rfl⟩ <;>
    exact makesFlows_lag_flowdel

/-! ## Rules of hosts -/

theorem makesFlows_learning {table : Fin 255} {fields : Match} {priority hardTimeout idleTimeout : ℕ}
    {insts : List Instruction}
    (keeps : ∀ flow : FlowId, (flow.tableId : ℕ) = table → flow.matchFields = fields →
      dp.Keeps flow insts) : MakesFlows dp.Keeps (.flowMod
        (dp.learning.flowmod table fields priority insts hardTimeout idleTimeout)) :=
  makesFlows_of_keeps keeps

theorem makesFlows_flowdel {table : Fin 255} {fields : Match} :
    MakesFlows dp.Keeps (.flowMod (dp.learning.flowdel table fields)) := makesFlows_of_isFlowdel rfl

theorem makesFlows_flowdrop {table : Fin 255} {fields : Match} {priority hardTimeout : ℕ} :
    MakesFlows dp.Keeps (.flowMod (dp.learning.flowdrop table fields priority hardTimeout)) :=
  makesFlows_learning fun _ _ _ => keeps_drop

theorem output_eq {hairpin : Bool} {external : Option Bool} :
    dp.learning.output port.toPort vid hairpin external =
      [.applyActions (Learning.outputPort vid port.toPort hairpin external)] := by
  rw [Learning.Dp.output, dp.noEgress]

/-- **What the rule of a learned host outputs.** -/
theorem vlanActs_outputPort (known : port ∈ dp.ports) (isIn : port.IsIn vid) {hairpin : Bool}
    {external : Option Bool} {portNum : Option PortNo}
    (forPort : hairpin = true → portNum = some port.number ∧ port.hairpinning = true) :
    dp.VlanActs portNum vid (Learning.outputPort vid port.toPort hairpin external) := by
  have target : ∀ member : Port → Prop, member port → dp.Target portNum member
      (if hairpin then ofppInPort else port.number) := by
    intro member isMember
    refine ⟨port, known, isMember, ?_⟩
    cases hairpin with
    | false => exact .inl List.mem_cons_self
    | true => exact .inr ⟨rfl, forPort rfl⟩
  have mirrors : ∀ member : Port → Prop, member port → ∀ mirror ∈ port.mirror,
      dp.Target portNum member mirror :=
    fun member isMember mirror isMirror =>
      ⟨port, known, isMember, .inl (List.mem_cons_of_mem _ isMirror)⟩
  unfold VlanActs Learning.outputPort
  split
  next isUntagged =>
    exact .pop (.outputs_append (mirrors _ isUntagged) (.output (target _ isUntagged) .nil))
  next notUntagged =>
    have isTagged := isIn.resolve_right notUntagged
    rw [List.append_assoc]
    refine .outputs_append (mirrors _ isTagged) ?_
    cases external with
    | none => exact .output (target _ isTagged) .nil
    | some requested =>
        refine .mark ?_ (.output (target _ isTagged) .nil)
        cases requested with
        | true => exact .inl rfl
        | false => exact .inr rfl

theorem dstFlowmod_keeps (known : port ∈ dp.ports) (isIn : port.IsIn vid) {mac : Mac}
    {pcp : Option ℕ} :
    MakesFlows dp.Keeps (.flowMod (dp.learning.dstFlowmod port.toPort vid mac pcp)) := by
  refine makesFlows_learning fun flow table fields => ?_
  rw [output_eq]
  refine keeps_apply (table ▸ ethDstTable_ne) (fields ▸ Learning.mem_dstMatch.mpr (.inl rfl))
    (fun number none => absurd none.symm (Option.some_ne_none number))
    (vlanActs_outputPort known isIn fun no => ?_)
  cases no

theorem hairpinFlowmod_keeps (known : port ∈ dp.ports) (isIn : port.IsIn vid)
    (hairpins : port.hairpinning = true) {mac : Mac} {table : Fin 255}
    (isTable : dp.learning.ethDstHairpinTable = some table) :
    MakesFlows dp.Keeps (.flowMod (dp.learning.hairpinFlowmod table port.toPort vid mac)) := by
  refine makesFlows_learning fun flow inTable fields => ?_
  rw [output_eq]
  refine keeps_apply (inTable ▸ hairpinTable_ne isTable)
    (fields ▸ Learning.mem_hairpinMatch.mpr (.inr (.inl rfl)))
    (fun number same => ?_) (vlanActs_outputPort known isIn fun _ => ⟨rfl, hairpins⟩)
  cases same
  exact fields ▸ Learning.mem_hairpinMatch.mpr (.inl rfl)

theorem deleteHost_keeps {mac : Mac} (member : mod ∈ dp.learning.deleteHostFromVlan mac vid) :
    MakesFlows dp.Keeps (.flowMod mod) := by
  rcases Learning.mem_deleteHostFromVlan.mp member with rfl | ⟨_, _, rfl⟩
  · exact makesFlows_flowdel
  · exact makesFlows_flowdel

/-- **The rules of a host** that is learned on a port of the VLAN. -/
theorem learnHost_keeps (known : port ∈ dp.ports) (isIn : port.IsIn vid) {mac : Mac}
    {deleteExisting refreshRules : Bool}
    (member : mod ∈ dp.learning.learnHostOnVlanPortFlows port.toPort vid mac deleteExisting
      refreshRules) : MakesFlows dp.Keeps (.flowMod mod) := by
  rcases Learning.mem_learnHostOnVlanPortFlows.mp member with
    ⟨_, isDel⟩ | rfl | ⟨_, rfl | ⟨_, rfl⟩ | ⟨hairpins, table, isTable, rfl⟩⟩
  · exact deleteHost_keeps isDel
  · exact makesFlows_learning fun flow table _ => keeps_goto (table ▸ ethSrcTable_ne) outputTable_ne
  · exact dstFlowmod_keeps known isIn
  · exact dstFlowmod_keeps known isIn
  · exact hairpinFlowmod_keeps known isIn hairpins isTable

/-! ## Flooding -/

section Flood

variable {states : PortNo → Lacp.Port} {conf : VlanConf} {inPort : Option Flooding.Port}
  {excludePorts : List PortNo}

/-- What is output for one of the ports that are flooded to. -/
theorem target_of_portOutputs {member : Port → Prop} {floodPort : Flooding.Port}
    (listed : floodPort ∈ dp.floodPorts states)
    (isMember : ∀ (port : Port) state, floodPort = port.flooding state → member port)
    {number : PortNo} (output : number ∈ Flooding.portOutputs inPort excludePorts floodPort) :
    dp.Target (inPort.map (·.number)) member number := by
  obtain ⟨port, known, rfl⟩ := List.mem_map.mp listed
  have within : number ∈ port.number :: port.mirror ∨ number = ofppInPort ∧
      inPort.map (·.number) = some port.number ∧ port.hairpin = true := by
    rw [Flooding.portOutputs] at output
    split at output
    next same =>
      split at output
      next hairpin => exact .inr ⟨List.mem_singleton.mp output, same, hairpin⟩
      next => cases output
    next =>
      split at output
      next => cases output
      next =>
        split at output
        next =>
          rw [List.mem_singleton] at output
          exact .inl (output ▸ List.mem_cons_self)
        next => exact .inl output
  refine ⟨port, known, isMember port _ rfl, within.imp_right fun ⟨special, same, hairpin⟩ =>
    ⟨special, same, ?_⟩⟩
  rw [Learning.Port.hairpinning, hairpin, Bool.true_or]

/-- **The flood actions of a VLAN.** -/
theorem vlanActs_flood {excludeUnicast excludeAll excludeRestricted : Bool} :
    dp.VlanActs (inPort.map (·.number)) conf.vid
      ((conf.resetPorts (dp.floodPorts states)).buildFloodRuleActions excludeUnicast inPort
        excludeAll excludeRestricted) := by
  have sub : ∀ {ports : List Flooding.Port} {port : Flooding.Port},
      port ∈ Flooding.Vlan.floodPorts ports excludeUnicast → port ∈ ports := by
    intro ports port member
    rw [Flooding.Vlan.floodPorts] at member
    split at member
    · exact (List.mem_filter.mp member).1
    · exact member
  have outputs : dp.VlanActs (inPort.map (·.number)) conf.vid
      ((conf.resetPorts (dp.floodPorts states)).buildFloodLocalRuleActions excludeUnicast inPort
        excludeAll excludeRestricted) := by
    refine acts_floodPortOutputs (fun port member number output => ?_)
      fun port member number output => ?_
    · obtain ⟨listed, isTagged⟩ := List.mem_filter.mp (sub member)
      refine target_of_portOutputs listed (fun other state same => ?_) output
      subst same
      exact of_decide_eq_true isTagged
    · have isUntagged : port ∈ dp.floodPorts states ∧ (port.nativeVlan = some conf.vid ∧
          port.dynDot1xNativeVlan = none ∨ port.dynDot1xNativeVlan = some conf.vid) := by
        rcases List.mem_append.mp (sub member) with member | member
        · obtain ⟨listed, native⟩ := List.mem_filter.mp member
          exact ⟨listed, .inl (of_decide_eq_true native)⟩
        · obtain ⟨listed, dynamic⟩ := List.mem_filter.mp member
          exact ⟨listed, .inr (of_decide_eq_true dynamic)⟩
      refine target_of_portOutputs isUntagged.1 (fun other state same => ?_) output
      subst same
      exact decide_eq_true isUntagged.2
  rw [Flooding.Vlan.buildFloodRuleActions]
  split
  · exact .mark (.inl rfl) outputs
  · exact outputs

theorem vlanActs_floodForPort {excludeUnicast excludeRestricted : Bool} {floodPort : Flooding.Port} :
    dp.VlanActs (some floodPort.number) conf.vid
      ((conf.resetPorts (dp.floodPorts states)).buildFloodActsForPort excludeUnicast floodPort
        excludeRestricted) := by
  unfold Flooding.Vlan.buildFloodActsForPort
  split
  · extract_lets floodActs
    have shape : dp.VlanActs (some floodPort.number) conf.vid floodActs :=
      Acts.deduped (@vlanActs_flood dp states conf (some floodPort) _ _ _)
    split
    · exact .nil
    · exact shape
  · exact .nil

/-- **A flood rule of a VLAN** outputs by itself, or sends to its group. -/
theorem floodRule_keeps (known : conf ∈ dp.flooding.vlans) {dst : FloodDst}
    {floodActs : List Act} {command : FlowCommand}
    (wanted : dp.flooding.ruleActs (conf.resetPorts (dp.floodPorts states)) dst inPort =
      some floodActs) :
    MakesFlows dp.Keeps (.flowMod (dp.flooding.buildFloodRule command conf.vid
      (inPort.map (·.number)) dst floodActs)) := by
  refine makesFlows_of_keeps fun flow table fields => ?_
  have notVlan : (flow.tableId : ℕ) ≠ dp.lag.vlanTable := table ▸ floodTable_ne
  have forVlan : vlanVid conf.vid ∈ flow.matchFields.items :=
    fields ▸ Flooding.vlan_mem_floodMatch
  have outputs : dp.VlanActs (inPort.map (·.number)) conf.vid floodActs →
      dp.Keeps flow (Flooding.floodInst floodActs) := by
    intro shape
    rcases Acts.floodInst shape with none | ⟨actions, same, shape⟩
    · rw [none]
      exact keeps_drop
    · rw [same]
      exact keeps_apply notVlan forVlan
        (fun number same => fields ▸ Flooding.inPort_mem_floodMatch.mpr same) shape
  cases inPort with
  | none =>
      rw [Flooding.Dp.ruleActs, Flooding.Dp.vlanActs] at wanted
      split at wanted
      · cases wanted
      · split at wanted
        next usesGroups =>
          cases wanted
          refine keeps_group notVlan forVlan usesGroups (dp.flooding.vidValid conf known).2 ?_
          rw [Flooding.Vlan.floodGroupId]
          split
          · exact .inr rfl
          · exact .inl rfl
        next =>
          cases wanted
          exact outputs vlanActs_flood
  | some floodPort =>
      have rule := (Flooding.Dp.ruleActs_port_iff.mp wanted).2
      exact outputs (Flooding.Dp.acts_of_install rule ▸ vlanActs_floodForPort)

/-- **The groups of a VLAN** output to its ports. -/
theorem floodGroup_keeps (known : conf ∈ dp.flooding.vlans) (unicast : Bool) :
    dp.GroupKeeps ((conf.resetPorts (dp.floodPorts states)).floodGroupId unicast)
      ((conf.resetPorts (dp.floodPorts states)).floodGroup unicast) := by
  intro _ vid valid ofVlan bucket listed
  obtain ⟨positive, small⟩ := dp.flooding.vidValid conf known
  have apart : ∀ own other : ℕ, own < vlanGroupOffset → other < vlanGroupOffset →
      (own = other ∨ own = other + vlanGroupOffset → other = own) ∧
        (own + vlanGroupOffset = other ∨ own + vlanGroupOffset = other + vlanGroupOffset →
          other = own) := by omega
  have isVlan : vid = conf.vid := by
    rw [Flooding.Vlan.floodGroupId] at ofVlan
    split at ofVlan
    · exact (apart _ _ small valid).2 ofVlan
    · exact (apart _ _ small valid).1 ofVlan
  subst isVlan
  have ofKind : ∀ unicast, dp.VlanActs none conf.vid
      ((conf.resetPorts (dp.floodPorts states)).buildFloodActsForVlan unicast) :=
    fun unicast => @vlanActs_flood dp states conf none unicast false true
  have shape : dp.VlanActs none conf.vid
      ((conf.resetPorts (dp.floodPorts states)).floodGroupActs unicast) := by
    rw [Flooding.Vlan.floodGroupActs]
    split
    next => exact Acts.deduped (ofKind true)
    next => exact ofKind false
  exact @Acts.buckets _ _ _ [] shape bucket listed

/-- What is sent about flooding in a VLAN. -/
theorem floodRules_keep (known : conf ∈ dp.flooding.vlans) {command : FlowCommand}
    {coldStart : Bool} {ofmsg : Ofmsg} (built : ofmsg ∈ dp.flooding.buildFloodRules
      (conf.resetPorts (dp.floodPorts states)) command coldStart) : dp.MessageKeeps ofmsg := by
  refine ⟨fun mod same => ?_, fun groupId group same => ?_⟩
  · subst same
    obtain ⟨dst, _, ⟨inPort, floodActs, wanted, rfl⟩ | ⟨_, port, _, _, rfl⟩⟩ :=
      Flooding.Dp.mem_buildFloodRules.mp built
    · exact floodRule_keeps known wanted _ rfl
    · exact makesFlows_of_isFlowdel rfl _ rfl
  · subst same
    obtain ⟨unicast, isDelete | isAdd⟩ := Flooding.mem_floodGroupMods.mp
      (Flooding.groupMod_mem_buildFloodRules.mp built).2
    · cases isDelete
    · cases isAdd
      exact floodGroup_keeps known unicast

end Flood

/-! ## Rules of the datapath -/

theorem filterPackets_keeps {fields : Match} {priorityOffset : ℕ} :
    dp.MessageKeeps (.flowMod (dp.filterPackets fields priorityOffset)) :=
  messageKeeps_flowMod makesFlows_flowdrop

/-- A miss never leads to the VLAN table. -/
theorem miss_ne {table next : Fin 255} (listed : (table, some next) ∈ dp.tables) :
    (table : ℕ) ≠ dp.lag.vlanTable ∧ (next : ℕ) ≠ dp.lag.vlanTable := by
  simp only [tables, List.mem_append, List.mem_cons, List.mem_map, Option.mem_toList, Prod.mk.injEq,
    Option.some.injEq, reduceCtorEq, and_false, false_or, or_false, List.not_mem_nil] at listed
  rcases listed with (⟨_, isTable, rfl, rfl⟩ | ⟨rfl, rfl⟩ | ⟨_, isTable, rfl, rfl⟩) | ⟨rfl, rfl⟩
  · exact ⟨ne_vlanTable (by simp [isTable]), ethSrcTable_ne⟩
  · exact ⟨ethSrcTable_ne, ethDstTable_ne⟩
  · exact ⟨hairpinTable_ne isTable, ethDstTable_ne⟩
  · exact ⟨ethDstTable_ne, floodTable_ne⟩

theorem missFlow_keeps {table : Fin 255} {miss : Option (Fin 255)}
    (listed : (table, miss) ∈ dp.tables) :
    dp.MessageKeeps (.flowMod (dp.missFlow table miss)) := by
  refine messageKeeps_flowMod (makesFlows_learning fun flow inTable _ => ?_)
  cases miss with
  | none => exact keeps_drop
  | some next =>
      obtain ⟨notVlan, later⟩ := miss_ne listed
      exact keeps_goto (inTable ▸ notVlan) later

/-- **What starts the datapath.** -/
theorem defaultFlows_keep {ofmsg : Ofmsg} (member : ofmsg ∈ dp.defaultFlows) :
    dp.MessageKeeps ofmsg := by
  rw [defaultFlows, List.mem_append, List.mem_cons, List.mem_ite_nil_right, List.mem_singleton,
    List.mem_map] at member
  rcases member with (rfl | ⟨_, rfl⟩) | ⟨mod, listed, rfl⟩
  · exact messageKeeps_flowMod (makesFlows_of_isFlowdel rfl)
  · exact ⟨makesFlows_of_not_flowMod (by rintro mod ⟨⟩), by rintro groupId group ⟨⟩⟩
  · simp only [List.mem_append, List.mem_ite_nil_right, List.mem_singleton] at listed
    rcases listed with ((miss | isDrop) | ⟨_, rfl⟩) | rfl
    · obtain ⟨⟨table, miss⟩, listed, rfl⟩ := List.mem_map.mp miss
      exact missFlow_keeps listed
    · obtain ⟨ethDst, _, rfl⟩ := List.mem_map.mp isDrop
      exact messageKeeps_flowMod (makesFlows_of_keeps fun _ _ _ => keeps_drop)
    · exact filterPackets_keeps
    · exact filterPackets_keeps

theorem unknownSource_keeps : dp.MessageKeeps (.flowMod (dp.unknownSource vid)) :=
  messageKeeps_flowMod (makesFlows_learning fun _ table _ =>
    keeps_controller_goto (table ▸ ethSrcTable_ne) outputTable_ne)

theorem addVlan_keeps {conf : VlanConf} (known : conf ∈ dp.flooding.vlans) {faucetMac : Mac}
    {states : PortNo → Lacp.Port} {coldStart : Bool} {ofmsg : Ofmsg}
    (member : ofmsg ∈ dp.addVlan conf faucetMac states coldStart) : dp.MessageKeeps ofmsg := by
  rw [addVlan] at member
  split at member
  next => cases member
  next =>
    rcases List.mem_append.mp member with rule | flood
    · simp only [List.map_append, List.mem_append, List.mem_map, List.mem_ite_nil_right,
        List.mem_singleton] at rule
      rcases rule with ⟨_, ⟨_, rfl⟩, rfl⟩ | ⟨_, rfl, rfl⟩
      · exact filterPackets_keeps
      · exact unknownSource_keeps
    · exact floodRules_keep known (Flooding.mem_addVlan.mp flood).2

theorem isFlowdel_of_delVlan {faucetMac : Mac} {unused : Bool} {ofmsg : Ofmsg}
    (member : ofmsg ∈ dp.delVlan vid faucetMac unused) : dp.MessageKeeps ofmsg := by
  simp only [delVlan, List.map_append, List.mem_append, List.mem_map, List.mem_cons,
    List.mem_ite_nil_right, List.not_mem_nil, or_false] at member
  rcases member with ⟨_, rfl | rfl, rfl⟩ | ⟨_, ⟨_, rfl⟩, rfl⟩ <;>
    exact messageKeeps_flowMod (makesFlows_of_isFlowdel rfl)

theorem delHostFlows_keep {portNum : PortNo} (member : mod ∈ dp.delHostFlows portNum) :
    MakesFlows dp.Keeps (.flowMod mod) := by
  rw [delHostFlows, List.mem_cons] at member
  rcases member with rfl | byPort
  · exact makesFlows_flowdel
  · obtain ⟨_, _, rfl⟩ := List.mem_map.mp byPort
    exact makesFlows_of_isFlowdel rfl

/-! ## All calls -/

/-- The call learns no host on a port that is not in the VLAN. -/
def Call.InVlan : Call dp → Prop
  | .learnHost port _ vid _ _ _ => port.IsIn vid
  | _ => True

/-- **What a call sends** makes only rules and groups that keep packets in their VLANs. -/
theorem messages_keep {call : Call dp} (inVlan : call.InVlan) {ofmsg : Ofmsg}
    (member : ofmsg ∈ call.messages) : dp.MessageKeeps ofmsg := by
  cases call with
  | addVlan conf known => exact addVlan_keeps known member
  | delVlan => exact isFlowdel_of_delVlan member
  | updateVlan conf known => exact floodRules_keep known member
  | addPort port known =>
      obtain ⟨mod, listed, rfl⟩ := List.mem_map.mp member
      exact messageKeeps_flowMod (addPort_keeps known listed)
  | delPort port known =>
      obtain ⟨mod, listed, rfl⟩ := List.mem_map.mp member
      rcases List.mem_append.mp listed with rule | host
      · exact messageKeeps_flowMod (delPort_keeps rule)
      · exact messageKeeps_flowMod (delHostFlows_keep host)
  | enableForwarding =>
      cases List.mem_singleton.mp member
      exact messageKeeps_flowMod makesFlows_lag_flowdel
  | disableForwarding =>
      cases List.mem_singleton.mp member
      exact messageKeeps_flowMod (makesFlows_vlan fun _ _ _ => keeps_drop)
  | tempBan =>
      cases List.mem_singleton.mp member
      exact messageKeeps_flowMod makesFlows_flowdrop
  | filterHost =>
      cases List.mem_singleton.mp member
      exact messageKeeps_flowMod makesFlows_flowdrop
  | learnHost port known vid mac =>
      obtain ⟨mod, listed, rfl⟩ := List.mem_map.mp member
      exact messageKeeps_flowMod (learnHost_keeps known inVlan listed)
  | deleteHost mac vid =>
      obtain ⟨mod, listed, rfl⟩ := List.mem_map.mp member
      exact messageKeeps_flowMod (deleteHost_keeps listed)

end Datapath

end Faucet.Switching
