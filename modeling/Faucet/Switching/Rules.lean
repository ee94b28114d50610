import Faucet.Lacp.DropRule
import Faucet.Switching.Actions

/-!
# What one rule does to packets

A packet in the VLAN table is as it came in. In a later table it is carried: it has the tag
of a VLAN of its port. A rule keeps to this (`Keeps`) when, of each such packet that it
accepts, it outputs only what is good and hands it on as a packet that is carried.

A rule that forwards keeps to it when it is for a VLAN and its actions have the shape of
`VlanActs`. A rule of the VLAN table keeps to it when it makes a packet that is carried.
-/

set_option autoImplicit false

namespace Faucet.Switching

open OpenFlow
open Flooding (Vid popVlan ofppInPort vlanGroupOffset setExternalForwardingRequested
  setNoExternalForwardingRequested outputTo)
open Learning (inPort vlanVid)
open Lacp (ofppController nullVlan)

namespace Datapath

variable (dp : Datapath)

/-! ## Assertions -/

/-- The packet, which came in as another, has the tag of a VLAN of its port. -/
def Carried (origin packet : Packet) : Prop :=
  ∃ ingress ∈ dp.ports, ingress.number = origin.inPort ∧ packet.inPort = origin.inPort ∧
    ∃ vid inner, ingress.Carries vid origin.tags inner ∧ packet.tags = vid :: inner

/-- What a packet can be in a table: as it came in, or carried. -/
def InTable (origin : Packet) (table : ℕ) (packet : Packet) : Prop :=
  if table = dp.lag.vlanTable then packet = origin else dp.Carried origin packet

/-- The output goes where it may. What goes to the controller with a tag is of a VLAN of its
port, or is a packet for LACP or LLDP as it came in. -/
structure Good (origin : Packet) (out : Output) : Prop where
  within : dp.Within origin out
  told : out.port = ofppController → ∀ vid, out.tags.head? = some vid →
    ∃ port ∈ dp.ports, port.number = origin.inPort ∧
      (port.IsIn vid ∨ ToController port origin ∧ out.tags = origin.tags)

/-- A port of the VLAN outputs to this number; `inPort` is the port that the rule is for. -/
def Target (inPort : Option PortNo) (member : Port → Prop) (number : PortNo) : Prop :=
  ∃ port ∈ dp.ports, member port ∧ (number ∈ port.number :: port.mirror ∨
    number = ofppInPort ∧ inPort = some port.number ∧ port.hairpinning = true)

/-- The actions output to ports of the VLAN. -/
def VlanActs (inPort : Option PortNo) (vid : Vid) (acts : List Act) : Prop :=
  Acts (dp.Target inPort fun port => vid ∈ port.taggedVlans)
    (dp.Target inPort fun port => port.isUntagged vid = true) false acts

/-- A group of a VLAN outputs to its ports. -/
def GroupKeeps (groupId : ℕ) (group : Group) : Prop :=
  dp.flooding.useGroupTable = true → ∀ vid, vid < vlanGroupOffset →
    groupId = vid ∨ groupId = vid + vlanGroupOffset →
    ∀ bucket ∈ group.buckets, dp.VlanActs none vid bucket.actions

/-- The rule keeps packets to where they may go. -/
def Keeps (flow : FlowId) (insts : List Instruction) : Prop :=
  ∀ switch : Switch, switch.Groups dp.GroupKeeps → ∀ origin packet,
    dp.InTable origin flow.tableId packet → packet.accepted flow.matchFields = true →
      (∀ out ∈ instOutputs switch packet insts, dp.Good origin out) ∧
        ∀ next, .gotoTable next ∈ insts → dp.InTable origin next (packet.through insts)

variable {dp} {origin packet : Packet} {out : Output} {flow : FlowId} {vid : Vid}
  {portNum : Option PortNo} {acts : List Act} {mod : FlowMod} {port : Port}

theorem inTable_of_ne {table : ℕ} (other : table ≠ dp.lag.vlanTable) :
    dp.InTable origin table packet ↔ dp.Carried origin packet := by
  rw [InTable, if_neg other]

theorem inTable_first : dp.InTable origin dp.lag.vlanTable packet ↔ packet = origin := by
  rw [InTable, if_pos rfl]

/-- What is known of the rules that a message makes. -/
theorem makesFlows_of_keeps (keeps : ∀ flow : FlowId, (flow.tableId : ℕ) = mod.tableId →
    flow.matchFields = mod.matchFields → dp.Keeps flow mod.instructions) :
    MakesFlows dp.Keeps (.flowMod mod) := by
  rintro other ⟨⟩ _ flow named
  simp only [FlowMod.names, Bool.and_eq_true, beq_iff_eq] at named
  exact keeps flow named.1.1.symm named.2.symm

/-! ## Numbers of ports -/

theorem number_lt (known : port ∈ dp.ports) {number : PortNo}
    (output : number ∈ port.number :: port.mirror) : number < ofppMax := by
  rcases List.mem_cons.mp output with rfl | isMirror
  · exact (dp.numbers port known).1
  · exact (dp.numbers port known).2 number isMirror

theorem not_special {number : PortNo} (low : number < ofppMax) :
    number ≠ ofppInPort ∧ number ≠ ofppController := by
  have below : ofppMax < ofppInPort ∧ ofppMax < ofppController := by decide
  exact ⟨(low.trans below.1).ne, (low.trans below.2).ne⟩

theorem outputTo_cases {number : PortNo} {sentTo : PortNo} {arrived : PortNo}
    (sent : outputTo arrived number = some sentTo) :
    number = ofppInPort ∧ sentTo = arrived ∨ number ≠ ofppInPort ∧ sentTo = number ∧
      number ≠ arrived := by
  rw [outputTo] at sent
  split at sent
  next isInPort =>
    cases sent
    exact .inl ⟨isInPort, rfl⟩
  next notInPort =>
    split at sent
    next => cases sent
    next other =>
      cases sent
      exact .inr ⟨notInPort, rfl, other⟩

/-- The same port, as two ports have different numbers. -/
theorem port_eq {other : Port} (known : port ∈ dp.ports) (known' : other ∈ dp.ports)
    (same : port.number = other.number) : port = other := by
  have distinct := dp.learning.portNumbers
  rw [dp.learningPorts, List.map_map] at distinct
  exact List.inj_on_of_nodup_map distinct known known' same

/-! ## Rules that forward -/

theorem good_of_target {inner : List Vid} {member : Port → Prop} {number : PortNo}
    {ingress : Port} (known : ingress ∈ dp.ports) (isIngress : ingress.number = origin.inPort)
    (carries : ingress.Carries vid origin.tags inner)
    (wears : ∀ egress, member egress → egress.Wears vid inner out.tags)
    (forPort : ∀ number, portNum = some number → origin.inPort = number)
    (target : dp.Target portNum member number)
    (sent : outputTo origin.inPort number = some out.port) : dp.Good origin out := by
  obtain ⟨egress, known', isMember, output⟩ := target
  have leaves : Leaves origin vid inner egress out ∧ out.port < ofppMax := by
    rcases output with output | ⟨rfl, isPort, hairpins⟩
    · have low := number_lt known' output
      obtain ⟨special, _⟩ | ⟨_, same, other⟩ := outputTo_cases sent
      · exact absurd special (not_special low).1
      · exact ⟨⟨wears egress isMember, same ▸ output, fun back => absurd (same.symm.trans back) other⟩,
          same ▸ low⟩
    · obtain ⟨_, same⟩ | ⟨other, _, _⟩ := outputTo_cases sent
      · have number := same.trans (forPort egress.number isPort)
        refine ⟨⟨wears egress isMember, ?_, fun _ => ⟨number, hairpins⟩⟩, ?_⟩
        · exact number ▸ List.mem_cons_self
        · exact number ▸ (dp.numbers egress known').1
      · exact absurd rfl other
  exact ⟨.member ingress egress known known' isIngress vid inner carries leaves.1,
    fun isController => absurd isController (not_special leaves.2).2⟩

/-- **Actions for a VLAN** output what is good of the packets that are carried in it. -/
theorem good_of_vlanActs {groups : ℕ → Packet → List Output} (carried : dp.Carried origin packet)
    (forVlan : ∃ inner, packet.tags = vid :: inner)
    (forPort : ∀ number, portNum = some number → packet.inPort = number)
    (shape : dp.VlanActs portNum vid acts) (member : out ∈ actOutputs groups packet acts) :
    dp.Good origin out := by
  obtain ⟨ingress, known, isIngress, samePort, vid', inner, carries, tags⟩ := carried
  obtain ⟨inner', tags'⟩ := forVlan
  rw [tags] at tags'
  cases tags'
  obtain ⟨number, sent, ⟨_, target, outTags⟩ | ⟨target, outTags⟩⟩ := shape.mem_outputs member
  · rw [samePort] at sent forPort
    refine good_of_target known isIngress carries (fun egress isMember => .inl ⟨isMember, ?_⟩)
      forPort target sent
    rw [outTags, tags]
  · rw [samePort] at sent forPort
    refine good_of_target known isIngress carries (fun egress isMember => .inr ⟨isMember, ?_⟩)
      forPort target sent
    rw [outTags, tags]
    rfl

theorem keeps_drop : dp.Keeps flow [] :=
  fun _ _ _ _ _ _ => ⟨fun _ none => absurd none List.not_mem_nil,
    fun _ none => absurd none List.not_mem_nil⟩

theorem keeps_goto {next : ℕ} (table : (flow.tableId : ℕ) ≠ dp.lag.vlanTable)
    (later : next ≠ dp.lag.vlanTable) : dp.Keeps flow [.gotoTable next] := by
  intro switch _ origin packet inTable _
  refine ⟨fun out none => absurd none List.not_mem_nil, fun next' goes => ?_⟩
  cases List.mem_singleton.mp goes
  exact (inTable_of_ne later).mpr ((inTable_of_ne table).mp inTable)

/-- **A rule for a VLAN**, and maybe for one port, that outputs. -/
theorem keeps_apply (table : (flow.tableId : ℕ) ≠ dp.lag.vlanTable)
    (forVlan : vlanVid vid ∈ flow.matchFields.items)
    (forPort : ∀ number, portNum = some number → inPort number ∈ flow.matchFields.items)
    (shape : dp.VlanActs portNum vid acts) : dp.Keeps flow [.applyActions acts] := by
  intro switch _ origin packet inTable accepts
  refine ⟨fun out member => ?_, fun next goes => ?_⟩
  · rw [instOutputs, instOutputs, List.append_nil] at member
    exact good_of_vlanActs ((inTable_of_ne table).mp inTable) (Packet.tag_of_mem accepts forVlan)
      (fun number same => Packet.inPort_of_mem accepts (forPort number same)) shape member
  · cases List.mem_singleton.mp goes

/-- **A rule for a VLAN that sends to its group.** -/
theorem keeps_group {groupId : ℕ} (table : (flow.tableId : ℕ) ≠ dp.lag.vlanTable)
    (forVlan : vlanVid vid ∈ flow.matchFields.items) (usesGroups : dp.flooding.useGroupTable = true)
    (valid : vid < vlanGroupOffset)
    (ofVlan : groupId = vid ∨ groupId = vid + vlanGroupOffset) :
    dp.Keeps flow [.applyActions [.group groupId]] := by
  intro switch groups origin packet inTable accepts
  refine ⟨fun out member => ?_, fun next goes => ?_⟩
  · rw [instOutputs, instOutputs, List.append_nil, actOutputs, actOutputs, List.append_nil,
      groupOutputs, List.mem_flatMap] at member
    obtain ⟨group, present, member⟩ := member
    obtain ⟨bucket, listed, member⟩ := List.mem_flatMap.mp member
    have shape := groups groupId group (Option.mem_toList.mp present) usesGroups vid valid ofVlan
      bucket listed
    exact good_of_vlanActs ((inTable_of_ne table).mp inTable) (Packet.tag_of_mem accepts forVlan)
      (fun number none => absurd none.symm (Option.some_ne_none number)) shape member
  · cases List.mem_singleton.mp goes

/-- The rule for the sources that are not known. -/
theorem keeps_controller_goto {next : ℕ} (table : (flow.tableId : ℕ) ≠ dp.lag.vlanTable)
    (later : next ≠ dp.lag.vlanTable) :
    dp.Keeps flow [.applyActions [.output ofppController], .gotoTable next] := by
  intro switch _ origin packet inTable _
  have carried := (inTable_of_ne table).mp inTable
  refine ⟨fun out member => ?_, fun next' goes => ?_⟩
  · obtain ⟨ingress, known, isIngress, _, vid, inner, carries, tags⟩ := carried
    simp only [instOutputs, actOutputs, List.append_nil, List.mem_map, Option.mem_toList] at member
    obtain ⟨number, sent, rfl⟩ := member
    obtain ⟨special, _⟩ | ⟨_, same, _⟩ := outputTo_cases sent
    · exact absurd special (by decide)
    · refine ⟨.controller same, fun _ vid' head => ⟨ingress, known, isIngress, .inl ?_⟩⟩
      rw [tags] at head
      cases head
      rcases carries with ⟨isTagged, _⟩ | ⟨isUntagged, _⟩
      · exact .inl isTagged
      · exact .inr isUntagged
  · rcases List.mem_cons.mp goes with impossible | goes
    · cases impossible
    · cases List.mem_singleton.mp goes
      exact (inTable_of_ne later).mpr carried

/-! ## Rules of the VLAN table -/

/-- The rules for packets of LACP and LLDP. -/
theorem keeps_controller (table : (flow.tableId : ℕ) = dp.lag.vlanTable) (known : port ∈ dp.ports)
    (control : ∀ packet : Packet, packet.accepted flow.matchFields = true →
      ToController port packet) :
    dp.Keeps flow [.applyActions [.output ofppController]] := by
  intro switch _ origin packet inTable accepts
  rw [table, inTable_first] at inTable
  subst inTable
  refine ⟨fun out member => ?_, fun next goes => ?_⟩
  · simp only [instOutputs, actOutputs, List.append_nil, List.mem_map, Option.mem_toList] at member
    obtain ⟨number, sent, rfl⟩ := member
    obtain ⟨special, _⟩ | ⟨_, same, _⟩ := outputTo_cases sent
    · exact absurd special (by decide)
    · exact ⟨.controller same, fun _ _ _ => ⟨port, known, (control packet accepts).1,
        .inr ⟨control packet accepts, rfl⟩⟩⟩
  · cases List.mem_singleton.mp goes

/-- Mirrors get the packet as it came in. -/
theorem good_of_mirror (known : port ∈ dp.ports) (number : port.number = packet.inPort)
    (member : out ∈ (port.mirror.flatMap fun mirror => (outputTo packet.inPort mirror).toList).map
      fun sentTo => (⟨sentTo, packet.tags⟩ : Output)) : dp.Good packet out := by
  obtain ⟨sentTo, listed, rfl⟩ := List.mem_map.mp member
  obtain ⟨mirror, isMirror, sent⟩ := List.mem_flatMap.mp listed
  have low := number_lt known (List.mem_cons_of_mem _ isMirror)
  obtain ⟨special, _⟩ | ⟨_, rfl, _⟩ := outputTo_cases (Option.mem_toList.mp sent)
  · exact absurd special (not_special low).1
  · exact ⟨.mirrored port known number isMirror rfl,
      fun isController => absurd isController (not_special low).2⟩

theorem mirrorActions_outputs {groups : ℕ → Packet → List Output} (mirrors : List PortNo)
    (rest : List Act) : actOutputs groups packet (mirrors.map .output ++ rest) =
      (mirrors.flatMap fun mirror => (outputTo packet.inPort mirror).toList).map
        (fun sentTo => (⟨sentTo, packet.tags⟩ : Output)) ++ actOutputs groups packet rest := by
  induction mirrors with
  | nil => rfl
  | cons mirror mirrors ih =>
      rw [List.map_cons, List.cons_append, actOutputs, ih, List.flatMap_cons, List.map_append,
        List.append_assoc]

theorem mirrorActions_after (mirrors : List PortNo) (rest : List Act) :
    packet.after (mirrors.map .output ++ rest) = packet.after rest := by
  induction mirrors with
  | nil => rfl
  | cons mirror mirrors ih => exact ih

end Datapath

end Faucet.Switching
