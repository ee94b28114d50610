import Faucet.Flooding.Copies
import Faucet.Flooding.Incremental

/-!
# Flooding with and without a group table

Of the rules of a VLAN only the rule for all its ports depends on whether the group
table is used: it outputs to the ports itself, or sends to a group with a bucket for
each of the outputs. A group of its own for unknown unicast is built from deduplicated
actions. It makes fewer copies when a port is output to with and without the tag, as a
port is that a tagged and an untagged port are mirrored to.

The two ways to flood agree for a VLAN and an input port exactly when this does not
happen to the packets from there (`sameCopies_iff`).
-/

set_option autoImplicit false

namespace Faucet.Flooding

open OpenFlow

/-- What the configuration checks of the ports: no port of a VLAN is mirrored to. -/
structure ValidPorts (ports : List Port) : Prop where
  numbers : (ports.map (·.number)).Nodup
  valid : ∀ port ∈ ports, port.number ≠ ofppInPort
  mirrors : ∀ port ∈ ports, ∀ other ∈ ports, other.number ∈ port.mirror → other.vlans = []

/-- The destination of unknown unicast. -/
def unknownUnicast : FloodDst := ⟨true, none, none⟩

namespace Dp

/-- The same datapath with or without a group table. -/
def withGroupTable (dp : Dp) (plain : dp.combinatorialPortFlood = false) (useGroupTable : Bool) :
    Dp :=
  { dp with
    useGroupTable := useGroupTable
    exclusive := by simp [plain] }

end Dp

/-! ## The outputs of a VLAN -/

section Outputs

variable {conf : VlanConf} {ports : List Port} {port : Port} {number : PortNo}
  {excludeUnicast : Bool}

theorem portOutputs_none {excludePorts : List PortNo} : portOutputs none excludePorts port =
    if port.number ∈ excludePorts then [] else port.number :: port.mirror := by
  simp [portOutputs]

namespace Vlan

variable {vlan : Vlan}

theorem mem_outputs : number ∈ vlan.taggedOutputs excludeUnicast ∨
      number ∈ vlan.untaggedOutputs excludeUnicast ↔
    ∃ port ∈ vlan.allPorts excludeUnicast, number ∈ portOutputs none vlan.vlanExcludedPorts port := by
  rw [taggedOutputs, untaggedOutputs, mem_insertionSort_dedup, mem_insertionSort_dedup,
    ← List.mem_append, ← List.flatMap_append, List.mem_flatMap]
  refine exists_congr fun port => and_congr_left fun _ => ?_
  simp only [taggedFloodPorts, untaggedFloodPorts, allPorts, floodPorts, getPorts]
  cases excludeUnicast <;> simp

theorem mem_outputPorts_dedupedActs :
    number ∈ outputPorts (dedupedActs (vlan.buildFloodActsForVlan excludeUnicast)) ↔
      number ∈ vlan.taggedOutputs excludeUnicast ∨ number ∈ vlan.untaggedOutputs excludeUnicast := by
  have output : number ∈ outputPorts (dedupedActs (vlan.buildFloodActsForVlan excludeUnicast)) ↔
      .output number ∈ vlan.buildFloodActsForVlan excludeUnicast := by
    rw [outputPorts, List.mem_toFinset, List.mem_filterMap]
    constructor
    · rintro ⟨act, member, same⟩
      cases act with
      | output port =>
          cases same
          exact OrderedDict.mem_of_mem_values member
      | _ => cases same
    · exact fun member => ⟨_, OrderedDict.mem_values_id.mpr member, rfl⟩
  have popped : .output number ∈ poppedOutputs (vlan.untaggedOutputs excludeUnicast) ↔
      number ∈ vlan.untaggedOutputs excludeUnicast := by
    unfold poppedOutputs
    split
    next isEmpty => simp [isEmpty]
    next => simp [popVlan]
  rw [output, buildFloodActsForVlan_eq, ← List.append_assoc, List.mem_append, output_mem_flagged,
    popped]

/-- Without a group of its own, unknown unicast is kept only from ports that are left out. -/
theorem excluded_of_refuses (valid : ValidPorts ports)
    (same : (conf.resetPorts ports).unicastGroupDiffers = false)
    (inVlan : port ∈ (conf.resetPorts ports).getPorts) (refuses : port.unicastFlood = false) :
    port.number ∈ (conf.resetPorts ports).vlanExcludedPorts := by
  by_contra left
  have flooded : port.number ∈ outputPorts
      (dedupedActs ((conf.resetPorts ports).buildFloodActsForVlan false)) := by
    refine mem_outputPorts_dedupedActs.mpr (mem_outputs.mpr ⟨port, inVlan, ?_⟩)
    rw [portOutputs_none, if_neg left]
    exact List.mem_cons_self
  have sameOutputs : outputPorts (dedupedActs ((conf.resetPorts ports).buildFloodActsForVlan true)) =
      outputPorts (dedupedActs ((conf.resetPorts ports).buildFloodActsForVlan false)) := by
    simpa [unicastGroupDiffers] using same
  rw [← sameOutputs, mem_outputPorts_dedupedActs, mem_outputs] at flooded
  obtain ⟨other, floods, output⟩ := flooded
  have listed : port ∈ (conf.resetPorts ports).allPorts false := inVlan
  obtain ⟨member, inFlood⟩ := mem_allPorts.mp listed
  obtain ⟨member', allows⟩ := mem_allPorts.mp floods
  rw [portOutputs_none] at output
  split at output
  · cases output
  · rcases List.mem_cons.mp output with number | mirrored
    · rw [eq_of_number valid.numbers member member' number, allows.2 rfl] at refuses
      cases refuses
    · have noVlans := valid.mirrors other member' port member mirrored
      have inVlans := vid_mem_vlans inFlood
      rw [noVlans] at inVlans
      cases inVlans

/-- A port that is left out need not be filtered out. -/
theorem flatMap_floodPorts {f : Port → List PortNo} {configured : List Port}
    (leftOut : ∀ port ∈ configured, port.unicastFlood = false → f port = []) :
    (floodPorts configured true).flatMap f = (floodPorts configured false).flatMap f := by
  unfold floodPorts
  rw [if_pos rfl, if_neg Bool.false_ne_true]
  induction configured with
  | nil => rfl
  | cons port rest ih =>
      have ih := ih fun port member => leftOut port (List.mem_cons_of_mem _ member)
      cases floods : port.unicastFlood with
      | true => rw [List.filter_cons_of_pos floods, List.flatMap_cons, List.flatMap_cons, ih]
      | false =>
          rw [List.filter_cons_of_neg (by simp [floods]), List.flatMap_cons, ih,
            leftOut port List.mem_cons_self floods, List.nil_append]

/-- Without a group of its own, unknown unicast is flooded to the same ports. -/
theorem outputs_of_same (valid : ValidPorts ports)
    (same : (conf.resetPorts ports).unicastGroupDiffers = false) :
    (conf.resetPorts ports).taggedOutputs true = (conf.resetPorts ports).taggedOutputs false ∧
      (conf.resetPorts ports).untaggedOutputs true =
        (conf.resetPorts ports).untaggedOutputs false := by
  have leftOut : ∀ port ∈ (conf.resetPorts ports).getPorts, port.unicastFlood = false →
      portOutputs none (conf.resetPorts ports).vlanExcludedPorts port = [] := by
    intro port inVlan refuses
    rw [portOutputs_none, if_pos (excluded_of_refuses valid same inVlan refuses)]
  constructor
  · rw [taggedOutputs, taggedFloodPorts, flatMap_floodPorts fun port member =>
      leftOut port (List.mem_append_left _ (List.mem_append_left _ member))]
    rfl
  · rw [untaggedOutputs, untaggedFloodPorts, flatMap_floodPorts fun port member =>
      leftOut port (by
        rw [getPorts, List.append_assoc]
        exact List.mem_append_right _ member)]
    rfl

end Vlan

end Outputs

/-! ## The rules of both modes -/

section Rules

variable {dp : Dp} {plain : dp.combinatorialPortFlood = false} {useGroupTable other : Bool}
  {ports : List Port} {conf : VlanConf} {dst : FloodDst} {inPort : Option Port} {port : Port}
  {switch fresh : Switch} {packet : Packet} {flow : FlowId} {entry entry' : FlowEntry}

/-- The rule of a port does not depend on the group table. -/
theorem ruleActs_port {vlan : Vlan} : (dp.withGroupTable plain useGroupTable).ruleActs vlan dst
    (some port) = dp.ruleActs vlan dst (some port) := rfl

theorem ruleActs_vlan {vlan : Vlan} : (dp.withGroupTable plain useGroupTable).ruleActs vlan dst
    none = some (if useGroupTable then [.group (vlan.floodGroupId dst.unicast)]
      else vlan.buildFloodActsForVlan dst.unicast) := by
  rw [Dp.ruleActs, Dp.vlanActs, if_neg (by simp [Dp.withGroupTable, plain])]
  cases useGroupTable <;> rfl

theorem ruleActs_isSome {vlan : Vlan} :
    ((dp.withGroupTable plain useGroupTable).ruleActs vlan dst inPort).isSome =
      ((dp.withGroupTable plain other).ruleActs vlan dst inPort).isSome := by
  cases inPort with
  | none => rw [ruleActs_vlan, ruleActs_vlan, Option.isSome_some, Option.isSome_some]
  | some port => rw [ruleActs_port, ruleActs_port]

theorem accepted_floodMatch {vid : Vid} {number : Option PortNo} :
    packet.accepted (floodMatch vid number dst) = true ↔
      (∀ port, number = some port → packet.inPort = port) ∧ packet.vid = vid ∧
        ∀ field ∈ dst.fields, packet.hasField field = true := by
  have ofPort : ∀ port, packet.hasField ⟨0, port, none⟩ = true ↔ packet.inPort = port := by
    simp [Packet.hasField, Packet.value]
  have ofVlan : packet.hasField ⟨6, vid + 0x1000, none⟩ = true ↔ packet.vid = vid := by
    simp [Packet.hasField, Packet.value]
  rw [Packet.accepted, List.all_eq_true, ← ofVlan]
  constructor
  · intro accepts
    exact ⟨fun port same => (ofPort port).mp (accepts _ (inPort_mem_floodMatch.mpr same)),
      accepts _ vlan_mem_floodMatch,
      fun field member => accepts field (mem_floodMatch.mpr (.inr (.inr member)))⟩
  · rintro ⟨port, vlan, fields⟩ field member
    rcases mem_floodMatch.mp member with ⟨number, same, rfl⟩ | rfl | listed
    · exact (ofPort number).mpr (port number same)
    · exact vlan
    · exact fields field listed

theorem watched_of_accepted (numbers : (ports.map (·.number)).Nodup)
    (isUp : ∃ port ∈ ports, port.number = packet.inPort ∧ port.dynPhysUp = true)
    (member : ∀ port ∈ inPort, port ∈ ports)
    (accepts : packet.accepted (floodMatch conf.vid (inPort.map (·.number)) dst) = true) :
    Watched ports (conf.resetPorts ports) dst inPort := by
  intro port isPort
  refine ⟨member port isPort, .inl ?_⟩
  obtain ⟨other, member', same, up⟩ := isUp
  have number := inPort_of_accepted accepts (by rw [Option.mem_def.mp isPort, Option.map_some])
  rwa [eq_of_number numbers (member port isPort) member' (number.symm.trans same.symm)]

/-- The flows of a table with the wanted rules that accept a packet. -/
theorem Installed.accepted_cases {dp : Dp} (numbers : (ports.map (·.number)).Nodup)
    (installed : Installed dp ports switch)
    (isUp : ∃ port ∈ ports, port.number = packet.inPort ∧ port.dynPhysUp = true)
    (inTable : flow.tableId = dp.floodTable) (accepts : packet.accepted flow.matchFields = true) :
    (∃ conf ∈ dp.vlans, conf.reservedInternalVlan = false ∧ packet.vid = conf.vid ∧
      ∃ dst ∈ dp.vlanFloodDsts conf, ∃ inPort : Option Port,
        flow = dp.flowId conf.vid (inPort.map (·.number)) dst ∧
        Watched ports (conf.resetPorts ports) dst inPort ∧
        switch.flows flow = (dp.ruleActs (conf.resetPorts ports) dst inPort).map dp.floodEntry) ∨
    ¬ dp.RuleId ports flow ∧ switch.flows flow = dp.initialFlows flow := by
  by_cases isRule : dp.RuleId ports flow
  · obtain ⟨conf, known, unreserved, dst, listed, inPort, member, rfl⟩ := isRule
    have watched := watched_of_accepted numbers isUp member accepts
    exact .inl ⟨conf, known, unreserved, (accepted_floodMatch.mp accepts).2.1, dst, listed, inPort, rfl, watched,
      installed.rules conf known unreserved dst listed inPort watched⟩
  · exact .inr ⟨isRule, installed.others flow inTable isRule⟩

/-- The same flows are there in both modes. -/
theorem isSome_flows (numbers : (ports.map (·.number)).Nodup)
    (installed : Installed (dp.withGroupTable plain useGroupTable) ports switch)
    (installed' : Installed (dp.withGroupTable plain other) ports fresh)
    (isUp : ∃ port ∈ ports, port.number = packet.inPort ∧ port.dynPhysUp = true)
    (inTable : flow.tableId = dp.floodTable) (accepts : packet.accepted flow.matchFields = true) :
    (switch.flows flow).isSome = (fresh.flows flow).isSome := by
  rcases installed.accepted_cases numbers isUp inTable accepts with
    ⟨conf, known, unreserved, _, dst, listed, inPort, rfl, watched, rule⟩ | ⟨notRule, rule⟩
  · have rule' : fresh.flows (dp.flowId conf.vid (inPort.map (·.number)) dst) = _ :=
      installed'.rules conf known unreserved dst listed inPort watched
    have rule : switch.flows (dp.flowId conf.vid (inPort.map (·.number)) dst) = _ := rule
    have present : ((dp.withGroupTable plain useGroupTable).ruleActs (conf.resetPorts ports) dst
        inPort).isSome =
      ((dp.withGroupTable plain other).ruleActs (conf.resetPorts ports) dst inPort).isSome :=
      ruleActs_isSome
    refine Eq.trans ?_ (present.trans ?_)
    · exact (congrArg Option.isSome rule).trans Option.isSome_map
    · exact ((congrArg Option.isSome rule').trans Option.isSome_map).symm
  · rw [rule, installed'.others flow inTable notRule]
    rfl

theorem Selects.transfer (numbers : (ports.map (·.number)).Nodup)
    (installed : Installed (dp.withGroupTable plain useGroupTable) ports switch)
    (installed' : Installed (dp.withGroupTable plain other) ports fresh)
    (isUp : ∃ port ∈ ports, port.number = packet.inPort ∧ port.dynPhysUp = true)
    (selected : Selects (dp.withGroupTable plain useGroupTable) switch packet flow entry) :
    ∃ entry', Selects (dp.withGroupTable plain other) fresh packet flow entry' := by
  have present := isSome_flows numbers installed installed' isUp selected.inTable selected.accepts
  rw [selected.present, Option.isSome_some, eq_comm, Option.isSome_iff_exists] at present
  obtain ⟨entry', present⟩ := present
  refine ⟨entry', selected.inTable, present, selected.accepts, ?_⟩
  intro flow' inTable present' accepts
  refine selected.best flow' inTable ?_ accepts
  rw [← Option.isSome_iff_ne_none] at present' ⊢
  exact (isSome_flows numbers installed installed' isUp inTable accepts).trans present'

end Rules

/-! ## Agreement -/

/-- Copies of unknown unicast from the port are lost with a group table: it is flooded by
the rule of the VLAN, with a group of its own, and some other port is output to twice. -/
structure LosesCopies (dp : Dp) (ports : List Port) (conf : VlanConf) (port : Port) : Prop where
  unreserved : conf.reservedInternalVlan = false
  unicastFlood : conf.unicastFlood = true
  reached : dp.lowestPriority ≤ matchPriority
  noRule : dp.ruleActs (conf.resetPorts ports) unknownUnicast (some port) = none
  ownGroup : (conf.resetPorts ports).unicastGroupDiffers = true
  twice : ∃ number ∈ (conf.resetPorts ports).taggedOutputs true,
    number ∈ (conf.resetPorts ports).untaggedOutputs true ∧ number ≠ port.number

section Agreement

variable {dp : Dp} {plain : dp.combinatorialPortFlood = false} {useGroupTable : Bool}
  {ports : List Port} {conf : VlanConf} {dst : FloodDst} {port : Port} {vlan : Vlan}
  {switch grouped multi : Switch} {packet : Packet} {flow : FlowId} {entry entry' : FlowEntry}
  {groups groups' : ℕ → Option Group} {number : PortNo} {unicast : Bool}

theorem eq_unknownUnicast (known : dst ∈ allFloodDsts) (isUnicast : dst.unicast = true) :
    dst = unknownUnicast := by
  have only : ∀ dst ∈ allFloodDsts, dst.unicast = true → dst = unknownUnicast := by decide
  exact only dst known isUnicast

/-- The drop of what no other rule matches is there. -/
theorem default_present (installed : Installed dp ports switch) :
    switch.flows ⟨dp.floodTable, dp.lowestPriority, .any⟩ ≠ none := by
  have notRule : ¬ dp.RuleId ports ⟨dp.floodTable, dp.lowestPriority, .any⟩ := by
    rintro ⟨conf, _, _, dst, _, inPort, _, same⟩
    have vlan : ⟨6, conf.vid + 0x1000, none⟩ ∈
        (floodMatch conf.vid (inPort.map (·.number)) dst).items := vlan_mem_floodMatch
    rw [show floodMatch conf.vid (inPort.map (·.number)) dst = .any from
      (congrArg FlowId.matchFields same).symm] at vlan
    cases vlan
  have named : (dp.floodDrop none).names ⟨dp.floodTable, dp.lowestPriority, .any⟩ = true := by
    simp [FlowMod.names, Dp.floodDrop]
  have first : dp.coldStartDrops.find?
      (·.names ⟨dp.floodTable, dp.lowestPriority, .any⟩) = some (dp.floodDrop none) := by
    rw [Dp.coldStartDrops, List.find?_cons, named]
  rw [installed.others ⟨dp.floodTable, dp.lowestPriority, .any⟩ rfl notRule, Dp.initialFlows, first]
  exact Option.some_ne_none _

/-- When the rule of the VLAN for unknown unicast takes a packet, the input port has none. -/
theorem of_selected_unicast
    (installed : Installed (dp.withGroupTable plain useGroupTable) ports switch)
    (known : conf ∈ dp.vlans) (unreserved : conf.reservedInternalVlan = false)
    (listed : dst ∈ dp.vlanFloodDsts conf) (isUnicast : dst.unicast = true) (member : port ∈ ports)
    (isUp : port.dynPhysUp = true) (inPort : packet.inPort = port.number)
    (selected : Selects (dp.withGroupTable plain useGroupTable) switch packet
      (dp.flowId conf.vid none dst) entry) :
    conf.unicastFlood = true ∧ dp.lowestPriority ≤ matchPriority ∧
      dp.ruleActs (conf.resetPorts ports) unknownUnicast (some port) = none := by
  have accepts := accepted_floodMatch.mp selected.accepts
  obtain rfl := eq_unknownUnicast (Dp.mem_allFloodDsts listed) isUnicast
  refine ⟨?_, ?_, ?_⟩
  · simpa [unknownUnicast] using (List.mem_filter.mp listed).2
  · have default := default_present installed
    exact selected.best ⟨dp.floodTable, dp.lowestPriority, .any⟩ rfl default rfl
  · by_contra wanted
    have watched : Watched ports (conf.resetPorts ports) unknownUnicast (some port) := by
      rintro _ ⟨⟩
      exact ⟨member, .inl isUp⟩
    have rule : switch.flows (dp.flowId conf.vid (some port.number) unknownUnicast) =
        (dp.ruleActs (conf.resetPorts ports) unknownUnicast (some port)).map dp.floodEntry :=
      installed.rules conf known unreserved unknownUnicast listed (some port) watched
    have present : switch.flows (dp.flowId conf.vid (some port.number) unknownUnicast) ≠ none := by
      simpa [rule] using wanted
    have accepts' : packet.accepted (floodMatch conf.vid (some port.number) unknownUnicast) = true := by
      refine accepted_floodMatch.mpr ⟨?_, accepts.2⟩
      rintro _ ⟨⟩
      exact inPort
    have notHigher := selected.best (dp.flowId conf.vid (some port.number) unknownUnicast) rfl
      present accepts'
    simp only [Dp.flowId, floodPriority, Option.isSome_some, Option.isSome_none] at notHigher
    exact absurd notHigher (Nat.not_succ_le_self _)

theorem not_group_floodGroupActs {groupId : ℕ} : .group groupId ∉ vlan.floodGroupActs unicast := by
  unfold Vlan.floodGroupActs
  split
  · exact fun member =>
      Vlan.not_group_buildFloodRuleActions (OrderedDict.mem_of_mem_values member)
  · exact Vlan.not_group_buildFloodRuleActions

/-- A group makes the copies of the multiple outputs unless a port is output to twice. -/
theorem actOutputs_floodGroupActs (valid : ValidPorts ports) (inPort : number ≠ ofppInPort)
    (once : unicast = true → (conf.resetPorts ports).unicastGroupDiffers = true →
      ∀ output ∈ (conf.resetPorts ports).taggedOutputs true,
        output ∈ (conf.resetPorts ports).untaggedOutputs true → output = number) :
    actOutputs groups number true ((conf.resetPorts ports).floodGroupActs unicast) =
      actOutputs groups' number true ((conf.resetPorts ports).buildFloodActsForVlan unicast) := by
  rw [Vlan.actOutputs_buildFloodActsForVlan, Vlan.floodGroupActs]
  cases unicast with
  | false => exact Vlan.actOutputs_buildFloodActsForVlan
  | true =>
      cases differs : (conf.resetPorts ports).unicastGroupDiffers with
      | false =>
          obtain ⟨tagged, untagged⟩ := Vlan.outputs_of_same valid differs
          rw [if_neg nofun, Vlan.actOutputs_buildFloodActsForVlan, tagged, untagged]
      | true =>
          rw [Bool.and_self, if_pos (Eq.refl true), Vlan.actOutputs_dedupedActs]
          congr 1
          unfold copiesTo
          rw [List.filterMap_filter]
          congr 1
          refine List.filterMap_congr fun output member => ?_
          split
          next => rfl
          next isTagged =>
            have same := once rfl differs output (by simpa using isTagged) member
            rw [same, outputTo, if_neg inPort, if_pos rfl]

theorem entryOutputs_initial (initial : dp.initialFlows flow = some entry) :
    entryOutputs groups number entry = [] := by
  obtain ⟨_, _, _, rfl⟩ := of_initialFlows initial
  rfl

/-- What an entry of the rule of a port outputs does not depend on the groups. -/
theorem entryOutputs_port {floodActs : List Act}
    (wanted : dp.ruleActs vlan dst (some port) = some floodActs) :
    entryOutputs groups number (dp.floodEntry floodActs) =
      entryOutputs groups' number (dp.floodEntry floodActs) := by
  refine entryOutputs_congr fun groupId member => ?_
  rw [Dp.acts_of_install (Dp.ruleActs_port_iff.mp wanted).2] at member
  exact absurd member Vlan.not_group_buildFloodActsForPort

/-- The outputs of the rule of the VLAN in a switch with its groups. -/
theorem entryOutputs_group (installed : Installed (dp.withGroupTable plain true) ports switch)
    (known : conf ∈ dp.vlans) (unreserved : conf.reservedInternalVlan = false) :
    entryOutputs switch.groups number
        (dp.floodEntry [.group ((conf.resetPorts ports).floodGroupId unicast)]) =
      actOutputs switch.groups number true ((conf.resetPorts ports).floodGroupActs unicast) := by
  have group : switch.groups ((conf.resetPorts ports).floodGroupId unicast) =
      some ((conf.resetPorts ports).floodGroup unicast) :=
    installed.groups rfl conf known unreserved unicast
  rw [entryOutputs_floodEntry, actOutputs, group, Option.toList_some, List.flatMap_singleton,
    actOutputs, List.append_nil]
  exact groupOutputs_buckets fun _ => not_group_floodGroupActs

section Frame

variable (valid : ValidPorts ports)
  (installed : Installed (dp.withGroupTable plain true) ports grouped)
  (installed' : Installed (dp.withGroupTable plain false) ports multi)
  (known : conf ∈ dp.vlans) (member : port ∈ ports) (isUp : port.dynPhysUp = true)
  (inPort : packet.inPort = port.number) (vid : packet.vid = conf.vid)
include valid installed installed' known member isUp inPort vid

/-- The flow that takes a packet makes the same copies in both modes. -/
theorem Selects.sameOutputs (keeps : ¬ LosesCopies dp ports conf port)
    (selected : Selects (dp.withGroupTable plain true) grouped packet flow entry)
    (selected' : Selects (dp.withGroupTable plain false) multi packet flow entry') :
    entryOutputs grouped.groups packet.inPort entry =
      entryOutputs multi.groups packet.inPort entry' := by
  have arrives : ∃ port ∈ ports, port.number = packet.inPort ∧ port.dynPhysUp = true :=
    ⟨port, member, inPort.symm, isUp⟩
  have present := selected.present
  have present' := selected'.present
  rcases installed.accepted_cases valid.numbers arrives selected.inTable selected.accepts with
    ⟨other, known', unreserved, sameVid, dst, listed, rulePort, rfl, watched, rule⟩ | ⟨notRule, rule⟩
  · cases eq_of_vid known known' (vid.symm.trans sameVid)
    have rule' := installed'.rules conf known unreserved dst listed rulePort watched
    rw [rule, Option.map_eq_some_iff] at present
    obtain ⟨floodActs, wanted, rfl⟩ := present
    replace rule' := rule'.symm.trans present'
    rw [Option.map_eq_some_iff] at rule'
    obtain ⟨floodActs', wanted', rfl⟩ := rule'
    cases rulePort with
    | some rulePort =>
        rw [ruleActs_port] at wanted wanted'
        rw [wanted] at wanted'
        cases wanted'
        exact entryOutputs_port wanted
    | none =>
        rw [ruleActs_vlan] at wanted wanted'
        cases wanted
        cases wanted'
        refine (entryOutputs_group installed known unreserved).trans
          (Eq.trans ?_ entryOutputs_floodEntry.symm)
        refine actOutputs_floodGroupActs valid (inPort ▸ valid.valid port member) ?_
        intro isUnicast ownGroup output tagged untagged
        obtain ⟨unicastFlood, reached, noRule⟩ := of_selected_unicast installed known unreserved
          listed isUnicast member isUp inPort selected
        rw [inPort]
        by_contra twice
        exact keeps ⟨unreserved, unicastFlood, reached, noRule, ownGroup, output, tagged, untagged,
          twice⟩
  · have rule' := installed'.others flow selected.inTable notRule
    rw [entryOutputs_initial (rule.symm.trans present),
      entryOutputs_initial (rule'.symm.trans present')]

theorem copies_iff_of_keeps (keeps : ¬ LosesCopies dp ports conf port) (copies : Multiset Output) :
    Copies (dp.withGroupTable plain true) grouped packet copies ↔
      Copies (dp.withGroupTable plain false) multi packet copies := by
  have arrives : ∃ port ∈ ports, port.number = packet.inPort ∧ port.dynPhysUp = true :=
    ⟨port, member, inPort.symm, isUp⟩
  constructor
  · rintro ⟨flow, entry, selected, rfl⟩
    obtain ⟨entry', selected'⟩ := selected.transfer valid.numbers installed installed' arrives
    exact ⟨flow, entry', selected', congrArg _ (selected.sameOutputs valid installed installed' known
      member isUp inPort vid keeps selected')⟩
  · rintro ⟨flow, entry', selected', rfl⟩
    obtain ⟨entry, selected⟩ := selected'.transfer valid.numbers installed' installed arrives
    exact ⟨flow, entry, selected, congrArg _ (selected.sameOutputs valid installed installed' known
      member isUp inPort vid keeps selected').symm⟩

end Frame

end Agreement

/-! ## Copies that are lost -/

/-- A packet from the port to an address that is not a multicast address. -/
def Port.unicastPacket (port : Port) (vid : Vid) : Packet where
  inPort := port.number
  vid := vid
  ethType := 0
  ethDst := 0

section Lost

variable {dp : Dp} {plain : dp.combinatorialPortFlood = false} {useGroupTable : Bool}
  {ports : List Port} {conf : VlanConf} {port : Port} {switch grouped multi : Switch}
  {flow : FlowId} {copies : Multiset Output}

theorem eq_unknownUnicast_of_accepts {dst : FloodDst} {vid : Vid} (known : dst ∈ allFloodDsts)
    (accepts : ∀ field ∈ dst.fields, (port.unicastPacket vid).hasField field = true) :
    dst = unknownUnicast := by
  have only : ∀ dst ∈ allFloodDsts,
      (∀ field ∈ dst.fields, (Packet.mk 0 0 0 0).hasField field = true) → dst = unknownUnicast := by
    decide
  refine only dst known fun field member => ?_
  have holds := accepts field member
  rcases kind_of_mem_fields member with kind | kind <;>
    simpa [Packet.hasField, Packet.value, Port.unicastPacket, kind] using holds

/-- Of the flows that drop only the one of the lowest priority accepts the packet. -/
theorem priority_of_initial {entry : FlowEntry} {vid : Vid}
    (initial : dp.initialFlows flow = some entry)
    (accepts : (port.unicastPacket vid).accepted flow.matchFields = true) :
    flow.priority = dp.lowestPriority := by
  obtain ⟨ethDst, listed, named, _⟩ := of_initialFlows initial
  rw [match_of_names_floodDrop named] at accepts
  rw [FlowMod.names, Bool.and_eq_true, Bool.and_eq_true, beq_iff_eq, beq_iff_eq] at named
  rw [← named.1.2]
  cases ethDst with
  | none => rfl
  | some ethDst =>
      have reserved : ethDst ∈ [(0x01000ccccccc, macByteMask 6), (0x01000ccccccd, macByteMask 6),
          (0x0180c2000000, 0xfffffffffff0)] := by
        rcases List.mem_cons.mp listed with same | initialised
        · cases floodDrop_inj (congrArg FlowMod.matchFields same)
        · obtain ⟨other, member, same⟩ := List.mem_map.mp initialised
          cases floodDrop_inj (congrArg FlowMod.matchFields same)
          exact member
      have rejects : ∀ ethDst ∈ [(0x01000ccccccc, macByteMask 6), (0x01000ccccccd, macByteMask 6),
          (0x0180c2000000, 0xfffffffffff0)], 0 &&& ethDst.2 ≠ ethDst.1 &&& ethDst.2 := by
        decide
      have field := List.all_eq_true.mp accepts _ (List.mem_singleton.mpr rfl)
      exact absurd (of_decide_eq_true field) (rejects ethDst reserved)

section

variable (numbers : (ports.map (·.number)).Nodup)
  (installed : Installed (dp.withGroupTable plain useGroupTable) ports switch)
  (known : conf ∈ dp.vlans) (member : port ∈ ports) (isUp : port.dynPhysUp = true)
  (loses : LosesCopies dp ports conf port)
include numbers installed known member isUp loses

/-- Only the rule of the VLAN and flows that drop accept the packet. -/
theorem unicast_cases (inTable : flow.tableId = dp.floodTable) (present : switch.flows flow ≠ none)
    (accepts : (port.unicastPacket conf.vid).accepted flow.matchFields = true) :
    flow = dp.flowId conf.vid none unknownUnicast ∨ switch.flows flow = dp.initialFlows flow := by
  have arrives : ∃ other ∈ ports, other.number = (port.unicastPacket conf.vid).inPort ∧
      other.dynPhysUp = true := ⟨port, member, rfl, isUp⟩
  rcases installed.accepted_cases numbers arrives inTable accepts with
    ⟨other, known', unreserved, sameVid, dst, listed, rulePort, rfl, watched, rule⟩ | ⟨_, rule⟩
  · cases eq_of_vid known known' sameVid
    obtain ⟨ofPort, _, fields⟩ := accepted_floodMatch.mp accepts
    obtain rfl := eq_unknownUnicast_of_accepts (Dp.mem_allFloodDsts listed) fields
    cases rulePort with
    | none => exact .inl rfl
    | some rulePort =>
        have number : port.number = rulePort.number := ofPort rulePort.number rfl
        cases eq_of_number numbers member (watched rulePort rfl).1 number
        rw [rule, ruleActs_port, loses.noRule] at present
        exact absurd rfl present
  · exact .inr rule

theorem selects_unicast : ∃ floodActs,
    (dp.withGroupTable plain useGroupTable).ruleActs (conf.resetPorts ports) unknownUnicast none =
      some floodActs ∧
    Selects (dp.withGroupTable plain useGroupTable) switch (port.unicastPacket conf.vid)
      (dp.flowId conf.vid none unknownUnicast) (dp.floodEntry floodActs) := by
  have listed : unknownUnicast ∈ dp.vlanFloodDsts conf := by
    refine List.mem_filter.mpr ⟨?_, by simp [unknownUnicast, loses.unicastFlood]⟩
    rw [Dp.floodDsts]
    split <;> decide
  have rule := installed.rules conf known loses.unreserved unknownUnicast listed none watched_none
  rw [ruleActs_vlan] at rule ⊢
  refine ⟨_, rfl, rfl, rule, ?_, ?_⟩
  · exact accepted_floodMatch.mpr ⟨(by intros; contradiction), rfl, (by intros; contradiction)⟩
  · intro other inTable present accepts
    rcases unicast_cases numbers installed known member isUp loses inTable present accepts with
      rfl | initial
    · exact Nat.le_refl _
    · obtain ⟨entry, found⟩ := Option.ne_none_iff_exists'.mp present
      rw [priority_of_initial (initial.symm.trans found) accepts]
      exact loses.reached

end

/-- **With a group table a copy is lost.** -/
theorem not_copies_of_loses (valid : ValidPorts ports)
    (installed : Installed (dp.withGroupTable plain true) ports grouped)
    (installed' : Installed (dp.withGroupTable plain false) ports multi) (known : conf ∈ dp.vlans)
    (member : port ∈ ports) (isUp : port.dynPhysUp = true) (loses : LosesCopies dp ports conf port) :
    ∃ copies, Copies (dp.withGroupTable plain false) multi (port.unicastPacket conf.vid) copies ∧
      ¬ Copies (dp.withGroupTable plain true) grouped (port.unicastPacket conf.vid) copies := by
  obtain ⟨floodActs, wanted, selected⟩ :=
    selects_unicast valid.numbers installed' known member isUp loses
  rw [ruleActs_vlan] at wanted
  cases wanted
  obtain ⟨number, tagged, untagged, elsewhere⟩ := loses.twice
  obtain ⟨sent, goes⟩ := Option.isSome_iff_exists.mp
    ((outputTo_isSome_iff (valid.valid port member)).mpr elsewhere)
  have copied : ⟨sent, false⟩ ∈ entryOutputs multi.groups port.number
      (dp.floodEntry ((conf.resetPorts ports).buildFloodActsForVlan true)) := by
    rw [entryOutputs_floodEntry, Vlan.actOutputs_buildFloodActsForVlan]
    exact List.mem_append_right _ (mem_copiesTo.mpr ⟨rfl, number, untagged, goes⟩)
  refine ⟨_, ⟨_, _, selected, rfl⟩, ?_⟩
  rintro ⟨flow, entry, selected', same⟩
  have kept : ⟨sent, false⟩ ∈ entryOutputs grouped.groups port.number entry := by
    have inCopies : (⟨sent, false⟩ : Output) ∈ (entryOutputs multi.groups port.number
        (dp.floodEntry ((conf.resetPorts ports).buildFloodActsForVlan true)) : Multiset Output) :=
      Multiset.mem_coe.mpr copied
    exact Multiset.mem_coe.mp ((congrArg (⟨sent, false⟩ ∈ ·) same).mp inCopies)
  have present : grouped.flows flow ≠ none := by simp [selected'.present]
  rcases unicast_cases valid.numbers installed known member isUp loses selected'.inTable present
      selected'.accepts with rfl | initial
  · obtain ⟨floodActs, wanted, rule⟩ :=
      selects_unicast valid.numbers installed known member isUp loses
    rw [ruleActs_vlan] at wanted
    cases wanted
    have sameEntry := selected'.present.symm.trans rule.present
    cases sameEntry
    have outputs : entryOutputs grouped.groups port.number
        (dp.floodEntry [.group ((conf.resetPorts ports).floodGroupId true)]) = _ :=
      entryOutputs_group installed known loses.unreserved
    replace kept : ⟨sent, false⟩ ∈ entryOutputs grouped.groups port.number
        (dp.floodEntry [.group ((conf.resetPorts ports).floodGroupId true)]) := kept
    rw [outputs, Vlan.floodGroupActs, loses.ownGroup, Bool.and_self, if_pos (Eq.refl true),
      Vlan.actOutputs_dedupedActs] at kept
    rcases List.mem_append.mp kept with kept | kept
    · cases (mem_copiesTo.mp kept).1
    · obtain ⟨_, other, listed, goes'⟩ := mem_copiesTo.mp kept
      obtain rfl := outputTo_inj goes goes'
      simp [tagged] at listed
  · rw [entryOutputs_initial (initial.symm.trans selected'.present)] at kept
    cases kept

end Lost

/-- **With and without a group table** a packet from the port is flooded as the same copies
exactly when no copy is lost. -/
theorem sameCopies_iff {dp : Dp} {plain : dp.combinatorialPortFlood = false} {ports : List Port}
    {grouped multi : Switch} {conf : VlanConf} {port : Port} (valid : ValidPorts ports)
    (cold : (dp.withGroupTable plain true).ColdStart ports grouped)
    (cold' : (dp.withGroupTable plain false).ColdStart ports multi) (known : conf ∈ dp.vlans)
    (member : port ∈ ports) (isUp : port.dynPhysUp = true) :
    (∀ packet : Packet, packet.inPort = port.number → packet.vid = conf.vid → ∀ copies,
      (Copies (dp.withGroupTable plain true) grouped packet copies ↔
        Copies (dp.withGroupTable plain false) multi packet copies)) ↔
      ¬ LosesCopies dp ports conf port := by
  have installed := installed_of_coldStart valid.numbers cold
  have installed' := installed_of_coldStart valid.numbers cold'
  constructor
  · intro same loses
    obtain ⟨copies, copied, lost⟩ :=
      not_copies_of_loses valid installed installed' known member isUp loses
    exact lost ((same _ rfl rfl copies).mpr copied)
  · intro keeps packet inPort vid
    exact copies_iff_of_keeps valid installed installed' known member isUp inPort vid keeps

/-! ## Two ports with one mirror -/

/-- Ports 1 and 2 are mirrored to port 9; unknown unicast is not flooded to port 3. -/
def mirrorPorts : List Port :=
  [{ labPort 1 with nativeVlan := none, taggedVlans := [100], mirror := [9] },
    { labPort 2 with mirror := [9] },
    { labPort 3 with unicastFlood := false },
    { labPort 9 with nativeVlan := none }]

theorem mirror_valid : ValidPorts mirrorPorts where
  numbers := by decide
  valid := by decide
  mirrors := by decide

/-- From port 2, which has a rule of its own, nothing is lost. -/
theorem sameCopies_mirror : ∃ (grouped multi : Switch), ∀ packet : Packet, packet.inPort = 2 →
    packet.vid = 100 → ∀ copies,
      (Copies ((labDp false).withGroupTable rfl true) grouped packet copies ↔
        Copies ((labDp false).withGroupTable rfl false) multi packet copies) := by
  obtain ⟨grouped, cold⟩ := exists_coldStart ((labDp false).withGroupTable rfl true) mirrorPorts
  obtain ⟨multi, cold'⟩ := exists_coldStart ((labDp false).withGroupTable rfl false) mirrorPorts
  have hasRule : (labDp false).ruleActs (labVlan.resetPorts mirrorPorts) unknownUnicast
      (some { labPort 2 with mirror := [9] }) ≠ none := by decide
  have member : { labPort 2 with mirror := [9] } ∈ mirrorPorts := by decide
  have same := (sameCopies_iff mirror_valid cold cold' (List.mem_singleton.mpr rfl) member rfl).mpr
    fun loses => hasRule loses.noRule
  exact ⟨grouped, multi, same⟩

theorem mirror_loses : LosesCopies (labDp false) mirrorPorts labVlan
    { labPort 3 with unicastFlood := false } where
  unreserved := rfl
  unicastFlood := rfl
  reached := by decide
  noRule := by decide
  ownGroup := by decide
  twice := ⟨9, by decide⟩

/-- Unknown unicast from port 3 is mirrored with and without the tag, but not by the group. -/
theorem not_sameCopies_of_mirror :
    ¬ ∀ (dp : Dp) (plain : dp.combinatorialPortFlood = false) (ports : List Port)
      (grouped multi : Switch) (conf : VlanConf) (port : Port), ValidPorts ports →
      (dp.withGroupTable plain true).ColdStart ports grouped →
      (dp.withGroupTable plain false).ColdStart ports multi → conf ∈ dp.vlans → port ∈ ports →
      port.dynPhysUp = true → ∀ packet : Packet, packet.inPort = port.number →
      packet.vid = conf.vid → ∀ copies,
        (Copies (dp.withGroupTable plain true) grouped packet copies ↔
          Copies (dp.withGroupTable plain false) multi packet copies) := by
  intro same
  obtain ⟨grouped, cold⟩ := exists_coldStart ((labDp false).withGroupTable rfl true) mirrorPorts
  obtain ⟨multi, cold'⟩ := exists_coldStart ((labDp false).withGroupTable rfl false) mirrorPorts
  have known : labVlan ∈ (labDp false).vlans := List.mem_singleton.mpr rfl
  have member : { labPort 3 with unicastFlood := false } ∈ mirrorPorts := by decide
  obtain ⟨copies, copied, lost⟩ := not_copies_of_loses mirror_valid
    (installed_of_coldStart mirror_valid.numbers cold)
    (installed_of_coldStart mirror_valid.numbers cold') known member rfl mirror_loses
  exact lost ((same (labDp false) rfl mirrorPorts grouped multi labVlan _ mirror_valid cold cold'
    known member rfl _ rfl rfl copies).mpr copied)

end Faucet.Flooding
