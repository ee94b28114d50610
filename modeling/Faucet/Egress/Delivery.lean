import Faucet.Egress.Metadata

/-!
# Delivery through the egress table

After a cold start the egress table has the rule of every port for every VLAN of it, as
long as no two ports have numbers with the same lower 12 bits. Then a frame to a
learned host goes where its rule would output it without the egress table, and the
deletion of a port leaves the rules of the others alone. With two such numbers the
deletion of one port removes rules of the other (`agrees_iff`).
-/

set_option autoImplicit false

namespace Faucet.Egress

open OpenFlow
open Flooding (Vid popVlan setExternalForwardingRequested setNoExternalForwardingRequested
  actOutputs outputTo Output)

/-! ## Packets in the egress table -/

/-- A frame before the egress table, which is in a VLAN and has metadata. -/
structure Packet where
  inPort : PortNo
  vid : Vid
  metadata : ℕ
deriving DecidableEq, Repr

namespace Packet

variable (packet : Packet)

/-- The field of a kind. -/
def value (kind : ℕ) : Option ℕ :=
  if kind = 0 then some packet.inPort
  else if kind = 2 then some packet.metadata
  else if kind = 6 then some (packet.vid + 0x1000)
  else none

/-- The frame has the field, as far as the mask asks for it. -/
def hasField (field : OxmField) : Bool :=
  match packet.value field.field, field.mask with
  | none, _ => false
  | some value, none => value == field.value
  | some value, some mask => value &&& mask == field.value &&& mask

/-- The frame has all fields of the match. -/
def accepted (fields : Match) : Bool := fields.items.all packet.hasField

end Packet

/-- The copies of a frame but those that are mirrored. -/
def frameOutputs (port : Port) (inPort : PortNo) (actions : List Act) : List Output :=
  actOutputs (fun _ => none) inPort true (actions.filter (· ∉ port.mirrorActions))

/-- The copies of the frame itself that a flow makes. -/
def entryFrameOutputs (port : Port) (inPort : PortNo) (entry : FlowEntry) : List Output :=
  entry.instructions.flatMap fun instruction => match instruction with
    | .applyActions actions => frameOutputs port inPort actions
    | _ => []

namespace Dp

variable (dp : Dp)

/-- A rule of the highest priority among those of the egress table that accept the
packet sends it to this output. -/
def Delivers (switch : Switch) (port : Port) (packet : Packet) (out : Output) : Prop :=
  ∃ flow entry, flow.tableId = dp.egressTable ∧ switch.flows flow = some entry ∧
    packet.accepted flow.matchFields = true ∧
    (∀ other, other.tableId = dp.egressTable → switch.flows other ≠ none →
      packet.accepted other.matchFields = true → other.priority ≤ flow.priority) ∧
    out ∈ entryFrameOutputs port packet.inPort entry

/-- What the rule of a host that was learned on the port does with a frame that has this
metadata before. -/
def HostDelivers (switch : Switch) (port : Port) (inPort : PortNo) (vid : Vid) (before : ℕ)
    (out : Output) : OutputInst → Prop
  | .metadataGotoTable metadata mask table => table = dp.egressTable ∧
      dp.Delivers switch port ⟨inPort, vid, writeMetadata before metadata mask⟩ out
  | .applyActions actions => out ∈ frameOutputs port inPort actions

/-- The egress pipeline agrees with direct output. -/
structure Agrees : Prop where
  identifies : ∀ port ∈ dp.ports, ∀ vid ∈ port.vlans, ∀ other ∈ dp.ports, ∀ vid' ∈ other.vlans,
    getEgressMetadata port.number vid = getEgressMetadata other.number vid' →
      port = other ∧ vid = vid'
  delivers : ∀ ports switch, ports.Perm dp.ports → dp.ColdStart ports switch →
    ∀ port ∈ dp.ports, ∀ vid ∈ port.vlans, ∀ external inPort before out,
      (dp.HostDelivers switch port inPort vid before out
          (output (some dp.egressTable) port vid external) ↔
        dp.HostDelivers switch port inPort vid before out (output none port vid external))
  deletes : ∀ ports switch next, ports.Perm dp.ports → dp.ColdStart ports switch →
    ∀ port ∈ dp.ports, dp.Deletes port switch next → ∀ other ∈ dp.ports, other ≠ port →
      ∀ vid ∈ other.vlans, next.flows (dp.egressFlowId other.number vid) =
        switch.flows (dp.egressFlowId other.number vid)

end Dp

/-! ## Matches -/

section Matches

variable {portNum portNum' : PortNo} {vid vid' : Vid} {dp : Dp} {port : Port}

theorem egressMatch_items (portNum : PortNo) (vid : Vid) : (egressMatch portNum vid).items =
    [metadataField (getEgressMetadata portNum vid) egressMetadataMask, ⟨6, vid + 0x1000, none⟩] :=
  rfl

theorem egressMatch_eq_iff : egressMatch portNum vid = egressMatch portNum' vid' ↔
    vid = vid' ∧ portNum % 4096 = portNum' % 4096 := by
  rw [← getEgressMetadata_eq_iff]
  constructor
  · intro same
    have items := congrArg Match.items same
    simp only [egressMatch_items, metadataField, List.cons.injEq, OxmField.mk.injEq] at items
    exact items.1.2.1
  · intro same
    have sameVid := (getEgressMetadata_eq_iff.mp same).1
    rw [egressMatch, same, sameVid]
    rfl

/-- The packet of a learned host is for the rules of its VLAN and of its metadata. -/
theorem accepted_iff (inPort : PortNo) (before : ℕ) (valid : (vid : ℕ) ≤ 4095)
    (valid' : (vid' : ℕ) ≤ 4095) :
    Packet.accepted ⟨inPort, vid, writeMetadata before (getEgressMetadata portNum vid)
      egressMetadataMask⟩ (egressMatch portNum' vid') = true ↔
        vid = vid' ∧ portNum % 4096 = portNum' % 4096 := by
  rw [← getEgressMetadata_eq_iff, Packet.accepted, egressMatch_items]
  simp only [List.all_cons, List.all_nil, Bool.and_true, Bool.and_eq_true, Packet.hasField,
    metadataField, Packet.value]
  simp only [show ¬ (2 = 0) from nofun, show ¬ (6 = 0) from nofun, show ¬ (6 = 2) from nofun,
    if_false, if_true, beq_iff_eq]
  rw [writeMetadata_and_mask, getEgressMetadata_and_mask valid, getEgressMetadata_and_mask valid']
  constructor
  · exact fun accepted => accepted.1
  · intro same
    have sameVid := (getEgressMetadata_eq_iff.mp same).1
    exact ⟨same, by rw [sameVid]⟩

/-- The delete of a port is for the rules whose ports have the lower bits of its number. -/
theorem delPort_reaches_iff : (dp.delPort port).reaches (dp.egressFlowId portNum vid) = true ↔
    port.number % 4096 = portNum % 4096 := by
  have mask : portMetadataMask &&& egressMetadataMask = portMetadataMask := by decide
  have lowBits : (port.number &&& portMetadataMask) &&& portMetadataMask = port.number % 4096 := by
    rw [Nat.and_assoc, Nat.and_self, and_portMetadataMask]
  rw [FlowMod.reaches]
  simp only [Dp.delPort, Dp.egressFlowId, beq_self_eq_true, Bool.or_true, Bool.true_and,
    Match.covers, Match.single, egressMatch_items, List.all_cons, List.all_nil, List.any_cons,
    List.any_nil, Bool.and_true, Bool.or_false, OxmField.covers, metadataField, mask, lowBits,
    getEgressMetadata_and_portMask, Bool.or_eq_true, beq_iff_eq, Bool.and_eq_true]
  constructor
  · rintro (same | ⟨impossible, _⟩)
    · exact same.symm
    · cases impossible
  · exact fun same => .inl same.symm

end Matches

/-! ## The egress table after a cold start -/

/-- No two ports, one of which has VLANs, have numbers with the same lower 12 bits. -/
def Dp.PortsDistinct (dp : Dp) : Prop :=
  ∀ port ∈ dp.ports, ∀ other ∈ dp.ports, port ≠ other → port.vlans ≠ [] →
    port.number % 4096 ≠ other.number % 4096

section ColdStart

variable {dp : Dp} {ports : List Port} {port other : Port} {vid : Vid} {mod : FlowMod}
  {flow : FlowId} {popsVlan : Bool}

theorem Port.mem_vlans : vid ∈ port.vlans ↔ port.nativeVlan = some vid ∨ vid ∈ port.taggedVlans := by
  rw [Port.vlans, List.mem_append, Option.mem_toList]

theorem Dp.mem_addPort : mod ∈ dp.addPort port ↔
    (∃ vid ∈ port.taggedVlans, mod = dp.addEgressTableRule port vid false) ∨
      ∃ vid, port.nativeVlan = some vid ∧ mod = dp.addEgressTableRule port vid true := by
  rw [Dp.addPort, List.mem_append, List.mem_map, List.mem_map]
  refine or_congr ?_ ?_
  · exact ⟨fun ⟨vid, member, same⟩ => ⟨vid, member, same.symm⟩,
      fun ⟨vid, member, same⟩ => ⟨vid, member, same.symm⟩⟩
  · constructor
    · rintro ⟨vid, member, same⟩
      exact ⟨vid, Option.mem_toList.mp member, same.symm⟩
    · rintro ⟨vid, member, same⟩
      exact ⟨vid, Option.mem_toList.mpr member, same.symm⟩

theorem Dp.names_addEgressTableRule :
    (dp.addEgressTableRule port vid popsVlan).names flow = true ↔
      flow = dp.egressFlowId port.number vid := by
  obtain ⟨tableId, priority, matchFields⟩ := flow
  rw [FlowMod.names, Bool.and_eq_true, Bool.and_eq_true, beq_iff_eq, beq_iff_eq, beq_iff_eq,
    Dp.egressFlowId, FlowId.mk.injEq]
  constructor
  · rintro ⟨⟨sameTable, samePriority⟩, sameMatch⟩
    exact ⟨(Fin.ext sameTable).symm, samePriority.symm, sameMatch.symm⟩
  · rintro ⟨rfl, rfl, rfl⟩
    exact ⟨⟨rfl, rfl⟩, rfl⟩

theorem Dp.egressFlowId_eq_iff {portNum portNum' vid' : ℕ} :
    dp.egressFlowId portNum vid = dp.egressFlowId portNum' vid' ↔
      vid = vid' ∧ portNum % 4096 = portNum' % 4096 := by
  rw [← egressMatch_eq_iff, Dp.egressFlowId, Dp.egressFlowId, FlowId.mk.injEq]
  exact ⟨fun same => same.2.2, fun same => ⟨rfl, rfl, same⟩⟩

/-- The rules of a port have its number in their lower bits. -/
theorem Dp.of_names_addPort (member : mod ∈ dp.addPort other)
    (named : mod.names (dp.egressFlowId port.number vid) = true) :
    other.number % 4096 = port.number % 4096 ∧ vid ∈ other.vlans ∧
      ∃ popsVlan, mod = dp.addEgressTableRule other vid popsVlan := by
  rcases Dp.mem_addPort.mp member with ⟨vid', tagged, rfl⟩ | ⟨vid', native, rfl⟩
  · obtain ⟨rfl, same⟩ := Dp.egressFlowId_eq_iff.mp (Dp.names_addEgressTableRule.mp named)
    exact ⟨same.symm, Port.mem_vlans.mpr (.inr tagged), _, rfl⟩
  · obtain ⟨rfl, same⟩ := Dp.egressFlowId_eq_iff.mp (Dp.names_addEgressTableRule.mp named)
    exact ⟨same.symm, Port.mem_vlans.mpr (.inl native), _, rfl⟩

theorem Dp.not_names_defaultDrop :
    dp.defaultDrop.names (dp.egressFlowId port.number vid) = false := by
  rw [FlowMod.names, Bool.and_eq_false_iff, Bool.and_eq_false_iff, beq_eq_false_iff_ne,
    beq_eq_false_iff_ne]
  exact .inl (.inr (Nat.ne_of_lt dp.ordered))

theorem Dp.coldStart_tableMessages {batch : List Ofmsg}
    (same : batch.filter (concernsTable dp.egressTable) = (dp.coldStartMods ports).map .flowMod) :
    TableMessages dp.egressTable dp.flowCookie (dp.coldStartMods ports) batch := by
  have shape : ∀ mod ∈ dp.coldStartMods ports,
      mod.tableId = dp.egressTable.val ∧ mod.cookie = dp.flowCookie := by
    intro mod member
    rcases List.mem_cons.mp member with rfl | member
    · exact ⟨rfl, rfl⟩
    · obtain ⟨_, _, added⟩ := List.mem_flatMap.mp member
      rcases Dp.mem_addPort.mp added with ⟨_, _, rfl⟩ | ⟨_, _, rfl⟩ <;> exact ⟨rfl, rfl⟩
  exact ⟨same, fun mod member => (shape mod member).1, fun mod member => (shape mod member).2⟩

theorem Dp.exists_coldStart (dp : Dp) (ports : List Port) : ∃ switch, dp.ColdStart ports switch := by
  have batch : ((dp.coldStartMods ports).map Ofmsg.flowMod).filter (concernsTable dp.egressTable) =
      (dp.coldStartMods ports).map .flowMod := by
    refine List.filter_eq_self.mpr fun ofmsg member => ?_
    obtain ⟨mod, listed, rfl⟩ := List.mem_map.mp member
    have inTable : mod.tableId = dp.egressTable.val := by
      rcases List.mem_cons.mp listed with rfl | listed
      · rfl
      · obtain ⟨_, _, added⟩ := List.mem_flatMap.mp listed
        rcases Dp.mem_addPort.mp added with ⟨_, _, rfl⟩ | ⟨_, _, rfl⟩ <;> rfl
    simp [concernsTable, inTable]
  let emptied : Switch := ⟨fun _ => none, fun _ => none, fun _ => none⟩
  have started : ∃ switch, emptied.deliver ⟨id, fun _ => .refl _⟩ true
      ((dp.coldStartMods ports).map .flowMod) = some switch :=
    (Dp.coldStart_tableMessages batch).oneTable.exists_deliver
  obtain ⟨switch, delivers⟩ := started
  exact ⟨switch, emptied, _, _, _, fun _ => rfl, batch, delivers⟩

variable {switch : Switch} (cold : dp.ColdStart ports switch)
include cold

/-- What is in the egress table drops or is the rule of a port. -/
theorem of_present (inTable : flow.tableId = dp.egressTable) (present : switch.flows flow ≠ none) :
    (flow.priority = dp.lowestPriority ∧ switch.flows flow = some dp.defaultDrop.entry) ∨
      ∃ port ∈ ports, ∃ vid ∈ port.vlans, flow = dp.egressFlowId port.number vid := by
  obtain ⟨emptied, shuffle, useBarriers, batch, noFlows, same, delivers⟩ := cold
  have messages := Dp.coldStart_tableMessages same
  have added : Adds batch flow := by
    by_contra notAdded
    exact present (deliver_gone delivers notAdded (by simp [noFlows]))
  obtain ⟨mod, member, _, named⟩ := (messages.adds_iff inTable).mp added
  rcases List.mem_cons.mp member with rfl | member
  · have shape := named
    rw [FlowMod.names, Bool.and_eq_true, Bool.and_eq_true, beq_iff_eq, beq_iff_eq, beq_iff_eq]
      at shape
    refine .inl ⟨shape.1.2.symm, ?_⟩
    refine messages.oneTable.deliver_only inTable delivers
      ((messages.mem_iff (.inl rfl)).mpr List.mem_cons_self) (by rw [sets, named]; rfl) ?_ rfl
    intro ofmsg sent isSet
    have listed := List.mem_filter.mpr ⟨sent, isSet⟩
    rw [messages.filter_sets inTable] at listed
    obtain ⟨listed, isSet⟩ := List.mem_filter.mp listed
    obtain ⟨other, known, rfl⟩ := List.mem_map.mp listed
    rw [sets, Bool.and_eq_true, FlowMod.names, Bool.and_eq_true, Bool.and_eq_true, beq_iff_eq,
      beq_iff_eq, beq_iff_eq] at isSet
    rcases List.mem_cons.mp known with rfl | known
    · rfl
    · obtain ⟨_, _, added⟩ := List.mem_flatMap.mp known
      have priority := isSet.2.1.2.trans shape.1.2.symm
      rcases Dp.mem_addPort.mp added with ⟨_, _, rfl⟩ | ⟨_, _, rfl⟩ <;>
        exact absurd priority.symm (Nat.ne_of_lt dp.ordered)
  · obtain ⟨port, listed, added⟩ := List.mem_flatMap.mp member
    refine .inr ⟨port, listed, ?_⟩
    rcases Dp.mem_addPort.mp added with ⟨vid, tagged, rfl⟩ | ⟨vid, native, rfl⟩
    · exact ⟨vid, Port.mem_vlans.mpr (.inr tagged), Dp.names_addEgressTableRule.mp named⟩
    · exact ⟨vid, Port.mem_vlans.mpr (.inl native), Dp.names_addEgressTableRule.mp named⟩

/-- The rule of a port for a VLAN is in the egress table, in a VLAN both tagged and
native the one for native. -/
theorem rule_of_coldStart (numbers : (ports.map (·.number)).Nodup)
    (distinct : ∀ port ∈ ports, ∀ other ∈ ports, port ≠ other → port.vlans ≠ [] →
      port.number % 4096 ≠ other.number % 4096)
    (listed : port ∈ ports) (inVlan : vid ∈ port.vlans) :
    switch.flows (dp.egressFlowId port.number vid) =
      some (dp.addEgressTableRule port vid (port.nativeVlan = some vid)).entry := by
  obtain ⟨emptied, shuffle, useBarriers, batch, noFlows, same, delivers⟩ := cold
  have messages := Dp.coldStart_tableMessages same
  have isSet : ∀ popsVlan, sets (dp.egressFlowId port.number vid)
      (.flowMod (dp.addEgressTableRule port vid popsVlan)) = true := by
    intro popsVlan
    rw [sets, Dp.names_addEgressTableRule.mpr rfl]
    rfl
  have isPort : ∀ {other mod}, other ∈ ports → mod ∈ dp.addPort other →
      mod.names (dp.egressFlowId port.number vid) = true → other = port := by
    intro other mod listed' added named
    by_contra different
    exact distinct port listed other listed' (Ne.symm different) (List.ne_nil_of_mem inVlan)
      (Dp.of_names_addPort added named).1.symm
  by_cases native : port.nativeVlan = some vid
  · -- The rule for the native VLAN is the last that the port adds.
    obtain ⟨before, after, split⟩ := List.append_of_mem listed
    have noneAfter : ((after.flatMap dp.addPort).map Ofmsg.flowMod).filter
        (sets (dp.egressFlowId port.number vid)) = [] := by
      refine List.filter_eq_nil_iff.mpr fun ofmsg member isSet => ?_
      obtain ⟨mod, added, rfl⟩ := List.mem_map.mp member
      obtain ⟨other, listed', added⟩ := List.mem_flatMap.mp added
      rw [sets, Bool.and_eq_true] at isSet
      have same := isPort (split ▸ List.mem_append_right _ (List.mem_cons_of_mem _ listed')) added
        isSet.2
      rw [split, List.map_append, List.map_cons] at numbers
      have apart := (List.nodup_cons.mp (List.nodup_append.mp numbers).2.1).1
      exact apart (List.mem_map.mpr ⟨other, listed', by rw [same]⟩)
    have final : ∃ first, (dp.coldStartMods ports).map Ofmsg.flowMod =
        first ++ [.flowMod (dp.addEgressTableRule port vid true)] ++
          (after.flatMap dp.addPort).map .flowMod := by
      refine ⟨(dp.defaultDrop :: before.flatMap dp.addPort ++
        port.taggedVlans.map (dp.addEgressTableRule port · false)).map .flowMod, ?_⟩
      rw [Dp.coldStartMods, split]
      simp [Dp.addPort, native]
    obtain ⟨first, shape⟩ := final
    rw [decide_eq_true native]
    have setters : batch.filter (sets (dp.egressFlowId port.number vid)) =
        first.filter (sets (dp.egressFlowId port.number vid)) ++
          [.flowMod (dp.addEgressTableRule port vid true)] := by
      rw [messages.filter_sets rfl, shape, List.filter_append, List.filter_append, noneAfter,
        List.append_nil, List.filter_singleton, isSet true]
      rfl
    exact messages.oneTable.deliver_added rfl delivers setters (List.cons_ne_nil _ [])
      (fun ofmsg member => List.mem_singleton.mp member) rfl
  · have tagged := (Port.mem_vlans.mp inVlan).resolve_left native
    rw [decide_eq_false native]
    have known : dp.addEgressTableRule port vid false ∈ dp.coldStartMods ports :=
      List.mem_cons_of_mem _ (List.mem_flatMap.mpr
        ⟨port, listed, Dp.mem_addPort.mpr (.inl ⟨vid, tagged, rfl⟩)⟩)
    refine messages.oneTable.deliver_only rfl delivers ((messages.mem_iff (.inl rfl)).mpr known)
      (isSet false) (fun ofmsg member isSet => ?_) rfl
    have sent := List.mem_filter.mpr ⟨member, isSet⟩
    rw [messages.filter_sets rfl] at sent
    obtain ⟨sent, isSet⟩ := List.mem_filter.mp sent
    obtain ⟨mod, known, rfl⟩ := List.mem_map.mp sent
    rw [sets, Bool.and_eq_true] at isSet
    rcases List.mem_cons.mp known with rfl | known
    · rw [Dp.not_names_defaultDrop] at isSet
      cases isSet.2
    · obtain ⟨other, listed', added⟩ := List.mem_flatMap.mp known
      cases isPort listed' added isSet.2
      rcases Dp.mem_addPort.mp added with ⟨vid', _, rfl⟩ | ⟨vid', native', rfl⟩
      · obtain ⟨rfl, _⟩ := Dp.egressFlowId_eq_iff.mp (Dp.names_addEgressTableRule.mp isSet.2)
        rfl
      · obtain ⟨rfl, _⟩ := Dp.egressFlowId_eq_iff.mp (Dp.names_addEgressTableRule.mp isSet.2)
        exact absurd native' native

end ColdStart

/-! ## Frames -/

section Frames

variable {dp : Dp} {port : Port} {vid : Vid}

theorem not_mirrored (known : port ∈ dp.ports) (inVlan : vid ∈ port.vlans) :
    .output port.number ∉ port.mirrorActions := by
  intro mirrored
  obtain ⟨number, listed, ⟨⟩⟩ := List.mem_map.mp mirrored
  rw [dp.mirrors port known port known listed] at inVlan
  cases inVlan

theorem not_mirrorActions {code : ℕ} : .other code ∉ port.mirrorActions := by
  simp [Port.mirrorActions]

theorem filter_mirrorActions : port.mirrorActions.filter (· ∉ port.mirrorActions) = [] := by
  simp

/-- The egress rule outputs the frame to the port, without its tag if it pops that. -/
theorem frameOutputs_egressActions (known : port ∈ dp.ports) (inVlan : vid ∈ port.vlans)
    (inPort : PortNo) (popsVlan : Bool) :
    frameOutputs port inPort (egressActions port popsVlan) =
      (outputTo inPort port.number).toList.map (⟨·, !popsVlan⟩) := by
  have kept := not_mirrored known inVlan
  have otherKept : ∀ code, Act.other code ∉ port.mirrorActions := fun _ => not_mirrorActions
  rw [frameOutputs, egressActions, List.filter_append, List.filter_append, filter_mirrorActions]
  cases popsVlan <;> simp [kept, otherKept, actOutputs, popVlan]

/-- Direct output does the same. -/
theorem frameOutputs_outputPort (known : port ∈ dp.ports) (inVlan : vid ∈ port.vlans)
    (inPort : PortNo) (external : Option Bool) :
    frameOutputs port inPort (outputPort vid port external) =
      (outputTo inPort port.number).toList.map (⟨·, !decide (port.nativeVlan = some vid)⟩) := by
  have kept := not_mirrored known inVlan
  have otherKept : ∀ code, Act.other code ∉ port.mirrorActions := fun _ => not_mirrorActions
  rw [frameOutputs, outputPort]
  split
  next native =>
    rw [List.filter_append, List.filter_cons_of_pos (by simp [popVlan, otherKept]),
      filter_mirrorActions]
    simp [kept, actOutputs, popVlan, native]
  next notNative =>
    rw [List.filter_append, List.filter_append, filter_mirrorActions]
    rcases external with _ | _ | _ <;>
      simp [kept, otherKept, actOutputs, notNative, setExternalForwardingRequested,
        setNoExternalForwardingRequested, popVlan]

end Frames

/-! ## Agreement -/

namespace Dp

variable {dp : Dp} {ports : List Port} {switch next : Switch} {port other : Port} {vid : Vid}

/-- With distinct lower bits the rule of a port is the only one of its frames. -/
theorem delivers_iff (distinct : dp.PortsDistinct) (same : ports.Perm dp.ports)
    (cold : dp.ColdStart ports switch) (known : port ∈ dp.ports) (inVlan : vid ∈ port.vlans)
    (inPort : PortNo) (before : ℕ) (out : Output) :
    dp.Delivers switch port ⟨inPort, vid, writeMetadata before (getEgressMetadata port.number vid)
        egressMetadataMask⟩ out ↔
      out ∈ (outputTo inPort port.number).toList.map
        (⟨·, !decide (port.nativeVlan = some vid)⟩) := by
  have listed := same.mem_iff.mpr known
  have numbers : (ports.map (·.number)).Nodup := (same.map _).nodup_iff.mpr dp.numbers
  have rule := rule_of_coldStart cold numbers (fun first member second member' =>
    distinct first (same.mem_iff.mp member) second (same.mem_iff.mp member')) listed inVlan
  have valid := fun port known vid inVlan => (dp.vidValid port known vid inVlan).2
  -- The flows that accept the frame are the rule of the port and those that drop.
  have isRule : ∀ flow, flow.tableId = dp.egressTable → switch.flows flow ≠ none →
      Packet.accepted ⟨inPort, vid, writeMetadata before (getEgressMetadata port.number vid)
        egressMetadataMask⟩ flow.matchFields = true →
      (flow.priority = dp.lowestPriority ∧ switch.flows flow = some dp.defaultDrop.entry) ∨
        flow = dp.egressFlowId port.number vid := by
    intro flow inTable present accepts
    refine (of_present cold inTable present).imp_right ?_
    rintro ⟨other, listed', vid', inVlan', rfl⟩
    have known' := same.mem_iff.mp listed'
    obtain ⟨rfl, sameBits⟩ := (accepted_iff inPort before (valid port known vid inVlan)
      (valid other known' vid' inVlan')).mp accepts
    exact egressFlowId_eq_iff.mpr ⟨rfl, sameBits.symm⟩
  have accepts := (accepted_iff inPort before
    (valid port known vid inVlan) (valid port known vid inVlan)).mpr
    ⟨rfl, (rfl : port.number % 4096 = port.number % 4096)⟩
  have outputs : entryFrameOutputs port inPort
      (dp.addEgressTableRule port vid (port.nativeVlan = some vid)).entry =
        (outputTo inPort port.number).toList.map (⟨·, !decide (port.nativeVlan = some vid)⟩) := by
    rw [entryFrameOutputs, FlowMod.entry, addEgressTableRule]
    simp [frameOutputs_egressActions known inVlan]
  constructor
  · rintro ⟨flow, entry, inTable, present, accepted, best, sent⟩
    rcases isRule flow inTable (by rw [present]; simp) accepted with ⟨priority, drops⟩ | rfl
    · have least := best (dp.egressFlowId port.number vid) rfl (by rw [rule]; simp) accepts
      rw [priority] at least
      exact absurd least (Nat.not_le_of_lt dp.ordered)
    · rw [rule] at present
      cases present
      rwa [outputs] at sent
  · intro sent
    refine ⟨dp.egressFlowId port.number vid, _, rfl, rule, accepts, ?_, outputs ▸ sent⟩
    intro flow inTable present accepted
    rcases isRule flow inTable present accepted with ⟨priority, _⟩ | rfl
    · rw [priority]
      exact Nat.le_of_lt dp.ordered
    · exact Nat.le_refl _

theorem deletes_tableMessages {batch : List Ofmsg}
    (same : batch.filter (concernsTable dp.egressTable) = [.flowMod (dp.delPort port)]) :
    TableMessages dp.egressTable dp.flowCookie [dp.delPort port] batch where
  batch := same
  inTable mod member := by
    cases List.mem_singleton.mp member
    rfl
  sameCookie mod member := by
    cases List.mem_singleton.mp member
    rfl

/-- A port with the same lower bits loses its rules. -/
theorem gone_of_deletes (deletes : dp.Deletes port switch next)
    (sameBits : port.number % 4096 = other.number % 4096) :
    next.flows (dp.egressFlowId other.number vid) = none := by
  obtain ⟨shuffle, useBarriers, batch, same, delivers⟩ := deletes
  have messages := deletes_tableMessages same
  refine messages.deliver_deletes rfl delivers (fun mod member isAdd => ?_) List.mem_cons_self rfl
    (fun mod member notDel => ?_) (delPort_reaches_iff.mpr sameBits) rfl
  · cases List.mem_singleton.mp member
    cases isAdd
  · cases List.mem_singleton.mp member
    cases notDel

/-- A port whose number differs in the lower bits keeps its rules. -/
theorem kept_of_deletes (deletes : dp.Deletes port switch next)
    (otherBits : port.number % 4096 ≠ other.number % 4096)
    (rule : switch.flows (dp.egressFlowId other.number vid) =
      some (dp.addEgressTableRule other vid (other.nativeVlan = some vid)).entry) :
    next.flows (dp.egressFlowId other.number vid) =
      switch.flows (dp.egressFlowId other.number vid) := by
  obtain ⟨shuffle, useBarriers, batch, same, delivers⟩ := deletes
  have messages := deletes_tableMessages same
  refine deliver_kept delivers (fun ofmsg member => ?_) ?_
  · by_contra isSet
    have sent := List.mem_filter.mpr ⟨member, by simpa using isSet⟩
    rw [messages.filter_sets rfl] at sent
    obtain ⟨sent, isSet⟩ := List.mem_filter.mp sent
    cases List.mem_singleton.mp sent
    cases isSet
  · intro entry present removed
    rw [rule] at present
    cases present
    rcases messages.of_removedLinked rfl removed with ⟨mod, member, removes⟩ | ⟨groupId, _, refers⟩
    · cases List.mem_singleton.mp member
      rw [FlowMod.removes, Bool.and_eq_true, delPort_reaches_iff] at removes
      exact otherBits removes.1
    · have noGroup : ∀ act ∈ egressActions other (other.nativeVlan = some vid),
          act.refersTo groupId = false := by
        intro act member
        rcases List.mem_append.mp member with member | member
        · rcases List.mem_append.mp member with member | member
          · obtain ⟨_, _, rfl⟩ := List.mem_map.mp member
            rfl
          · split at member
            · cases List.mem_singleton.mp member
              rfl
            · cases member
        · cases List.mem_singleton.mp member
          rfl
      rw [FlowEntry.refersTo, FlowMod.entry, addEgressTableRule, List.any_cons, List.any_nil,
        Bool.or_false, Instruction.refersTo, List.any_eq_true] at refers
      obtain ⟨act, member, refers⟩ := refers
      rw [noGroup act member] at refers
      cases refers

theorem exists_deletes (dp : Dp) (port : Port) (switch : Switch) :
    ∃ next, dp.Deletes port switch next := by
  have batch : [Ofmsg.flowMod (dp.delPort port)].filter (concernsTable dp.egressTable) =
      [.flowMod (dp.delPort port)] := by
    simp [concernsTable, delPort]
  have handled : ∃ next, switch.deliver ⟨id, fun _ => .refl _⟩ true
      [.flowMod (dp.delPort port)] = some next := (deletes_tableMessages batch).oneTable.exists_deliver
  obtain ⟨next, delivers⟩ := handled
  exact ⟨next, _, _, _, batch, delivers⟩

end Dp

/-! ## Two ports of one VLAN -/

/-- The ports 1 and 4097 of VLAN 100. -/
def wideDp : Dp where
  ports := [⟨1, some 100, [], []⟩, ⟨4097, some 100, [], []⟩]
  numbers := by decide
  portValid := by decide
  vidValid := by decide
  mirrors := by decide
  egressTable := 3
  floodTable := 4
  flowCookie := 1
  highPriority := 0x4000
  lowestPriority := 0
  ordered := by decide

end Faucet.Egress
