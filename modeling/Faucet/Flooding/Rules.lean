import Faucet.Flooding.Ports

/-!
# The flood rules of a VLAN

For each kind of destination a VLAN has a rule for all its ports and rules for those
of its ports whose packets are flooded elsewhere. The rule for all ports outputs by
itself or sends to a group; with combinatorial flooding every port has a rule instead.

A rule is identified by the VLAN, the input port if it is for one, and the kind of
destination (`flowId`), and these can be read off its match (`flowId_inj`).
-/

set_option autoImplicit false

namespace Faucet.Flooding

open OpenFlow

/-! ## Destinations -/

/-- A row of `FLOOD_DSTS`: whether it stands for unicast, the Ethernet type, and the
destination with its mask. -/
structure FloodDst where
  unicast : Bool
  ethType : Option ℕ
  ethDst : Option (ℕ × ℕ)
deriving DecidableEq, Repr

/-- `mac_byte_mask` -/
def macByteMask (maskBytes : ℕ) : ℕ := 2 ^ 48 - 2 ^ (48 - 8 * maskBytes)

/-- `FLOOD_DSTS` -/
def floodDsts : List FloodDst :=
  [⟨true, none, none⟩,
    ⟨false, none, some (0x0180c2000000, macByteMask 3)⟩,
    ⟨false, none, some (0x01005e000000, macByteMask 3)⟩,
    ⟨false, none, some (0x333300000000, macByteMask 2)⟩,
    ⟨false, none, some (0xffffffffffff, macByteMask 6)⟩]

/-- `RESTRICTED_FLOOD_DISTS` -/
def restrictedFloodDists : List FloodDst :=
  [⟨false, some 0x0806, some (0xffffffffffff, macByteMask 6)⟩,
    ⟨false, some 0x86dd, some (0x3333ff000000, macByteMask 3)⟩,
    ⟨false, some 0x86dd, some (0x333300000002, macByteMask 6)⟩,
    ⟨false, some 0x86dd, some (0x333300000001, macByteMask 6)⟩]

/-- The destinations, with those that are restricted. -/
def allFloodDsts : List FloodDst := floodDsts ++ restrictedFloodDists

/-- The number of leading ones of a mask, 0 for other masks. -/
def macMaskBits (mask : ℕ) : ℕ :=
  ((List.range 49).find? fun bits => mask = 2 ^ 48 - 2 ^ (48 - bits)).getD 0

/-- `_MATCH_PRIORITY` -/
def matchPriority : ℕ := 0x2000

/-- `_mask_flood_priority` -/
def maskFloodPriority (mask : Option ℕ) : ℕ := matchPriority + (mask.map macMaskBits).getD 0

namespace FloodDst

variable (dst : FloodDst)

/-- `_vlan_flood_priority` -/
def vlanFloodPriority : ℕ := maskFloodPriority (dst.ethDst.map Prod.snd) + dst.ethType.getD 0

/-- The fields of the match that are about the destination. -/
def fields : List OxmField :=
  (dst.ethDst.toList.map fun (address, mask) => ⟨3, address, some mask⟩) ++
    dst.ethType.toList.map fun ethType => ⟨5, ethType, none⟩

end FloodDst

/-! ## The datapath -/

/-- `VLAN_GROUP_OFFSET` -/
def vlanGroupOffset : ℕ := 4096

/-- The configuration of a standalone datapath, as far as flooding is concerned. -/
structure Dp where
  vlans : List VlanConf
  vids : (vlans.map (·.vid)).Nodup
  vidValid : ∀ conf ∈ vlans, 1 ≤ conf.vid ∧ conf.vid < vlanGroupOffset
  floodTable : Fin 255
  flowCookie : ℕ
  lowestPriority : ℕ
  useGroupTable : Bool
  combinatorialPortFlood : Bool
  exclusive : ¬ (combinatorialPortFlood = true ∧ useGroupTable = true)
  restrictedBcastArpnd : Bool

/-! ## Rules -/

/-- What is done about the rule of a port for a destination. -/
inductive PortRule where
  | install (floodActs : List Act)
  | remove
  | skip
deriving DecidableEq

/-- The instructions that are left of `apply_actions`. -/
def floodInst (floodActs : List Act) : List Instruction :=
  let actions := floodActs.rdropWhile fun act => match act with
    | .output _ | .group _ => false
    | .other _ => true
  if actions.isEmpty then [] else [.applyActions actions]

/-- The fields of the match of a flood rule. -/
def floodFields (vid : Vid) (inPort : Option PortNo) (dst : FloodDst) : List OxmField :=
  inPort.toList.map (fun port => ⟨0, port, none⟩) ++ ⟨6, vid + 0x1000, none⟩ :: dst.fields

/-- The match of a flood rule. -/
def floodMatch (vid : Vid) (inPort : Option PortNo) (dst : FloodDst) : Match :=
  .ofFields (floodFields vid inPort dst)

/-- A rule for one port comes before the rule of the VLAN. -/
def floodPriority (inPort : Option PortNo) (dst : FloodDst) : ℕ :=
  dst.vlanFloodPriority + if inPort.isSome then 1 else 0

namespace Dp

variable (dp : Dp)

/-- The flow of a flood rule. -/
def flowId (vid : Vid) (inPort : Option PortNo) (dst : FloodDst) : FlowId where
  tableId := dp.floodTable
  priority := floodPriority inPort dst
  matchFields := floodMatch vid inPort dst

/-- `_build_flood_rule` with the match and the priority of a VLAN or of a port. -/
def buildFloodRule (command : FlowCommand) (vid : Vid) (inPort : Option PortNo) (dst : FloodDst)
    (floodActs : List Act) : FlowMod where
  command := command
  tableId := dp.floodTable
  priority := floodPriority inPort dst
  cookie := dp.flowCookie
  outPort := some 0
  matchFields := floodMatch vid inPort dst
  instructions := floodInst floodActs
  hardTimeout := 0
  idleTimeout := 0
  flags := 0

/-- `flowdel` of the rule of a port; the priority of such a delete does not count. -/
def floodRuleDel (vid : Vid) (port : PortNo) (dst : FloodDst) : FlowMod where
  command := .delete
  tableId := dp.floodTable
  priority := floodPriority (some port) dst
  cookie := dp.flowCookie
  outPort := none
  matchFields := floodMatch vid (some port) dst
  instructions := []
  hardTimeout := 0
  idleTimeout := 0
  flags := 0

/-- `FLOOD_DSTS` of the datapath. -/
def floodDsts : List FloodDst :=
  if dp.restrictedBcastArpnd then allFloodDsts else Flooding.floodDsts

/-- The destinations that a VLAN has rules for. -/
def vlanFloodDsts (conf : VlanConf) : List FloodDst :=
  dp.floodDsts.filter fun dst => !(dst.unicast && !conf.unicastFlood)

/-- What the loop over the ports does about one of them. -/
def portRule (vlan : Vlan) (dst : FloodDst) (port : Port) : PortRule :=
  let floodActs := vlan.buildFloodActsForPort dst.unicast port dst.ethType.isNone
  let vlanActs := vlan.buildFloodActsForVlan dst.unicast
  if floodActs = [] then .skip
  else if !dp.combinatorialPortFlood && outputPorts vlanActs \ {port.number} = outputPorts floodActs
      && nonOutputActs vlanActs = nonOutputActs floodActs then .remove
  else .install floodActs

/-- The messages for the rule of one port. -/
def portRuleMods (vlan : Vlan) (dst : FloodDst) (command : FlowCommand) (coldStart : Bool)
    (port : Port) : List FlowMod :=
  match dp.portRule vlan dst port with
  | .install floodActs =>
      [dp.buildFloodRule command vlan.vid (some port.number) dst floodActs]
  | .remove => if coldStart then [] else [dp.floodRuleDel vlan.vid port.number dst]
  | .skip => []

/-- `_build_mask_flood_rules` -/
def buildMaskFloodRules (vlan : Vlan) (dst : FloodDst) (command : FlowCommand)
    (coldStart : Bool) : List FlowMod :=
  (if dp.combinatorialPortFlood || dp.useGroupTable then []
    else [dp.buildFloodRule command vlan.vid none dst (vlan.buildFloodActsForVlan dst.unicast)]) ++
    (vlan.allPorts dst.unicast).flatMap (dp.portRuleMods vlan dst command coldStart)

/-- `_build_multiout_flood_rules` -/
def buildMultioutFloodRules (vlan : Vlan) (command : FlowCommand) (coldStart : Bool) :
    List FlowMod :=
  (dp.vlanFloodDsts vlan.toVlanConf).flatMap fun dst =>
    dp.buildMaskFloodRules vlan dst command coldStart

end Dp

/-! ## Groups -/

/-- A bucket for each output, with the other actions before it. -/
def buildGroupFloodBuckets : List Act → List Act → List Bucket
  | _, [] => []
  | nonOutputs, act :: rest =>
      if isOutput act then
        ⟨0, 0xffffffff, 0xffffffff, nonOutputs ++ [act]⟩ :: buildGroupFloodBuckets nonOutputs rest
      else buildGroupFloodBuckets (nonOutputs ++ [act]) rest

namespace Vlan

variable (vlan : Vlan)

/-- A group of its own for unicast is configured only when its ports differ. -/
def unicastGroupDiffers : Bool :=
  outputPorts (dedupedActs (vlan.buildFloodActsForVlan true)) ≠
    outputPorts (dedupedActs (vlan.buildFloodActsForVlan false))

/-- The group that a rule refers to. -/
def floodGroupId (unicast : Bool) : ℕ :=
  if unicast && vlan.unicastGroupDiffers then vlan.vid + vlanGroupOffset else vlan.vid

/-- The actions of that group. -/
def floodGroupActs (unicast : Bool) : List Act :=
  if unicast && vlan.unicastGroupDiffers then dedupedActs (vlan.buildFloodActsForVlan true)
  else vlan.buildFloodActsForVlan false

/-- The group of type `OFPGT_ALL`. -/
def floodGroup (unicast : Bool) : Group where
  type := 0
  buckets := buildGroupFloodBuckets [] (vlan.floodGroupActs unicast)

/-- `groupadd` for the groups of both kinds of destinations. -/
def floodGroupMods : List (EntryMod Group) :=
  [false, true].flatMap fun unicast =>
    [.delete (vlan.floodGroupId unicast),
      .add (vlan.floodGroupId unicast) (vlan.floodGroup unicast)]

end Vlan

namespace Dp

variable (dp : Dp)

/-- The rules of `_build_group_flood_rules`. -/
def groupFloodRules (vlan : Vlan) (command : FlowCommand) : List FlowMod :=
  (dp.vlanFloodDsts vlan.toVlanConf).map fun dst =>
    dp.buildFloodRule command vlan.vid none dst [.group (vlan.floodGroupId dst.unicast)]

/-- `_build_group_flood_rules` -/
def buildGroupFloodRules (vlan : Vlan) (command : FlowCommand) : List Ofmsg :=
  vlan.floodGroupMods.map .groupMod ++ (dp.groupFloodRules vlan command).map .flowMod

/-- `_build_flood_rules` -/
def buildFloodRules (vlan : Vlan) (command : FlowCommand) (coldStart : Bool) : List Ofmsg :=
  (dp.buildMultioutFloodRules vlan command coldStart).map .flowMod ++
    if dp.useGroupTable then dp.buildGroupFloodRules vlan command else []

/-- What `add_vlan` sends about flooding. -/
def addVlan (vlan : Vlan) (coldStart : Bool) : List Ofmsg :=
  if vlan.reservedInternalVlan then [] else dp.buildFloodRules vlan .add coldStart

/-- `update_vlan` -/
def updateVlan (vlan : Vlan) : List Ofmsg := dp.buildFloodRules vlan .modifyStrict false

end Dp

/-! ## Reading a rule off its match -/

theorem fields_inj : ∀ dst ∈ allFloodDsts, ∀ dst' ∈ allFloodDsts,
    (∀ field, field ∈ dst.fields ↔ field ∈ dst'.fields) → dst = dst' := by
  have byList : ∀ dst ∈ allFloodDsts, ∀ dst' ∈ allFloodDsts,
      dst.fields ⊆ dst'.fields ∧ dst'.fields ⊆ dst.fields → dst = dst' := by decide
  intro dst member dst' member' same
  exact byList dst member dst' member'
    ⟨fun field => (same field).mp, fun field => (same field).mpr⟩

theorem kind_of_mem_fields {dst : FloodDst} {field : OxmField} (member : field ∈ dst.fields) :
    field.field = 3 ∨ field.field = 5 := by
  rcases List.mem_append.mp member with ethDst | ethType
  · obtain ⟨_, _, rfl⟩ := List.mem_map.mp ethDst
    exact .inl rfl
  · obtain ⟨_, _, rfl⟩ := List.mem_map.mp ethType
    exact .inr rfl

variable {vid vid' : Vid} {inPort inPort' : Option PortNo} {dst dst' : FloodDst} {field : OxmField}

theorem mem_floodFields : field ∈ floodFields vid inPort dst ↔
    (∃ port, inPort = some port ∧ field = ⟨0, port, none⟩) ∨ field = ⟨6, vid + 0x1000, none⟩ ∨
      field ∈ dst.fields := by
  cases inPort <;> simp [floodFields]

theorem nodup_floodFields : ((floodFields vid inPort dst).map (·.field)).Nodup := by
  obtain ⟨unicast, ethType, ethDst⟩ := dst
  cases inPort <;> cases ethType <;> cases ethDst <;> simp [floodFields, FloodDst.fields]

theorem mem_floodMatch : field ∈ (floodMatch vid inPort dst).items ↔
    (∃ port, inPort = some port ∧ field = ⟨0, port, none⟩) ∨ field = ⟨6, vid + 0x1000, none⟩ ∨
      field ∈ dst.fields := by
  rw [floodMatch, Match.mem_ofFields nodup_floodFields, mem_floodFields]

theorem vlan_mem_floodMatch : ⟨6, vid + 0x1000, none⟩ ∈ (floodMatch vid inPort dst).items :=
  mem_floodMatch.mpr (.inr (.inl rfl))

theorem inPort_mem_floodMatch {port : PortNo} :
    ⟨0, port, none⟩ ∈ (floodMatch vid inPort dst).items ↔ inPort = some port := by
  rw [mem_floodMatch]
  constructor
  · rintro (⟨other, same, equal⟩ | equal | present)
    · cases equal
      exact same
    · cases equal
    · rcases kind_of_mem_fields present with kind | kind <;> cases kind
  · exact fun same => .inl ⟨port, same, rfl⟩

theorem vid_of_mem_floodMatch (present : ⟨6, vid' + 0x1000, none⟩ ∈ (floodMatch vid inPort dst).items) :
    vid' = vid := by
  have same := Match.eq_of_field present vlan_mem_floodMatch rfl
  simpa using same

theorem dst_mem_floodMatch (kind : field.field = 3 ∨ field.field = 5) :
    field ∈ (floodMatch vid inPort dst).items ↔ field ∈ dst.fields := by
  rw [mem_floodMatch]
  constructor
  · rintro (⟨_, _, rfl⟩ | rfl | present)
    · rcases kind with kind | kind <;> cases kind
    · rcases kind with kind | kind <;> cases kind
    · exact present
  · exact fun present => .inr (.inr present)

/-- **A match says which rule it is of.** -/
theorem floodMatch_inj (known : dst ∈ allFloodDsts) (known' : dst' ∈ allFloodDsts)
    (same : floodMatch vid inPort dst = floodMatch vid' inPort' dst') :
    vid = vid' ∧ inPort = inPort' ∧ dst = dst' := by
  refine ⟨vid_of_mem_floodMatch (same ▸ vlan_mem_floodMatch), ?_, ?_⟩
  · refine Option.ext fun port => ?_
    have first : ⟨0, port, none⟩ ∈ (floodMatch vid inPort dst).items ↔ inPort = some port :=
      inPort_mem_floodMatch
    rw [same, inPort_mem_floodMatch] at first
    exact first.symm
  · refine fields_inj dst known dst' known' fun field => ?_
    constructor
    · intro present
      have kind := kind_of_mem_fields present
      exact (dst_mem_floodMatch kind).mp (same ▸ (dst_mem_floodMatch kind).mpr present)
    · intro present
      have kind := kind_of_mem_fields present
      exact (dst_mem_floodMatch kind).mp (same ▸ (dst_mem_floodMatch kind).mpr present)

/-- A match for one port covers only matches for the same port and VLAN. -/
theorem of_floodMatch_covers {port : PortNo}
    (covers : (floodMatch vid (some port) dst).covers (floodMatch vid' inPort' dst') = true) :
    vid = vid' ∧ inPort' = some port := by
  constructor
  · exact vid_of_mem_floodMatch (Match.mem_of_covers rfl covers vlan_mem_floodMatch)
  · exact inPort_mem_floodMatch.mp
      (Match.mem_of_covers rfl covers (inPort_mem_floodMatch.mpr rfl))

namespace Dp

variable {dp : Dp} {vlan : Vlan} {port : Port} {command : FlowCommand} {coldStart : Bool}
  {floodActs : List Act} {mod : FlowMod}

theorem mem_allFloodDsts {conf : VlanConf} (member : dst ∈ dp.vlanFloodDsts conf) :
    dst ∈ allFloodDsts := by
  have listed := (List.mem_filter.mp member).1
  rw [floodDsts] at listed
  split at listed
  · exact listed
  · exact List.mem_append_left _ listed

theorem flowId_inj (known : dst ∈ allFloodDsts) (known' : dst' ∈ allFloodDsts)
    (same : dp.flowId vid inPort dst = dp.flowId vid' inPort' dst') :
    vid = vid' ∧ inPort = inPort' ∧ dst = dst' :=
  floodMatch_inj known known' (congrArg FlowId.matchFields same)

/-- A rule that is added or modified is named by its message. -/
theorem names_buildFloodRule {flow : FlowId} :
    (dp.buildFloodRule command vid inPort dst floodActs).names flow = true ↔
      flow = dp.flowId vid inPort dst := by
  obtain ⟨tableId, priority, matchFields⟩ := flow
  simp only [FlowMod.names, buildFloodRule, Bool.and_eq_true, beq_iff_eq, flowId, FlowId.mk.injEq,
    Fin.ext_iff, and_assoc]
  exact and_congr eq_comm (and_congr eq_comm eq_comm)

end Dp

/-! ## The rules that are wanted -/

namespace Dp

variable (dp : Dp)

/-- The actions of the rule for the whole VLAN, if there is one. -/
def vlanActs (vlan : Vlan) (dst : FloodDst) : Option (List Act) :=
  if dp.combinatorialPortFlood then none
  else if dp.useGroupTable then some [.group (vlan.floodGroupId dst.unicast)]
  else some (vlan.buildFloodActsForVlan dst.unicast)

/-- The actions of the rule of the VLAN or of a port, if it is to be installed. -/
def ruleActs (vlan : Vlan) (dst : FloodDst) : Option Port → Option (List Act)
  | none => dp.vlanActs vlan dst
  | some port =>
      if port ∈ vlan.allPorts dst.unicast then
        match dp.portRule vlan dst port with
        | .install floodActs => some floodActs
        | _ => none
      else none

/-- The flow of a flood rule as it is installed. -/
def floodEntry (floodActs : List Act) : FlowEntry where
  cookie := dp.flowCookie
  instructions := floodInst floodActs
  hardTimeout := 0
  idleTimeout := 0
  flags := 0

variable {dp} {vlan : Vlan} {port : Port} {command : FlowCommand} {coldStart : Bool}
  {floodActs : List Act} {mod : FlowMod}

theorem entry_buildFloodRule :
    (dp.buildFloodRule command vid inPort dst floodActs).entry = dp.floodEntry floodActs := rfl

theorem ruleActs_port_iff : dp.ruleActs vlan dst (some port) = some floodActs ↔
    port ∈ vlan.allPorts dst.unicast ∧ dp.portRule vlan dst port = .install floodActs := by
  rw [ruleActs]
  split
  next member =>
    cases rule : dp.portRule vlan dst port <;> simp [member]
  next absent => simp [absent]

theorem exists_mem_portRuleMods : (∃ port ∈ vlan.allPorts dst.unicast,
      mod ∈ dp.portRuleMods vlan dst command coldStart port) ↔
    (∃ port floodActs, dp.ruleActs vlan dst (some port) = some floodActs ∧
      mod = dp.buildFloodRule command vlan.vid (some port.number) dst floodActs) ∨
    coldStart = false ∧ ∃ port ∈ vlan.allPorts dst.unicast,
      dp.portRule vlan dst port = .remove ∧ mod = dp.floodRuleDel vlan.vid port.number dst := by
  constructor
  · rintro ⟨port, member, built⟩
    rw [portRuleMods] at built
    cases rule : dp.portRule vlan dst port with
    | install floodActs =>
        rw [rule] at built
        exact .inl ⟨port, floodActs, ruleActs_port_iff.mpr ⟨member, rule⟩,
          List.mem_singleton.mp built⟩
    | remove =>
        rw [rule] at built
        cases coldStart with
        | true => cases built
        | false => exact .inr ⟨rfl, port, member, rule, List.mem_singleton.mp built⟩
    | skip =>
        rw [rule] at built
        cases built
  · rintro (⟨port, floodActs, wanted, rfl⟩ | ⟨rfl, port, member, rule, rfl⟩)
    · obtain ⟨member, rule⟩ := ruleActs_port_iff.mp wanted
      exact ⟨port, member, by simp [portRuleMods, rule]⟩
    · exact ⟨port, member, by simp [portRuleMods, rule]⟩

/-- The rule of the VLAN is built with the others, or with its group. -/
theorem mem_vlanRule :
    (mod ∈ (if dp.combinatorialPortFlood || dp.useGroupTable then []
        else [dp.buildFloodRule command vlan.vid none dst
          (vlan.buildFloodActsForVlan dst.unicast)]) ∨
      dp.useGroupTable = true ∧ mod = dp.buildFloodRule command vlan.vid none dst
        [.group (vlan.floodGroupId dst.unicast)]) ↔
    ∃ floodActs, dp.ruleActs vlan dst none = some floodActs ∧
      mod = dp.buildFloodRule command vlan.vid none dst floodActs := by
  have exclusive := dp.exclusive
  cases group : dp.useGroupTable <;> cases combinatorial : dp.combinatorialPortFlood <;>
    simp_all [ruleActs, vlanActs]

theorem mem_buildMultioutFloodRules : mod ∈ dp.buildMultioutFloodRules vlan command coldStart ↔
    ∃ dst ∈ dp.vlanFloodDsts vlan.toVlanConf,
      mod ∈ (if dp.combinatorialPortFlood || dp.useGroupTable then []
        else [dp.buildFloodRule command vlan.vid none dst
          (vlan.buildFloodActsForVlan dst.unicast)]) ∨
      ∃ port ∈ vlan.allPorts dst.unicast,
        mod ∈ dp.portRuleMods vlan dst command coldStart port := by
  simp only [buildMultioutFloodRules, buildMaskFloodRules, List.mem_flatMap, List.mem_append]

theorem mem_groupRules : .flowMod mod ∈ (if dp.useGroupTable then dp.buildGroupFloodRules vlan command
      else []) ↔
    ∃ dst ∈ dp.vlanFloodDsts vlan.toVlanConf, dp.useGroupTable = true ∧
      mod = dp.buildFloodRule command vlan.vid none dst
        [.group (vlan.floodGroupId dst.unicast)] := by
  split
  next group => simp [buildGroupFloodRules, groupFloodRules, group, eq_comm]
  next group => simp [group]

/-- **The messages about flows**: the rules that are wanted, and deletes of rules. -/
theorem mem_buildFloodRules : .flowMod mod ∈ dp.buildFloodRules vlan command coldStart ↔
    ∃ dst ∈ dp.vlanFloodDsts vlan.toVlanConf,
      (∃ inPort floodActs, dp.ruleActs vlan dst inPort = some floodActs ∧
        mod = dp.buildFloodRule command vlan.vid (inPort.map (·.number)) dst floodActs) ∨
      coldStart = false ∧ ∃ port ∈ vlan.allPorts dst.unicast,
        dp.portRule vlan dst port = .remove ∧ mod = dp.floodRuleDel vlan.vid port.number dst := by
  have inMap : .flowMod mod ∈ (dp.buildMultioutFloodRules vlan command coldStart).map Ofmsg.flowMod ↔
      mod ∈ dp.buildMultioutFloodRules vlan command coldStart := by simp
  rw [buildFloodRules, List.mem_append, inMap, mem_buildMultioutFloodRules, mem_groupRules,
    ← exists_or]
  refine exists_congr fun dst => ?_
  rw [← and_or_left]
  refine and_congr_right fun listed => ?_
  rw [or_right_comm, mem_vlanRule, exists_mem_portRuleMods, ← or_assoc]
  refine or_congr_left ?_
  constructor
  · rintro (wanted | ⟨port, wanted⟩)
    · exact ⟨none, wanted⟩
    · exact ⟨some port, wanted⟩
  · rintro ⟨inPort, wanted⟩
    cases inPort with
    | none => exact .inl wanted
    | some port => exact .inr ⟨port, wanted⟩

end Dp

end Faucet.Flooding
