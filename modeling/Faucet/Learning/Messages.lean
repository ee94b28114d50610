import Faucet.Learning.Hosts
import Faucet.OpenFlow.TableMessages

/-!
# The messages of learning

What the messages for a packet do to the flows of a host in the source and destination
tables. Those of the bans and of other hosts leave them alone (`deliver_quiet`); those of
the host itself make its rules for the port, and delete the others or leave them
(`deliver_learned`).
-/

set_option autoImplicit false

namespace Faucet.Learning

open OpenFlow
open Flooding (Vid)

/-! ## The flows of a host -/

/-- A source rule of the host. -/
structure SrcFlow (dp : Dp) (vid : Vid) (mac : Mac) (flow : FlowId) : Prop where
  inTable : flow.tableId = dp.ethSrcTable
  hasVid : vlanVid vid ∈ flow.matchFields.items
  hasMac : ethSrc mac ∈ flow.matchFields.items

/-- A flow of the destination table or of the one for hairpin ports. -/
structure DstFlow (dp : Dp) (vid : Vid) (mac : Mac) (flow : FlowId) : Prop where
  inTable : flow.tableId = dp.ethDstTable ∨ dp.ethDstHairpinTable = some flow.tableId
  hasVid : vlanVid vid ∈ flow.matchFields.items
  hasMac : ethDst mac ∈ flow.matchFields.items

/-- A rule of the host. -/
def HostFlow (dp : Dp) (vid : Vid) (mac : Mac) (flow : FlowId) : Prop :=
  SrcFlow dp vid mac flow ∨ DstFlow dp vid mac flow

/-- The rule lets the packets of the host from the port go on. -/
structure SrcRule (dp : Dp) (port : Port) (flow : FlowId) (rule : FlowEntry) : Prop where
  fromPort : inPort port.number ∈ flow.matchFields.items
  goesOn : rule.instructions = [.gotoTable dp.outputTable]

/-- The rule outputs the packets to the host to the port, or from the port back to it. -/
def DstRule (dp : Dp) (vid : Vid) (port : Port) (flow : FlowId) (rule : FlowEntry) : Prop :=
  (flow.tableId = dp.ethDstTable ∧
      rule.instructions = dp.output port vid false dp.externalForwardingRequested) ∨
    (dp.ethDstHairpinTable = some flow.tableId ∧ inPort port.number ∈ flow.matchFields.items ∧
      rule.instructions = dp.output port vid true none)

/-- The rule of the flow is for the port. -/
structure RuleFor (dp : Dp) (vid : Vid) (mac : Mac) (port : Port) (flow : FlowId)
    (rule : FlowEntry) : Prop where
  src : SrcFlow dp vid mac flow → SrcRule dp port flow rule
  dst : DstFlow dp vid mac flow → DstRule dp vid port flow rule

section Fields

variable {dp : Dp} {vid vid' : Vid} {mac mac' : Mac} {port : Port} {portNum : PortNo}
  {flow : FlowId} {rule : FlowEntry} {field : OxmField} {mod : FlowMod} {pcp : Option ℕ}
  {table : Fin 255}

/-! ## Matches -/

theorem mem_ofFilter : field ∈ (Match.ofFields [ethSrc mac, inPort portNum]).items ↔
    field = ethSrc mac ∨ field = inPort portNum := by
  rw [Match.mem_ofFields (by simp [ethSrc, inPort]), List.mem_pair]

theorem mem_ofSrc : field ∈ (Match.ofFields [vlanVid vid, ethSrc mac]).items ↔
    field = vlanVid vid ∨ field = ethSrc mac := by
  rw [Match.mem_ofFields (by simp [vlanVid, ethSrc]), List.mem_pair]

theorem mem_ofDst : field ∈ (Match.ofFields [vlanVid vid, ethDst mac]).items ↔
    field = vlanVid vid ∨ field = ethDst mac := by
  rw [Match.mem_ofFields (by simp [vlanVid, ethDst]), List.mem_pair]

theorem mem_srcMatch : field ∈ (srcMatch portNum vid mac).items ↔
    field = inPort portNum ∨ field = vlanVid vid ∨ field = ethSrc mac := by
  rw [srcMatch, Match.mem_ofFields (by simp [inPort, vlanVid, ethSrc])]
  simp

theorem mem_hairpinMatch : field ∈ (hairpinMatch portNum vid mac).items ↔
    field = inPort portNum ∨ field = vlanVid vid ∨ field = ethDst mac := by
  rw [hairpinMatch, Match.mem_ofFields (by simp [inPort, vlanVid, ethDst])]
  simp

theorem mem_dstMatch : field ∈ (dstMatch vid mac pcp).items ↔
    field = vlanVid vid ∨ field = ethDst mac ∨ ∃ value ∈ pcp, field = vlanPcp value := by
  cases pcp with
  | none =>
      rw [dstMatch, Match.mem_ofFields (by simp [vlanVid, ethDst])]
      simp
  | some value =>
      rw [dstMatch, Match.mem_ofFields (by simp [vlanVid, ethDst, vlanPcp])]
      simp

/-! ## A match tells the host -/

theorem vlanVid_inj (first : vlanVid vid ∈ flow.matchFields.items)
    (second : vlanVid vid' ∈ flow.matchFields.items) : vid = vid' := by
  have same := Match.eq_of_field first second rfl
  simpa [vlanVid] using same

theorem ethSrc_inj (first : ethSrc mac ∈ flow.matchFields.items)
    (second : ethSrc mac' ∈ flow.matchFields.items) : mac = mac' := by
  have same := Match.eq_of_field first second rfl
  simpa [ethSrc] using same

theorem ethDst_inj (first : ethDst mac ∈ flow.matchFields.items)
    (second : ethDst mac' ∈ flow.matchFields.items) : mac = mac' := by
  have same := Match.eq_of_field first second rfl
  simpa [ethDst] using same

/-- The source and destination tables differ. -/
theorem DstFlow.not_src (isDst : DstFlow dp vid mac flow) : flow.tableId ≠ dp.ethSrcTable := by
  intro inTable
  rcases isDst.inTable with dst | hairpin
  · exact dp.srcApart.1 (inTable.symm.trans dst)
  · exact dp.srcApart.2 (hairpin.trans (congrArg some inTable))

/-- Without the egress pipeline the rule has an action that outputs to the port. -/
theorem DstRule.outputsTo (dstRule : DstRule dp vid port flow rule)
    (inTable : flow.tableId = dp.ethDstTable) (direct : dp.egressTable = none) :
    rule.outputsTo port.number = true := by
  rcases dstRule with ⟨_, instructions⟩ | ⟨hairpin, _⟩
  · rw [FlowEntry.outputsTo, instructions, Dp.output, direct]
    simp [Instruction.outputsTo, outputPort]
  · exact absurd (hairpin.trans (congrArg some inTable)) dp.dstApart

/-! ## What touches a flow -/

/-- The message adds the flow, or is a delete that reaches it. -/
def Touches (mod : FlowMod) (flow : FlowId) : Prop :=
  (mod.command = .add ∧ mod.names flow = true) ∨ mod.reaches flow = true

/-- Learning only adds, and deletes whatever it outputs to, with the cookie of the datapath. -/
structure HostMod (dp : Dp) (mod : FlowMod) : Prop where
  kind : mod.command = .add ∨ mod.command = .delete ∧ mod.outPort = none
  cookie : mod.cookie = dp.flowCookie
  oneTable : mod.tableId ≠ ofpttAll
  exact : ∀ field ∈ mod.matchFields.items, field.mask = none

theorem Touches.sameTable (touches : Touches mod flow) (isHostMod : HostMod dp mod) :
    mod.tableId = flow.tableId := by
  rcases touches with ⟨_, named⟩ | reaches
  · rw [FlowMod.names, Bool.and_eq_true, Bool.and_eq_true, beq_iff_eq] at named
    exact named.1.1
  · rw [FlowMod.reaches, Bool.and_eq_true, Bool.or_eq_true, beq_iff_eq, beq_iff_eq] at reaches
    exact reaches.1.resolve_left isHostMod.oneTable

/-- What a message matches is in the match of a flow that it touches. -/
theorem Touches.mem (touches : Touches mod flow) (isHostMod : HostMod dp mod)
    (member : field ∈ mod.matchFields.items) : field ∈ flow.matchFields.items := by
  rcases touches with ⟨_, named⟩ | reaches
  · rw [FlowMod.names, Bool.and_eq_true, beq_iff_eq] at named
    exact named.2 ▸ member
  · rcases isHostMod.kind with isAdd | ⟨isDel, _⟩
    · simp [FlowMod.reaches, isAdd] at reaches
    · simp only [FlowMod.reaches, isDel, Bool.and_eq_true] at reaches
      exact Match.mem_of_covers (isHostMod.exact field member) reaches.2 member

/-- The message is about the host. -/
structure ForHost (dp : Dp) (vid : Vid) (mac : Mac) (mod : FlowMod) : Prop where
  hasVid : vlanVid vid ∈ mod.matchFields.items
  hasMac : (mod.tableId = dp.ethSrcTable ∧ ethSrc mac ∈ mod.matchFields.items) ∨
    (mod.tableId ≠ dp.ethSrcTable ∧ ethDst mac ∈ mod.matchFields.items)

/-- A message about a host touches no flow of another one. -/
theorem ForHost.same (forHost : ForHost dp vid' mac' mod) (isHostMod : HostMod dp mod)
    (isHost : HostFlow dp vid mac flow) (touches : Touches mod flow) : vid' = vid ∧ mac' = mac := by
  have hasVid := touches.mem isHostMod forHost.hasVid
  have sameTable := touches.sameTable isHostMod
  rcases forHost.hasMac with ⟨inTable, hasMac⟩ | ⟨notInTable, hasMac⟩
  · rcases isHost with isSrc | isDst
    · exact ⟨vlanVid_inj hasVid isSrc.hasVid,
        ethSrc_inj (touches.mem isHostMod hasMac) isSrc.hasMac⟩
    · exact absurd (Fin.ext (sameTable.symm.trans inTable)) isDst.not_src
  · rcases isHost with isSrc | isDst
    · exact absurd (sameTable.trans (congrArg Fin.val isSrc.inTable)) notInTable
    · exact ⟨vlanVid_inj hasVid isDst.hasVid,
        ethDst_inj (touches.mem isHostMod hasMac) isDst.hasMac⟩

end Fields

/-! ## The messages that are made -/

section Made

variable {dp : Dp} {vid : Vid} {mac : Mac} {port : Port} {flow : FlowId}
  {mod : FlowMod} {table : Fin 255} {fields : Match} {pcp : Option ℕ}
  {deleteExisting refreshRules : Bool}

theorem hostMod_flowmod {priority hardTimeout idleTimeout : ℕ} {instructions : List Instruction}
    (exact : ∀ field ∈ fields.items, field.mask = none) :
    HostMod dp (dp.flowmod table fields priority instructions hardTimeout idleTimeout) :=
  ⟨.inl rfl, rfl, Nat.ne_of_lt table.isLt, exact⟩

theorem hostMod_flowdel (exact : ∀ field ∈ fields.items, field.mask = none) :
    HostMod dp (dp.flowdel table fields) :=
  ⟨.inr ⟨rfl, rfl⟩, rfl, Nat.ne_of_lt table.isLt, exact⟩

/-- The message touches no flow of a host. -/
structure Harmless (dp : Dp) (mod : FlowMod) : Prop where
  isHostMod : HostMod dp mod
  apart : ∀ {vid mac flow}, HostFlow dp vid mac flow → ¬ Touches mod flow

/-- A ban has no MAC address. -/
theorem harmless_ban {field : OxmField} (exact : field.mask = none)
    (kind : field.field = 0 ∨ field.field = 6) :
    Harmless dp (dp.tempBanHostLearning (.ofFields [field])) := by
  have items : ∀ other, other ∈ (Match.ofFields [field]).items ↔ other = field := by
    intro other
    rw [Match.mem_ofFields (by simp), List.mem_singleton]
  refine ⟨hostMod_flowmod fun other member => (items other).mp member ▸ exact,
    fun isHost touches => ?_⟩
  rcases touches with ⟨_, named⟩ | reaches
  · rw [FlowMod.names, Bool.and_eq_true, beq_iff_eq] at named
    have sameMatch : Match.ofFields [field] = _ := named.2
    rcases isHost with isSrc | isDst
    · have same := (items _).mp (sameMatch.symm ▸ isSrc.hasMac)
      simp [← same, ethSrc] at kind
    · have same := (items _).mp (sameMatch.symm ▸ isDst.hasMac)
      simp [← same, ethDst] at kind
  · simp [FlowMod.reaches, Dp.tempBanHostLearning, Dp.flowdrop, Dp.flowmod] at reaches

/-- The filter of a host that has moved from a port for good has no VLAN. -/
theorem harmless_filterPackets (mac : Mac) (portNum : PortNo) :
    Harmless dp (dp.filterPackets mac portNum) := by
  refine ⟨hostMod_flowmod fun field member => ?_, fun isHost touches => ?_⟩
  · rcases mem_ofFilter.mp member with rfl | rfl <;> rfl
  · rcases touches with ⟨_, named⟩ | reaches
    · rw [FlowMod.names, Bool.and_eq_true, beq_iff_eq] at named
      have sameMatch : Match.ofFields [ethSrc mac, inPort portNum] = _ := named.2
      have hasVid := isHost.elim (·.hasVid) (·.hasVid)
      rw [← sameMatch, mem_ofFilter] at hasVid
      simp [vlanVid, ethSrc, inPort] at hasVid
    · simp [FlowMod.reaches, Dp.filterPackets, Dp.flowdrop, Dp.flowmod] at reaches

/-- What `learnHostOnVlanPortFlows` is made of. -/
theorem mem_learnHostOnVlanPortFlows :
    mod ∈ dp.learnHostOnVlanPortFlows port vid mac deleteExisting refreshRules ↔
      (deleteExisting = true ∧ mod ∈ dp.deleteHostFromVlan mac vid) ∨
      mod = dp.srcFlowmod port vid mac ∨
      ((refreshRules = false ∨ port.hairpinning = true) ∧
        (mod = dp.dstFlowmod port vid mac
            (if dp.hasExternals then some pcpExtPortFlag else none) ∨
          ((dp.hasExternals = true ∧ port.loopProtectExternal = false) ∧
            mod = dp.dstFlowmod port vid mac (some pcpNonextPortFlag)) ∨
          (port.hairpinning = true ∧ ∃ table, dp.ethDstHairpinTable = some table ∧
            mod = dp.hairpinFlowmod table port vid mac))) := by
  rw [Dp.learnHostOnVlanPortFlows]
  cases deleteExisting <;> cases refreshRules <;> cases hairpins : port.hairpinning <;>
    cases externals : dp.hasExternals <;> cases external : port.loopProtectExternal <;>
    cases hairpinTable : dp.ethDstHairpinTable <;> simp

theorem mem_deleteHostFromVlan : mod ∈ dp.deleteHostFromVlan mac vid ↔
    mod = dp.flowdel dp.ethSrcTable (.ofFields [vlanVid vid, ethSrc mac]) ∨
      ∃ table, (table = dp.ethDstTable ∨ dp.ethDstHairpinTable = some table) ∧
        mod = dp.flowdel table (.ofFields [vlanVid vid, ethDst mac]) := by
  cases hairpinTable : dp.ethDstHairpinTable with
  | none => simp [Dp.deleteHostFromVlan, hairpinTable]
  | some table =>
      simp only [Dp.deleteHostFromVlan, hairpinTable, Option.toList_some, List.map_cons,
        List.map_nil, List.mem_cons, List.not_mem_nil, or_false, Option.some_inj]
      refine or_congr_right ⟨?_, ?_⟩
      · rintro (rfl | rfl)
        · exact ⟨_, .inl rfl, rfl⟩
        · exact ⟨_, .inr rfl, rfl⟩
      · rintro ⟨other, rfl | rfl, rfl⟩
        · exact .inl rfl
        · exact .inr rfl

theorem Dp.val_ne_of_dst (isDst : table = dp.ethDstTable ∨ dp.ethDstHairpinTable = some table) :
    table.val ≠ dp.ethSrcTable.val := by
  intro same
  cases Fin.ext same
  rcases isDst with dst | hairpin
  · exact dp.srcApart.1 dst
  · exact dp.srcApart.2 hairpin

theorem dstFlowmod_spec : HostMod dp (dp.dstFlowmod port vid mac pcp) ∧
    ForHost dp vid mac (dp.dstFlowmod port vid mac pcp) := by
  refine ⟨hostMod_flowmod fun field present => ?_, mem_dstMatch.mpr (.inl rfl),
    .inr ⟨Dp.val_ne_of_dst (.inl rfl), mem_dstMatch.mpr (.inr (.inl rfl))⟩⟩
  rcases mem_dstMatch.mp present with rfl | rfl | ⟨value, _, rfl⟩ <;> rfl

/-- The messages that learn a host are about that host. -/
theorem learn_spec
    (member : mod ∈ dp.learnHostOnVlanPortFlows port vid mac deleteExisting refreshRules) :
    HostMod dp mod ∧ ForHost dp vid mac mod := by
  rcases mem_learnHostOnVlanPortFlows.mp member with
    ⟨_, isDel⟩ | rfl | ⟨_, rfl | ⟨_, rfl⟩ | ⟨_, table, hairpin, rfl⟩⟩
  · rcases mem_deleteHostFromVlan.mp isDel with rfl | ⟨table, isDst, rfl⟩
    · refine ⟨hostMod_flowdel fun field present => ?_, mem_ofSrc.mpr (.inl rfl),
        .inl ⟨rfl, mem_ofSrc.mpr (.inr rfl)⟩⟩
      rcases mem_ofSrc.mp present with rfl | rfl <;> rfl
    · refine ⟨hostMod_flowdel fun field present => ?_, mem_ofDst.mpr (.inl rfl),
        .inr ⟨Dp.val_ne_of_dst isDst, mem_ofDst.mpr (.inr rfl)⟩⟩
      rcases mem_ofDst.mp present with rfl | rfl <;> rfl
  · refine ⟨hostMod_flowmod fun field present => ?_, mem_srcMatch.mpr (.inr (.inl rfl)),
      .inl ⟨rfl, mem_srcMatch.mpr (.inr (.inr rfl))⟩⟩
    rcases mem_srcMatch.mp present with rfl | rfl | rfl <;> rfl
  · exact dstFlowmod_spec
  · exact dstFlowmod_spec
  · refine ⟨hostMod_flowmod fun field present => ?_, mem_hairpinMatch.mpr (.inr (.inl rfl)),
      .inr ⟨Dp.val_ne_of_dst (.inr hairpin), mem_hairpinMatch.mpr (.inr (.inr rfl))⟩⟩
    rcases mem_hairpinMatch.mp present with rfl | rfl | rfl <;> rfl

theorem hostMods_learned : ∀ mod ∈ dp.learnHostOnVlanPortFlows port vid mac deleteExisting
    refreshRules, HostMod dp mod := fun _ member => (learn_spec member).1

/-- What is added for a host has a priority that no delete of it has. -/
theorem priority_of_learned
    (member : mod ∈ dp.learnHostOnVlanPortFlows port vid mac deleteExisting refreshRules)
    (notDel : mod.isFlowdel = false) : mod.priority ≠ 0 := by
  rcases mem_learnHostOnVlanPortFlows.mp member with
    ⟨_, isDel⟩ | rfl | ⟨_, rfl | ⟨_, rfl⟩ | ⟨_, table, hairpin, rfl⟩⟩
  · rcases mem_deleteHostFromVlan.mp isDel with rfl | ⟨table, _, rfl⟩ <;> cases notDel
  · exact (by decide : hostPriority - 1 ≠ 0)
  all_goals exact (by decide : hostPriority ≠ 0)

/-- What is added for a host is for the port that it is learned on. -/
theorem ruleFor_of_names
    (member : mod ∈ dp.learnHostOnVlanPortFlows port vid mac deleteExisting refreshRules)
    (isAdd : mod.command = .add) (named : mod.names flow = true) :
    RuleFor dp vid mac port flow mod.entry := by
  rw [FlowMod.names, Bool.and_eq_true, Bool.and_eq_true, beq_iff_eq, beq_iff_eq, beq_iff_eq] at named
  obtain ⟨⟨inTable, _⟩, sameMatch⟩ := named
  rcases mem_learnHostOnVlanPortFlows.mp member with
    ⟨_, isDel⟩ | rfl | ⟨_, rfl | ⟨_, rfl⟩ | ⟨_, table, hairpin, rfl⟩⟩
  · rcases mem_deleteHostFromVlan.mp isDel with rfl | ⟨table, _, rfl⟩ <;> cases isAdd
  · have inSrc : dp.ethSrcTable = flow.tableId := Fin.ext inTable
    refine ⟨fun _ => ⟨?_, rfl⟩, fun isDst => absurd inSrc.symm isDst.not_src⟩
    rw [← sameMatch]
    exact mem_srcMatch.mpr (.inl rfl)
  · have inDst : dp.ethDstTable = flow.tableId := Fin.ext inTable
    exact ⟨fun isSrc => absurd (isSrc.inTable.symm.trans inDst.symm) dp.srcApart.1,
      fun _ => .inl ⟨inDst.symm, rfl⟩⟩
  · have inDst : dp.ethDstTable = flow.tableId := Fin.ext inTable
    exact ⟨fun isSrc => absurd (isSrc.inTable.symm.trans inDst.symm) dp.srcApart.1,
      fun _ => .inl ⟨inDst.symm, rfl⟩⟩
  · have inHairpin : table = flow.tableId := Fin.ext inTable
    refine ⟨fun isSrc => ?_, fun _ => .inr ⟨inHairpin ▸ hairpin, ?_, rfl⟩⟩
    · exact absurd (hairpin.trans (congrArg some (inHairpin.trans isSrc.inTable))) dp.srcApart.2
    · rw [← sameMatch]
      exact mem_hairpinMatch.mpr (.inl rfl)

/-- When the rules of the host are deleted, one of the deletes is for the flow. -/
theorem exists_delete (isHost : HostFlow dp vid mac flow) :
    ∃ mod ∈ dp.learnHostOnVlanPortFlows port vid mac true refreshRules, mod.isFlowdel = true ∧
      mod.priority = 0 ∧ mod.outPort = none ∧ mod.reaches flow = true := by
  suffices ofHost : ∃ mod ∈ dp.deleteHostFromVlan mac vid, mod.isFlowdel = true ∧
      mod.priority = 0 ∧ mod.outPort = none ∧ mod.reaches flow = true by
    obtain ⟨mod, member, rest⟩ := ofHost
    exact ⟨mod, mem_learnHostOnVlanPortFlows.mpr (.inl ⟨rfl, member⟩), rest⟩
  rcases isHost with isSrc | isDst
  · refine ⟨_, mem_deleteHostFromVlan.mpr (.inl rfl), rfl, rfl, rfl, ?_⟩
    have covers : (Match.ofFields [vlanVid vid, ethSrc mac]).covers flow.matchFields = true := by
      refine Match.covers_iff.mpr fun field present => ⟨field, ?_, ?_⟩
      · rcases mem_ofSrc.mp present with rfl | rfl
        · exact isSrc.hasVid
        · exact isSrc.hasMac
      · rcases mem_ofSrc.mp present with rfl | rfl <;> exact (Match.covers_exact rfl).mpr rfl
    simp [FlowMod.reaches, Dp.flowdel, isSrc.inTable, covers]
  · refine ⟨_, mem_deleteHostFromVlan.mpr (.inr ⟨flow.tableId, ?_, rfl⟩), rfl, rfl, rfl, ?_⟩
    · exact isDst.inTable
    have covers : (Match.ofFields [vlanVid vid, ethDst mac]).covers flow.matchFields = true := by
      refine Match.covers_iff.mpr fun field present => ⟨field, ?_, ?_⟩
      · rcases mem_ofDst.mp present with rfl | rfl
        · exact isDst.hasVid
        · exact isDst.hasMac
      · rcases mem_ofDst.mp present with rfl | rfl <;> exact (Match.covers_exact rfl).mpr rfl
    simp [FlowMod.reaches, Dp.flowdel, covers]

end Made

/-! ## What becomes of the flows of a host -/

section Delivered

variable {dp : Dp} {vid : Vid} {mac : Mac} {port : Port} {flow : FlowId} {table : Fin 255}
  {mods : List FlowMod} {elsewhere : List {ofmsg : Ofmsg // Elsewhere dp ofmsg}}
  {shuffle : Shuffle} {useBarriers deleteExisting refreshRules : Bool} {switch next : Switch}

/-- The flow has no entry that refers to a group. -/
def NoGroup (switch : Switch) (flow : FlowId) : Prop :=
  ∀ entry, switch.flows flow = some entry → ∀ groupId, entry.refersTo groupId = false

theorem HostFlow.inTable (isHost : HostFlow dp vid mac flow) : flow.tableId = dp.ethSrcTable ∨
    flow.tableId = dp.ethDstTable ∨ dp.ethDstHairpinTable = some flow.tableId :=
  isHost.imp (·.inTable) (·.inTable)

theorem tableMessages (hostMods : ∀ mod ∈ mods, HostMod dp mod)
    (isHost : table = dp.ethSrcTable ∨ table = dp.ethDstTable ∨
      dp.ethDstHairpinTable = some table) :
    TableMessages table dp.flowCookie (mods.filter fun mod => mod.tableId = table.val)
      (mods.map .flowMod ++ elsewhere.map Subtype.val) where
  batch := by
    have others : (elsewhere.map Subtype.val).filter (concernsTable table) = [] := by
      rw [List.filter_eq_nil_iff]
      intro ofmsg member concerns
      obtain ⟨other, _, rfl⟩ := List.mem_map.mp member
      cases kind : other.val with
      | flowMod mod =>
          obtain ⟨notAll, notSrc, notDst, notHairpin⟩ := other.property mod kind
          rw [kind, concernsTable, Bool.or_eq_true, beq_iff_eq, beq_iff_eq] at concerns
          have inTable := concerns.resolve_right notAll
          rcases isHost with rfl | rfl | hairpin
          · exact notSrc inTable
          · exact notDst inTable
          · exact notHairpin table hairpin inTable
      | _ => simp [kind, concernsTable] at concerns
    rw [List.filter_append, others, List.append_nil, List.filter_map]
    congr 1
    refine List.filter_congr fun mod member => ?_
    rw [Bool.eq_iff_iff]
    simp [concernsTable, (hostMods mod member).oneTable]
  inTable mod member := of_decide_eq_true (List.mem_filter.mp member).2
  sameCookie mod member := (hostMods mod (List.mem_filter.mp member).1).cookie

theorem exists_deliver (hostMods : ∀ mod ∈ mods, HostMod dp mod) : ∃ next,
    switch.deliver shuffle useBarriers (mods.map .flowMod ++ elsewhere.map Subtype.val) =
      some next :=
  (tableMessages hostMods (.inl rfl)).oneTable.exists_deliver

theorem notModify (hostMods : ∀ mod ∈ mods, HostMod dp mod) :
    ∀ mod ∈ mods.filter fun mod => mod.tableId = table.val, mod.command ≠ .modifyStrict := by
  intro mod member modify
  rcases (hostMods mod (List.mem_filter.mp member).1).kind with isAdd | ⟨isDel, _⟩
  · cases modify.symm.trans isAdd
  · cases modify.symm.trans isDel

/-- **Messages that do not touch a flow of a host** leave it as it is. -/
theorem deliver_quiet (hostMods : ∀ mod ∈ mods, HostMod dp mod)
    (isHost : HostFlow dp vid mac flow) (quiet : ∀ mod ∈ mods, ¬ Touches mod flow)
    (noGroup : NoGroup switch flow)
    (delivers : switch.deliver shuffle useBarriers
      (mods.map .flowMod ++ elsewhere.map Subtype.val) = some next) :
    next.flows flow = switch.flows flow := by
  refine (tableMessages hostMods isHost.inTable).deliver_stays (notModify hostMods) rfl delivers
    (fun mod member isAdd => ?_) (fun mod member => ?_) noGroup
  · rw [← Bool.not_eq_true]
    exact fun named => quiet mod (List.mem_filter.mp member).1 (.inl ⟨isAdd, named⟩)
  · rw [← Bool.not_eq_true]
    exact fun reaches => quiet mod (List.mem_filter.mp member).1 (.inr reaches)

section Learned

variable (isHost : HostFlow dp vid mac flow) (delivers : switch.deliver shuffle useBarriers
  ((dp.learnHostOnVlanPortFlows port vid mac deleteExisting refreshRules).map .flowMod ++
    elsewhere.map Subtype.val) = some next)
include isHost delivers

/-- A flow that is added when the host is learned is for the port. -/
theorem deliver_adds (added : ∃ mod ∈ dp.learnHostOnVlanPortFlows port vid mac deleteExisting
      refreshRules, mod.command = .add ∧ mod.names flow = true) :
    ∃ rule, next.flows flow = some rule ∧ RuleFor dp vid mac port flow rule := by
  obtain ⟨mod, member, isAdd, named, after⟩ :=
    (tableMessages hostMods_learned isHost.inTable).deliver_adds (notModify hostMods_learned) rfl
      delivers (by
        obtain ⟨mod, member, isAdd, named⟩ := added
        have inTable := Touches.sameTable (.inl ⟨isAdd, named⟩) (learn_spec member).1
        exact ⟨mod, List.mem_filter.mpr ⟨member, decide_eq_true inTable⟩, isAdd, named⟩)
  exact ⟨mod.entry, after, ruleFor_of_names (List.mem_filter.mp member).1 isAdd named⟩

/-- **A flow of the host** is for the port after the host has been learned, or it is as
before, or gone when the rules of the host are deleted. -/
theorem deliver_learned (noGroup : NoGroup switch flow) :
    (∃ rule, next.flows flow = some rule ∧ RuleFor dp vid mac port flow rule) ∨
      next.flows flow = if deleteExisting then none else switch.flows flow := by
  by_cases added : ∃ mod ∈ dp.learnHostOnVlanPortFlows port vid mac deleteExisting refreshRules,
      mod.command = .add ∧ mod.names flow = true
  · exact .inl (deliver_adds isHost delivers added)
  have notAdded : ∀ mod ∈ dp.learnHostOnVlanPortFlows port vid mac deleteExisting refreshRules,
      mod.command = .add → mod.names flow = false := by
    intro mod member isAdd
    rw [← Bool.not_eq_true]
    exact fun named => added ⟨mod, member, isAdd, named⟩
  right
  cases delete : deleteExisting with
  | true =>
      subst delete
      obtain ⟨mod, member, isDel, priority, anyPort, reaches⟩ := exists_delete isHost
      have inTable := Touches.sameTable (.inr reaches) (learn_spec member).1
      refine (tableMessages hostMods_learned isHost.inTable).deliver_deletes rfl delivers
        (fun other listed => notAdded other (List.mem_filter.mp listed).1)
        (List.mem_filter.mpr ⟨member, decide_eq_true inTable⟩) isDel
        (fun other listed notDel _ => ?_) reaches anyPort
      rw [priority]
      exact priority_of_learned (List.mem_filter.mp listed).1 notDel
  | false =>
      subst delete
      rw [if_neg Bool.false_ne_true]
      refine deliver_quiet hostMods_learned isHost (fun mod member touches => ?_) noGroup delivers
      rcases touches with ⟨isAdd, named⟩ | reaches
      · cases (notAdded mod member isAdd).symm.trans named
      · rcases mem_learnHostOnVlanPortFlows.mp member with
          ⟨isDel, _⟩ | rfl | ⟨_, rfl | ⟨_, rfl⟩ | ⟨_, table, hairpin, rfl⟩⟩
        · cases isDel
        all_goals
          simp [FlowMod.reaches, Dp.srcFlowmod, Dp.dstFlowmod, Dp.hairpinFlowmod,
            Dp.flowmod] at reaches

omit isHost

/-- The host that is learned has a source rule for the port. -/
theorem deliver_src : ∃ flow rule, SrcFlow dp vid mac flow ∧ next.flows flow = some rule ∧
    SrcRule dp port flow rule := by
  have isSrc : SrcFlow dp vid mac
      ⟨dp.ethSrcTable, hostPriority - 1, srcMatch port.number vid mac⟩ :=
    ⟨rfl, mem_srcMatch.mpr (.inr (.inl rfl)), mem_srcMatch.mpr (.inr (.inr rfl))⟩
  obtain ⟨rule, current, ruleFor⟩ := deliver_adds (.inl isSrc) delivers
    ⟨_, mem_learnHostOnVlanPortFlows.mpr (.inr (.inl rfl)), rfl,
      by simp [FlowMod.names, Dp.srcFlowmod, Dp.flowmod]⟩
  exact ⟨_, rule, isSrc, current, ruleFor.src isSrc⟩

/-- The host has a destination rule, unless its rules are only refreshed. -/
theorem deliver_dst (writes : refreshRules = false ∨ port.hairpinning = true) :
    ∃ flow rule, flow.tableId = dp.ethDstTable ∧ DstFlow dp vid mac flow ∧
      next.flows flow = some rule := by
  have isDst : DstFlow dp vid mac ⟨dp.ethDstTable, hostPriority,
      dstMatch vid mac (if dp.hasExternals then some pcpExtPortFlag else none)⟩ :=
    ⟨.inl rfl, mem_dstMatch.mpr (.inl rfl), mem_dstMatch.mpr (.inr (.inl rfl))⟩
  obtain ⟨rule, current, _⟩ := deliver_adds (.inr isDst) delivers
    ⟨_, mem_learnHostOnVlanPortFlows.mpr (.inr (.inr ⟨writes, .inl rfl⟩)), rfl,
      by simp [FlowMod.names, Dp.dstFlowmod, Dp.flowmod]⟩
  exact ⟨_, rule, rfl, isDst, current⟩

end Learned

end Delivered

end Faucet.Learning
