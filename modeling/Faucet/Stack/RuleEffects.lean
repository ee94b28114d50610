import Faucet.Stack.DecidedRules

/-!
# What a batch leaves of a rule

Of a flow of the flood table the messages leave what is decided about it, and where nothing
is, what was there (`flows_of_floodTable`). In the other tables only filters depend on the
stack, and all the rest is done by messages that do not (`adds_iff_fixed`,
`removedLinked_iff`).

A switch that has groups may lose a rule with its group. No rule but those of whole VLANs
sends to a group (`Plain.of_gets`).
-/

set_option autoImplicit false

namespace Faucet.Stack

open OpenFlow
open Flooding (Vid VlanConf Vlan FloodDst PortRule floodMatch)

namespace Stacked

variable {Dp E : Type} [LinearOrder Dp] [LinearOrder E] {stack : Stacked Dp E} {self : Dp}
  {view : View E} {flow : FlowId} {mod : FlowMod} {conf : VlanConf} {dst : FloodDst} {port : E}

/-! ## Groups -/

section Actions

variable {vlan : Vlan} {groupId : ℕ}

/-- Flood actions are made of those they are given, of flags and of an output. -/
theorem not_group_floodActions {inPort : Option (InPort E)} {externalPorts : Bool}
    {away towards locals : List Act} (notAway : .group groupId ∉ away)
    (notTowards : .group groupId ∉ towards) (notLocal : .group groupId ∉ locals) :
    .group groupId ∉ stack.floodActions self view inPort externalPorts away towards locals := by
  have ofFlag : ∀ code, .group groupId ∉ stack.portFlag self (.other code) := by
    intro code member
    unfold portFlag at member
    split at member
    · cases List.mem_singleton.mp member
    · cases member
  have setExt : .group groupId ∉ stack.portFlag self Flooding.setExternalForwardingRequested :=
    ofFlag _
  have setNonext : .group groupId ∉ stack.portFlag self Flooding.setNoExternalForwardingRequested :=
    ofFlag _
  have prefixFlag : .group groupId ∉ if externalPorts then
      stack.portFlag self Flooding.setNoExternalForwardingRequested
      else stack.portFlag self Flooding.setExternalForwardingRequested := by
    cases externalPorts with
    | true => exact setNonext
    | false => exact setExt
  unfold floodActions
  dsimp only
  split
  next =>
    simp only [List.mem_append, notTowards, notAway, notLocal, or_false]
    split
    · exact prefixFlag
    · exact List.not_mem_nil
  next =>
    split
    next =>
      simp only [List.mem_append, prefixFlag, notAway, notLocal, or_false, false_or]
      split
      · split <;> simp
      · exact List.not_mem_nil
    next =>
      split
      next => simp [prefixFlag, notTowards]
      next =>
        split
        next => split <;> simp [setExt, setNonext, notTowards]
        next =>
          split
          next => exact notTowards
          next =>
            split
            next => split <;> simp [setNonext, notAway, notLocal]
            next => split <;> simp [setExt, setNonext, notTowards]

theorem not_group_buildFloodActsForPort {excludeUnicast excludeAll excludeRestricted : Bool}
    {inPort : InPort E} : .group groupId ∉ stack.buildFloodActsForPort self view vlan excludeUnicast
      inPort excludeAll excludeRestricted := by
  have ofPorts : ∀ ports inPort excludePorts,
      .group groupId ∉ Flooding.floodTaggedPortOutputs ports inPort excludePorts := by
    intro ports inPort excludePorts member
    obtain ⟨_, _, same⟩ := List.mem_map.mp member
    cases same
  intro member
  rw [buildFloodActsForPort] at member
  split at member
  next =>
    dsimp only at member
    split at member
    next => cases member
    next =>
      refine not_group_floodActions (ofPorts _ _ _) (ofPorts _ _ _) ?_
        (OrderedDict.mem_of_mem_values member)
      exact Flooding.not_group_floodPortOutputs
  next => cases member

omit [LinearOrder Dp] in
theorem refersTo_floodEntry {floodActs : List Act} (notGroup : ∀ target, .group target ∉ floodActs) :
    (stack.floodEntry self floodActs).refersTo groupId = false := by
  rw [← Bool.not_eq_true]
  intro refers
  have ofDp : ((stack.node self).toDp.floodEntry floodActs).refersTo groupId = true := refers
  obtain ⟨target, listed, _⟩ := Flooding.group_of_refersTo ofDp
  exact notGroup target listed

/-- The rule of a port sends to no group. -/
theorem refersTo_of_install {other : Flooding.Port} {floodActs : List Act}
    (rule : stack.portRule self view vlan dst other = .install floodActs) :
    (stack.floodEntry self floodActs).refersTo groupId = false := by
  have acts : floodActs = stack.buildFloodActsForPort self view vlan dst.unicast (.vlan other) false
      dst.ethType.isNone := by
    unfold portRule at rule
    dsimp only at rule
    split at rule
    next => cases rule
    next =>
      split at rule
      next => cases rule
      next =>
        cases rule
        rfl
  refine refersTo_floodEntry fun target => ?_
  rw [acts]
  exact not_group_buildFloodActsForPort

end Actions

/-- An add of a flow of these tables sends to no group, unless it is the rule of a VLAN. -/
theorem refersTo_of_adds (member : .flowMod mod ∈ stack.ofmsgs self view)
    (isAdd : mod.command = .add) (named : mod.names flow = true)
    (ofTables : flow.tableId = (stack.node self).floodTable ∨
      flow.tableId ∈ (stack.node self).otherTables)
    (notVlan : ¬ stack.IsVlanFlow self flow) {groupId : ℕ} : mod.entry.refersTo groupId = false := by
  have ofTable : mod.tableId = flow.tableId.val := by
    rw [FlowMod.names, Bool.and_eq_true, Bool.and_eq_true, beq_iff_eq] at named
    exact named.1.1
  rcases flowMod_mem_ofmsgs.mp member with fixed | varies
  · rcases fixed_cases fixed with ⟨_, _, notFlood, others⟩ | ⟨_, _, built⟩
    · rcases ofTables with inTable | other
      · exact absurd (inTable ▸ ofTable) notFlood
      · exact (others _ other ofTable).2 groupId
    · obtain ⟨_, _, _, _, _, rfl⟩ := mem_delHostFlows built
      cases isAdd
  · cases varies with
    | vlanRule ruled plain => exact absurd ⟨_, _, ruled, plain, names_flowmod.mp named⟩ notVlan
    | portRule _ _ built =>
        rcases mem_portRuleMods.mp built with ⟨_, rule, rfl⟩ | ⟨_, rfl⟩
        · exact refersTo_of_install rule
        · cases isAdd
    | filter _ _ built =>
        rcases mem_floodRulesFilters built with ⟨_, isFilter, rfl⟩ | rfl
        · rcases isFilter with rfl | rfl
          · rfl
          · rfl
        · cases isAdd
    | stackRule _ _ built =>
        obtain ⟨_, _, _, acts, rfl⟩ := mem_floodRulesFloodActs built
        refine refersTo_floodEntry fun target => ?_
        rcases acts with rfl | ⟨_, rfl⟩
        · exact List.not_mem_nil
        · exact not_group_buildFloodActsForPort

/-- No flow of these tables sends to a group, but for the rules of whole VLANs. -/
def Plain (stack : Stacked Dp E) (self : Dp) (switch : Switch) : Prop :=
  ∀ flow,
    (flow.tableId = (stack.node self).floodTable ∨ flow.tableId ∈ (stack.node self).otherTables) →
    ¬ stack.IsVlanFlow self flow → Groupless (switch.flows flow)

/-- **The messages keep it so.** -/
theorem Plain.of_gets {switch next : Switch} (plain : Plain stack self switch)
    (gets : switch.Gets (stack.ofmsgs self view) next) : Plain stack self next := by
  intro flow ofTables notVlan entry present groupId
  have batch : AddsAndDeletes flow.tableId (stack.node self).flowCookie (stack.ofmsgs self view) :=
    addsAndDeletes ofTables
  by_cases adds : Adds (stack.ofmsgs self view) flow
  · obtain ⟨mod, member, isAdd, named, always⟩ := batch.flows_of_adds rfl adds
    cases (always switch next gets).symm.trans present
    exact refersTo_of_adds member isAdd named ofTables notVlan
  · obtain ⟨_, _, flows⟩ := batch.flows_of_not_adds rfl adds gets
    rw [flows] at present
    exact plain flow ofTables notVlan entry (Option.filter_eq_some_iff.mp present).1 groupId

/-! ## The rules of ports -/

section Step

variable {switch next : Switch}

/-- **The rule of a port becomes what is decided about it**, or stays; so does any other flow
of the flood table that is not always sent. -/
theorem flows_of_floodTable (inTable : flow.tableId = (stack.node self).floodTable)
    (notVlan : ¬ stack.IsVlanFlow self flow) (notStack : ¬ stack.IsStackFlow self flow)
    (plain : Groupless (switch.flows flow)) (gets : switch.Gets (stack.ofmsgs self view) next) :
    next.flows flow = (stack.decision self view flow).getD (switch.flows flow) := by
  have batch : AddsAndDeletes (stack.node self).floodTable (stack.node self).flowCookie
      (stack.ofmsgs self view) := addsAndDeletes (.inl rfl)
  by_cases adds : Adds (stack.ofmsgs self view) flow
  · obtain ⟨mod, member, isAdd, named, always⟩ := batch.flows_of_adds inTable adds
    obtain ⟨conf, dst, other, floodActs, ruled, inVlan, rule, rfl, entry⟩ :=
      install_of_names inTable notVlan notStack member isAdd named
    rw [decision_of_install ruled inVlan rule, always switch next gets, entry]
    rfl
  · have free : ∀ conf dst other floodActs, stack.Ruled self conf dst →
        other ∈ (stack.vlanOf self conf).allPorts dst.unicast →
        stack.portRule self view (stack.vlanOf self conf) dst other = .install floodActs →
        flow ≠ stack.floodFlow self conf.vid (some other.number) dst := by
      rintro conf dst other floodActs ruled inVlan rule rfl
      have built := mem_portRuleMods.mpr (.inl ⟨floodActs, rule, rfl⟩)
      exact adds ⟨_, flowMod_mem_ofmsgs.mpr (.inr (.portRule ruled inVlan built)), rfl,
        names_flowmod.mpr rfl⟩
    rw [decision_of_not_install free]
    by_cases removed : (stack.portRules self view).any (stack.removes self flow) = true
    · obtain ⟨conf, dst, other, ruled, inVlan, rule, covers⟩ := (any_removes inTable).mp removed
      have gone := batch.flows_of_deletes adds (deletes_of_remove ruled inVlan rule inTable covers)
        gets
      rw [if_pos removed, gone]
      rfl
    · obtain ⟨gone, isGone, flows⟩ := batch.flows_of_not_adds inTable adds gets
      have stays : ∀ entry, switch.flows flow = some entry → gone entry = false := by
        intro entry present
        rw [← Bool.not_eq_true, isGone]
        rintro ⟨ofmsg, member, _, _, removes⟩
        cases ofmsg with
        | flowMod mod =>
            rw [removesLinked, FlowMod.removes, Bool.and_eq_true] at removes
            exact removed ((any_removes inTable).mpr
              (remove_of_reaches inTable member removes.1))
        | groupMod mod =>
            cases mod with
            | add => cases removes
            | delete groupId => cases (plain entry present groupId).symm.trans removes
        | _ => cases removes
      have same : next.flows flow = switch.flows flow := by
        rw [flows]
        cases present : switch.flows flow with
        | none => rfl
        | some entry => simp [stays entry present]
      rw [if_neg removed, same]
      rfl

/-! ## The other tables -/

omit [LinearOrder Dp] in
theorem vlanVid_mem_filterMatch {vid : Vid} :
    Learning.vlanVid vid ∈ (stack.filterMatch vid dst port).items := by
  have kinds : (([Learning.inPort (stack.number port), Learning.vlanVid vid] ++
      dst.ethDst.toList.map fun (address, mask) => (⟨3, address, some mask⟩ : OxmField)).map
        OxmField.field).Nodup := by
    obtain ⟨unicast, ethType, ethDst⟩ := dst
    cases ethDst <;> simp [Learning.inPort, Learning.vlanVid]
  rw [filterMatch, Match.mem_ofFields kinds]
  simp

/-- Beside the fixed messages there are only filters of their own flows in other tables. -/
theorem filter_of_varies (varies : Varies stack self view mod)
    (other : mod.tableId ≠ (stack.node self).floodTable.val) :
    ∃ conf dst port, stack.Ruled self conf dst ∧ port ∈ stack.stackPorts self ∧
      mod.matchFields = stack.filterMatch conf.vid dst port ∧
      ((mod.command = .add ∧ ∀ flow, mod.names flow = true ↔
        flow = stack.filterFlow self conf.vid dst port) ∨
      ∀ flow, mod.reaches flow = true ↔ flow = stack.filterFlow self conf.vid dst port) := by
  cases varies with
  | vlanRule => exact absurd rfl other
  | portRule _ _ built =>
      rcases mem_portRuleMods.mp built with ⟨_, _, rfl⟩ | ⟨_, rfl⟩
      · exact absurd rfl other
      · exact absurd rfl other
  | filter ruled listed built =>
      rcases mem_floodRulesFilters built with ⟨_, _, rfl⟩ | rfl
      · exact ⟨_, _, _, ruled, listed, rfl, .inl ⟨rfl, fun _ => names_flowmod⟩⟩
      · refine ⟨_, _, _, ruled, listed, rfl, .inr fun flow => ?_⟩
        obtain ⟨tableId, priority, matchFields⟩ := flow
        rw [reaches_flowdel, if_pos rfl, filterFlow, FlowId.mk.injEq]
        exact and_congr_right fun _ => and_congr eq_comm eq_comm
  | stackRule _ _ built =>
      obtain ⟨_, _, _, _, rfl⟩ := mem_floodRulesFloodActs built
      exact absurd rfl other

section OtherTables

variable (ofTables : flow.tableId ∈ (stack.node self).otherTables)
  (notFilter : ¬ stack.IsFilterFlow self flow)
include ofTables notFilter

theorem fixed_of_concerns (member : .flowMod mod ∈ stack.ofmsgs self view)
    (concerns : mod.command = .add ∧ mod.names flow = true ∨ mod.reaches flow = true) :
    .flowMod mod ∈ stack.fixedOfmsgs self := by
  refine (flowMod_mem_ofmsgs.mp member).resolve_right fun varies => ?_
  have batch : AddsAndDeletes (stack.node self).floodTable (stack.node self).flowCookie
      (stack.ofmsgs self view) := addsAndDeletes (.inl rfl)
  have inTable : mod.tableId = flow.tableId.val := by
    rcases concerns with ⟨_, named⟩ | reaches
    · rw [FlowMod.names, Bool.and_eq_true, Bool.and_eq_true, beq_iff_eq] at named
      exact named.1.1
    · rw [FlowMod.reaches, Bool.and_eq_true, Bool.or_eq_true, beq_iff_eq, beq_iff_eq] at reaches
      exact reaches.1.resolve_left (batch.oneTable mod member)
  have other : mod.tableId ≠ (stack.node self).floodTable.val := by
    intro same
    exact stack.floodApart self (Fin.ext (inTable.symm.trans same) ▸ ofTables)
  obtain ⟨conf, dst, port, ruled, listed, _, ⟨isAdd, named_iff⟩ | reaches_iff⟩ :=
    filter_of_varies varies other
  · rcases concerns with ⟨_, named⟩ | reaches
    · exact notFilter ⟨conf, dst, ruled, port, listed, (named_iff flow).mp named⟩
    · have isDel := FlowMod.isFlowdel_of_reaches reaches
      rw [FlowMod.isFlowdel, isAdd] at isDel
      cases isDel
  · rcases concerns with ⟨isAdd, _⟩ | reaches
    · have own : mod.reaches (stack.filterFlow self conf.vid dst port) = true :=
        (reaches_iff _).mpr rfl
      have isDel := FlowMod.isFlowdel_of_reaches own
      rw [FlowMod.isFlowdel, isAdd] at isDel
      cases isDel
    · exact notFilter ⟨conf, dst, ruled, port, listed, (reaches_iff flow).mp reaches⟩

theorem adds_iff_fixed :
    Adds (stack.ofmsgs self view) flow ↔ Adds (stack.fixedOfmsgs self) flow := by
  constructor
  · rintro ⟨mod, member, isAdd, named⟩
    exact ⟨mod, fixed_of_concerns ofTables notFilter member (.inl ⟨isAdd, named⟩), isAdd, named⟩
  · rintro ⟨mod, member, isAdd, named⟩
    exact ⟨mod, flowMod_mem_ofmsgs.mpr (.inl member), isAdd, named⟩

omit ofTables notFilter in
/-- An add stands for a delete of the flows of a stack port only if it is fixed. -/
theorem readded_iff_fixed (built : mod ∈ stack.delHostFlows self port) :
    Readded (stack.ofmsgs self view) (.flowMod mod) ↔
      Readded (stack.fixedOfmsgs self) (.flowMod mod) := by
  constructor
  · rintro ⟨other, member, kind, sameKey⟩
    obtain ⟨other, rfl, _⟩ := flowMod_of_flowaddmod kind
    refine ⟨.flowMod other, (flowMod_mem_ofmsgs.mp member).resolve_right fun varies => ?_, kind,
      sameKey⟩
    obtain ⟨sameMatch, _, _, sameTable⟩ := FlowmodKey.mk.inj (Option.some.inj sameKey)
    obtain ⟨table, listed, fields, outPort, isFields, rfl⟩ := mem_delHostFlows built
    have apart : other.tableId ≠ (stack.node self).floodTable.val := by
      intro same
      refine stack.floodApart self ?_
      rw [← Fin.ext (a := table) (sameTable.symm.trans same)]
      exact List.mem_cons_of_mem _ (List.mem_cons_of_mem _ listed)
    obtain ⟨conf, dst, port', _, _, isMatch, _⟩ := filter_of_varies varies apart
    have vlan : Learning.vlanVid conf.vid ∈ fields.items := by
      have same : fields = stack.filterMatch conf.vid dst port' := sameMatch.symm.trans isMatch
      rw [same]
      exact vlanVid_mem_filterMatch
    rcases isFields with rfl | rfl
    · cases vlan
    · cases List.mem_singleton.mp vlan
  · rintro ⟨other, member, kind, sameKey⟩
    obtain ⟨other, rfl, _⟩ := flowMod_of_flowaddmod kind
    exact ⟨_, flowMod_mem_ofmsgs.mpr (.inl member), kind, sameKey⟩

/-- What removes a flow does not depend on the stack. -/
theorem removedLinked_iff {entry : FlowEntry} (plain : ∀ groupId, entry.refersTo groupId = false) :
    RemovedLinked (stack.ofmsgs self view) flow entry ↔
      ∃ port ∈ stack.stackPorts self, ∃ mod ∈ stack.delHostFlows self port,
        mod.removes flow entry = true ∧ ¬ Readded (stack.fixedOfmsgs self) (.flowMod mod) := by
  have batch : AddsAndDeletes (stack.node self).floodTable (stack.node self).flowCookie
      (stack.ofmsgs self view) := addsAndDeletes (.inl rfl)
  constructor
  · rintro ⟨ofmsg, member, _, kept, removes⟩
    cases ofmsg with
    | flowMod mod =>
        have reaches : mod.reaches flow = true := by
          rw [removesLinked, FlowMod.removes, Bool.and_eq_true] at removes
          exact removes.1
        have isDel := FlowMod.isFlowdel_of_reaches reaches
        rcases fixed_cases (fixed_of_concerns ofTables notFilter member (.inr reaches)) with
          ⟨isAdd, _⟩ | ⟨port, listed, built⟩
        · rw [FlowMod.isFlowdel, isAdd] at isDel
          cases isDel
        · rw [batch.dropped_iff_readded member isDel, readded_iff_fixed built] at kept
          exact ⟨port, listed, mod, built, removes, kept⟩
    | groupMod mod =>
        cases mod with
        | add => cases removes
        | delete groupId => cases (plain groupId).symm.trans removes
    | _ => cases removes
  · rintro ⟨port, listed, mod, built, removes, kept⟩
    have member : .flowMod mod ∈ stack.ofmsgs self view := by
      refine flowMod_mem_ofmsgs.mpr (.inl (List.mem_append_right _ ?_))
      exact List.mem_map.mpr ⟨mod, List.mem_flatMap.mpr ⟨port, listed, built⟩, rfl⟩
    have isDel : mod.isFlowdel = true := by
      obtain ⟨_, _, _, _, _, rfl⟩ := mem_delHostFlows built
      rfl
    refine ⟨.flowMod mod, member, ?_, ?_, removes⟩
    · rcases msgKind_flowMod mod with ⟨_, kind | kind⟩ | ⟨notDel, _⟩
      · simp [isDelete, kind]
      · simp [isDelete, kind]
      · cases notDel.symm.trans isDel
    · rw [batch.dropped_iff_readded member isDel, readded_iff_fixed built]
      exact kept

end OtherTables

end Step

end Stacked

end Faucet.Stack
