import Faucet.Acl.Placements
import Faucet.OpenFlow.GroupReferences

/-!
# Batches of rules

Rules with their priorities are built one after the other, each with a delete before its add
or without, and sent to a switch (`deliver_batch`). Of the adds of one flow the last entry of the
dict by their cookies is what remains (`counts`); a flow without an add stays, unless a
delete that is sent takes it along, or goes with the group of a failover (`Takes`).
-/

set_option autoImplicit false

namespace Faucet.Acl

open OpenFlow FirstMatch

/-- A rule at its priority, and the rules of the tunnels that it is built with. -/
structure Slot where
  priority : ℤ
  rule : RuleConf
  tunnelRules : TunnelRules

/-- Where rules are applied. -/
structure Site where
  table : AclTable
  context : Context

/-- Of several adds of a flow, the last entry of the dict by the cookies. -/
def counts (mods : List FlowMod) (flow : FlowId) : Option FlowEntry :=
  (OrderedDict.values FlowMod.cookie (mods.filter (·.names flow))).getLast?.map FlowMod.entry

namespace Site

variable (site : Site)

/-- The context of a slot: that of the site, with the rules of its tunnels. -/
def contextOf (slot : Slot) : Context := { site.context with tunnelRules := slot.tunnelRules }

/-- The ACL entry of the slot. -/
def entry (slot : Slot) : Option AclEntry := buildAclEntry slot.rule (site.contextOf slot)

/-- The match of a rule. -/
def matchOf (slot : Slot) : Match := matchFromDict (slot.rule.matchDict site.context)

/-- The flow of a rule. -/
def mod (slot : Slot) : Option FlowMod := do
  let entry ← site.entry slot
  site.table.flowmod entry.matchFields slot.priority entry.inst entry.cookie

/-- The entry of the flow of a rule. -/
def flowEntry (slot : Slot) : Option FlowEntry := (site.mod slot).map FlowMod.entry

/-- What is built of a rule. -/
def build (flowdel : Bool) (slot : Slot) : Option (List Ofmsg) :=
  buildRuleOfmsgs site.table (site.contextOf slot) slot.priority false flowdel slot.priority slot.rule

/-- The messages of the slots. -/
def batch (flowdel : Bool) (slots : List Slot) : Option (List Ofmsg) :=
  collect (slots.map (site.build flowdel))

/-- The flows of the site: those of the table that are about the port, if there is one. -/
def Holds (flow : FlowId) : Prop :=
  flow.tableId = site.table.tableId ∧
    ∀ port ∈ site.context.portNum, ⟨inPort, port, none⟩ ∈ flow.matchFields.items

/-- What the adds of the rules make of a flow. -/
def final (slots : List Slot) (flow : FlowId) : Option FlowEntry :=
  counts (slots.filterMap site.mod) flow

/-- Of the rules with a match, the last one of the dict by the cookies. -/
def lastRule (slots : List Slot) (fields : Match) : Option Slot :=
  (OrderedDict.values (fun slot => slot.rule.cookie.getD site.table.flowCookie)
    (slots.filter (site.matchOf · = fields))).getLast?

/-- A rule with the cookie of the table and the key of this one. -/
def Stands (slots : List Slot) (slot : Slot) : Prop :=
  ∃ other ∈ slots, other.priority = slot.priority ∧ site.matchOf other = site.matchOf slot ∧
    other.rule.cookie.getD site.table.flowCookie = site.table.flowCookie

/-- The deletes of the rules remove the flow: that of a rule that covers it, when no rule
stands for the delete, or that of a group which the flow refers to. -/
def Takes (slots : List Slot) (flow : FlowId) (entry : FlowEntry) : Prop :=
  (∃ slot ∈ slots, (site.matchOf slot).covers flow.matchFields = true ∧ ¬ site.Stands slots slot) ∨
    ∃ slot ∈ slots, ∃ built ∈ site.entry slot, ∃ groupId,
      .groupMod (.delete groupId) ∈ built.ofmsgs ∧ entry.refersTo groupId = true

end Site

/-! ## One rule -/

section Rule

variable {site : Site} {slot : Slot} {flowdel : Bool} {own : List Ofmsg} {entry : AclEntry}
  {mod : FlowMod}

theorem Site.mod_iff : site.mod slot = some mod ↔ ∃ entry, site.entry slot = some entry ∧
    site.table.flowmod entry.matchFields slot.priority entry.inst entry.cookie = some mod :=
  Option.bind_eq_some_iff

theorem Site.matchFields_of_entry (builds : site.entry slot = some entry) :
    entry.matchFields = site.matchOf slot := by
  obtain ⟨_, _, rfl⟩ := Option.map_eq_some_iff.mp builds
  rfl

theorem Site.cookie_of_entry (builds : site.entry slot = some entry) :
    entry.cookie = slot.rule.cookie := by
  obtain ⟨_, _, rfl⟩ := Option.map_eq_some_iff.mp builds
  rfl

/-- What is known of the flow of a rule. -/
theorem Site.mod_spec (built : site.mod slot = some mod) :
    mod.command = .add ∧ mod.tableId = site.table.tableId.val ∧
      (mod.priority : ℤ) = slot.priority ∧ mod.matchFields = site.matchOf slot ∧
      mod.cookie = slot.rule.cookie.getD site.table.flowCookie := by
  obtain ⟨entry, builds, flow⟩ := site.mod_iff.mp built
  obtain ⟨trimmed, _, _, _, low, _, rfl⟩ := AclTable.flowmod_iff.mp flow
  exact ⟨rfl, rfl, Int.toNat_of_nonneg low, Site.matchFields_of_entry builds,
    by rw [← Site.cookie_of_entry builds]⟩

/-- The flow that a rule has does not depend on its tunnels. -/
theorem Site.names_congr {slot' : Slot} {mod' : FlowMod} (flow : FlowId)
    (adds : site.mod slot = some mod) (adds' : site.mod slot' = some mod')
    (samePriority : slot.priority = slot'.priority) (sameRule : slot.rule = slot'.rule) :
    mod.names flow = mod'.names flow := by
  obtain ⟨_, table, priority, fields, _⟩ := site.mod_spec adds
  obtain ⟨_, table', priority', fields', _⟩ := site.mod_spec adds'
  have equal : mod.priority = mod'.priority := by omega
  rw [FlowMod.names, FlowMod.names, table, table', equal, fields, fields', matchOf, matchOf, sameRule]

/-- The flow of a rule. -/
theorem Site.exists_flow (adds : site.mod slot = some mod) :
    ∃ flow : FlowId, mod.names flow = true := by
  refine ⟨⟨site.table.tableId, mod.priority, mod.matchFields⟩, ?_⟩
  simp [FlowMod.names, (site.mod_spec adds).2.1]

/-- The delete of a rule. -/
def Site.deletion (site : Site) (slot : Slot) : FlowMod where
  command := .delete
  tableId := site.table.tableId
  priority := slot.priority.toNat
  cookie := site.table.flowCookie
  outPort := none
  matchFields := site.matchOf slot
  instructions := []
  hardTimeout := 0
  idleTimeout := 0
  flags := if site.table.notifyFlowRemoved then ofpffSendFlowRem else 0

/-- What may be added may be deleted. -/
theorem Site.flowdel_eq {inst : List Inst} {cookie : Option ℕ}
    (adds : site.table.flowmod (site.matchOf slot) slot.priority inst cookie = some mod) :
    site.table.flowdel (site.matchOf slot) slot.priority = some (site.deletion slot) := by
  obtain ⟨_, _, verified, _, low, high, _⟩ := AclTable.flowmod_iff.mp adds
  rw [AclTable.verifies, Bool.and_eq_true] at verified
  unfold AclTable.flowdel
  rw [if_pos]
  · rfl
  · rw [Bool.and_eq_true, Bool.and_eq_true, decide_eq_true_eq, decide_eq_true_eq]
    refine ⟨⟨List.all_eq_true.mpr fun field member => ?_, low⟩, high⟩
    obtain ⟨type, listed, same⟩ := List.any_eq_true.mp (List.all_eq_true.mp verified.1 field member)
    rw [Bool.and_eq_true] at same
    exact List.any_eq_true.mpr ⟨type, listed, same.1⟩

/-- **What is built of a rule**: messages about groups, its delete if one is wanted, and its
flow. -/
theorem Site.build_iff : site.build flowdel slot = some own ↔
    ∃ entry mod, site.entry slot = some entry ∧ site.mod slot = some mod ∧
      own = entry.ofmsgs ++
        ((if flowdel then [site.deletion slot] else []) ++ [mod]).map .flowMod := by
  have deletes : ∀ {entry mod}, site.entry slot = some entry →
      site.table.flowmod entry.matchFields slot.priority entry.inst entry.cookie = some mod →
      site.table.deleteBefore flowdel entry.matchFields slot.priority =
        some (if flowdel then [site.deletion slot] else []) := by
    intro entry mod builds adds
    rw [Site.matchFields_of_entry builds] at adds ⊢
    rw [AclTable.deleteBefore, Site.flowdel_eq adds]
    cases flowdel <;> rfl
  rw [build, buildRuleOfmsgs, ← entry]
  constructor
  · intro built
    obtain ⟨entry, builds, built⟩ := Option.bind_eq_some_iff.mp built
    obtain ⟨mod, adds, built⟩ := Option.bind_eq_some_iff.mp built
    obtain ⟨dels, deletes', built⟩ := Option.bind_eq_some_iff.mp built
    cases built
    cases Option.some.inj (deletes'.symm.trans (deletes builds adds))
    exact ⟨entry, mod, builds, site.mod_iff.mpr ⟨entry, builds, adds⟩, rfl⟩
  · rintro ⟨entry, mod, builds, built, rfl⟩
    obtain ⟨entry', builds', adds⟩ := site.mod_iff.mp built
    cases Option.some.inj (builds.symm.trans builds')
    refine Option.bind_eq_some_iff.mpr ⟨entry, builds, ?_⟩
    refine Option.bind_eq_some_iff.mpr ⟨mod, adds, ?_⟩
    exact Option.bind_eq_some_iff.mpr ⟨_, deletes builds adds, rfl⟩

theorem Site.exists_build (built : site.mod slot = some mod) :
    ∃ own, site.build flowdel slot = some own := by
  obtain ⟨entry, builds, _⟩ := site.mod_iff.mp built
  exact ⟨_, site.build_iff.mpr ⟨entry, mod, builds, built, rfl⟩⟩

/-- The table has the flow, at the port. -/
theorem Site.holds_of_names (noVlan : site.context.vid = none) {flow : FlowId}
    (built : site.mod slot = some mod) (named : mod.names flow = true) : site.Holds flow := by
  obtain ⟨_, inTable, _, fields, _⟩ := site.mod_spec built
  rw [FlowMod.names, Bool.and_eq_true, Bool.and_eq_true, beq_iff_eq, beq_iff_eq, beq_iff_eq] at named
  obtain ⟨⟨sameTable, _⟩, sameFields⟩ := named
  refine ⟨Fin.ext (sameTable.symm.trans inTable), fun port isPort => ?_⟩
  rw [← sameFields, fields, Site.matchOf, RuleConf.matchDict, noVlan, Option.mem_def.mp isPort]
  rw [vlanDict, matchFromDict_portDict slot.rule.keys]
  exact Match.mem_set_self

end Rule

/-! ## Several rules -/

section Batch

variable {site : Site} {slots : List Slot} {flowdel : Bool} {input : List Ofmsg} {ofmsg : Ofmsg}
  {mod : FlowMod} {flow : FlowId}

theorem Site.mem_batch (built : site.batch flowdel slots = some input) :
    ofmsg ∈ input ↔ ∃ slot ∈ slots, ∃ own, site.build flowdel slot = some own ∧ ofmsg ∈ own := by
  obtain ⟨within, from_⟩ := collect_spec built
  constructor
  · intro member
    obtain ⟨own, listed, member⟩ := from_ ofmsg member
    obtain ⟨slot, present, builds⟩ := List.mem_map.mp listed
    exact ⟨slot, present, own, builds, member⟩
  · rintro ⟨slot, present, own, builds, member⟩
    obtain ⟨own', builds', subset⟩ := within _ (List.mem_map.mpr ⟨slot, present, rfl⟩)
    cases builds.symm.trans builds'
    exact subset member

/-- Every rule of a batch that is built has its flow. -/
theorem Site.exists_mod (built : site.batch flowdel slots = some input) {slot : Slot}
    (member : slot ∈ slots) : ∃ mod, site.mod slot = some mod := by
  obtain ⟨own, builds, _⟩ := (collect_spec built).1 _ (List.mem_map.mpr ⟨slot, member, rfl⟩)
  obtain ⟨_, mod, _, adds, _⟩ := site.build_iff.mp builds
  exact ⟨mod, adds⟩

theorem Site.exists_batch (mods : ∀ slot ∈ slots, ∃ mod, site.mod slot = some mod) :
    ∃ input, site.batch flowdel slots = some input := by
  refine exists_collect fun part member => ?_
  obtain ⟨slot, present, rfl⟩ := List.mem_map.mp member
  obtain ⟨mod, adds⟩ := mods slot present
  exact Site.exists_build adds

theorem Site.flowMod_mem_batch (built : site.batch flowdel slots = some input) :
    .flowMod mod ∈ input ↔
      (∃ slot ∈ slots, site.mod slot = some mod) ∨
        flowdel = true ∧ ∃ slot ∈ slots, mod = site.deletion slot := by
  rw [Site.mem_batch built]
  constructor
  · rintro ⟨slot, present, own, builds, member⟩
    obtain ⟨entry, mod', builds', adds, rfl⟩ := site.build_iff.mp builds
    rcases List.mem_append.mp member with group | member
    · obtain ⟨_, same⟩ := onlyGroups_entry builds' _ group
      cases same
    · obtain ⟨other, listed, same⟩ := List.mem_map.mp member
      cases same
      rcases List.mem_append.mp listed with deletes | isAdd
      · cases flowdel with
        | false => cases deletes
        | true => exact .inr ⟨rfl, slot, present, List.mem_singleton.mp deletes⟩
      · exact .inl ⟨slot, present, List.mem_singleton.mp isAdd ▸ adds⟩
  · rintro (⟨slot, present, adds⟩ | ⟨rfl, slot, present, rfl⟩)
    · obtain ⟨entry, builds, _⟩ := site.mod_iff.mp adds
      exact ⟨slot, present, _, site.build_iff.mpr ⟨entry, mod, builds, adds, rfl⟩, by simp⟩
    · obtain ⟨mod, adds⟩ := Site.exists_mod built present
      obtain ⟨entry, builds, _⟩ := site.mod_iff.mp adds
      exact ⟨slot, present, _, site.build_iff.mpr ⟨entry, mod, builds, adds, rfl⟩, by simp⟩

theorem Site.groupMod_mem_batch (built : site.batch flowdel slots = some input)
    {mod : EntryMod Group} :
    .groupMod mod ∈ input ↔
      ∃ slot ∈ slots, ∃ built ∈ site.entry slot, .groupMod mod ∈ built.ofmsgs := by
  rw [Site.mem_batch built]
  constructor
  · rintro ⟨slot, present, own, builds, member⟩
    obtain ⟨entry, _, builds', _, rfl⟩ := site.build_iff.mp builds
    rcases List.mem_append.mp member with group | member
    · exact ⟨slot, present, entry, builds', group⟩
    · obtain ⟨_, _, same⟩ := List.mem_map.mp member
      cases same
  · rintro ⟨slot, present, entry, builds, group⟩
    obtain ⟨mod', adds⟩ := Site.exists_mod built present
    exact ⟨slot, present, _, site.build_iff.mpr ⟨entry, mod', builds, adds, rfl⟩,
      List.mem_append_left _ group⟩

/-- All messages are about flows of the table or about groups. -/
theorem Site.byTable (built : site.batch flowdel slots = some input) :
    ByTable site.table.tableId input := by
  have inTable : ∀ mod, .flowMod mod ∈ input →
      mod.tableId = site.table.tableId.val ∧ mod.command ≠ .modifyStrict := by
    intro mod member
    rcases (Site.flowMod_mem_batch built).mp member with ⟨_, _, adds⟩ | ⟨_, _, _, rfl⟩
    · obtain ⟨isAdd, sameTable, _⟩ := site.mod_spec adds
      exact ⟨sameTable, by simp [isAdd]⟩
    · exact ⟨rfl, by simp [Site.deletion]⟩
  refine ⟨fun mod member => ?_, fun mod member _ => (inTable mod member).2⟩
  rw [(inTable mod member).1]
  exact Nat.ne_of_lt site.table.tableId.isLt

/-- The adds of a flow. -/
theorem Site.filter_sets (built : site.batch flowdel slots = some input) :
    input.filter (sets flow) =
      ((slots.filterMap site.mod).filter (·.names flow)).map .flowMod := by
  induction slots generalizing input with
  | nil =>
      cases built
      rfl
  | cons slot rest ih =>
      obtain ⟨own, builds, built⟩ := Option.bind_eq_some_iff.mp built
      obtain ⟨later, laterBuilt, built⟩ := Option.bind_eq_some_iff.mp built
      cases built
      obtain ⟨entry, mod, builds', adds, rfl⟩ := site.build_iff.mp builds
      have groups : entry.ofmsgs.filter (sets flow) = [] := by
        refine List.filter_eq_nil_iff.mpr fun ofmsg member isSet => ?_
        obtain ⟨_, rfl⟩ := onlyGroups_entry builds' ofmsg member
        cases isSet
      have notDelete : mod.isFlowdel = false := by
        rw [FlowMod.isFlowdel, (site.mod_spec adds).1]
      have isDelete : (site.deletion slot).isFlowdel = true := rfl
      rw [List.filter_append, ih laterBuilt, List.filter_append, groups, List.nil_append,
        List.filterMap_cons_some adds, List.filter_cons]
      cases flowdel <;> cases named : mod.names flow <;>
        simp [sets, notDelete, isDelete, named]

end Batch

/-! ## What a batch does to a switch -/

section Deliver

variable {site : Site} {slots : List Slot} {flowdel : Bool} {input : List Ofmsg} {flow : FlowId}
  {shuffle : Shuffle} {useBarriers : Bool} {switch next : Switch} {entry : FlowEntry}

theorem Site.exists_deliver (built : site.batch flowdel slots = some input) :
    ∃ next, switch.deliver shuffle useBarriers input = some next := by
  obtain ⟨deletes, returned⟩ := (Site.byTable built).exists_deletes
  rw [Switch.deliver, valveFlowreorder, returned]
  exact ⟨_, rfl⟩

/-- Of messages about one flow the keys differ in the cookie. -/
theorem values_of_names {mods : List FlowMod} (named : ∀ mod ∈ mods, mod.names flow = true) :
    OrderedDict.values flowmodkey (mods.map .flowMod) =
      (OrderedDict.values FlowMod.cookie mods).map .flowMod := by
  refine OrderedDict.values_map_of_key fun mod member other member' => ?_
  have first := named mod member
  have second := named other member'
  simp only [FlowMod.names, Bool.and_eq_true, beq_iff_eq] at first second
  simp [flowmodkey, first, second]

/-- Of several adds the last one counts. -/
theorem outcome_adds {mods : List FlowMod} (adds : ∀ mod ∈ mods, mod.command = .add)
    (current : Option FlowEntry) :
    (outcome (mods.map .flowMod)).run current = (mods.getLast?.map FlowMod.entry).or current := by
  induction mods using List.reverseRecOn with
  | nil => rfl
  | append_singleton mods mod ih =>
      rw [List.map_append, List.map_singleton, outcome_concat_add (adds mod (by simp)),
        List.getLast?_concat]
      rfl

theorem removes_deletion {slot : Slot} (inTable : flow.tableId = site.table.tableId) :
    (site.deletion slot).removes flow entry = true ↔
      (site.matchOf slot).covers flow.matchFields = true := by
  rw [FlowMod.removes, FlowMod.reaches, Site.deletion, FlowMod.outPortMatches, inTable]
  simp

/-- What refers to a group refers to one of all groups. -/
theorem refersTo_all {groupId : ℕ} (refers : entry.refersTo groupId = true) :
    entry.refersTo ofpgAll = true := by
  obtain ⟨instr, listed, refers⟩ := List.any_eq_true.mp refers
  refine List.any_eq_true.mpr ⟨instr, listed, ?_⟩
  cases instr with
  | applyActions actions =>
      obtain ⟨act, member, refers⟩ := List.any_eq_true.mp refers
      refine List.any_eq_true.mpr ⟨act, member, ?_⟩
      cases act with
      | group id => simp [Act.refersTo]
      | _ => cases refers
  | _ => cases refers

/-- A delete of a group is sent, or one of all groups. -/
theorem removedLinked_of_group {groupId : ℕ} (member : .groupMod (.delete groupId) ∈ input)
    (refers : entry.refersTo groupId = true) : RemovedLinked input flow entry := by
  by_cases dropped : Dropped input (.groupMod (.delete groupId))
  · obtain ⟨_, ⟨wide, listed, kind, type⟩ | ⟨⟨_, noTable, _⟩, _⟩ | ⟨other, _, kind, key⟩⟩ := dropped
    · cases wide with
      | groupMod mod =>
          cases mod with
          | add => cases kind
          | delete id =>
              have all : id = ofpgAll := by
                by_contra one
                rw [msgKind, EntryMod.msgKind, if_neg one] at kind
                cases kind
              subst all
              refine ⟨_, listed, by simp [isDelete, kind], ?_, refersTo_all refers⟩
              rintro ⟨isDel, _⟩
              cases kind.symm.trans isDel
      | _ => cases type
    · cases noTable
    · obtain ⟨mod, rfl, _⟩ := flowMod_of_flowaddmod kind
      cases key
  · refine ⟨_, member, ?_, dropped, refers⟩
    rw [isDelete, msgKind, EntryMod.msgKind]
    split <;> rfl

/-- The delete of a rule is left out when a rule stands for it. -/
theorem Site.readded_iff (built : site.batch true slots = some input) {slot : Slot}
    (present : slot ∈ slots) :
    Readded input (.flowMod (site.deletion slot)) ↔ site.Stands slots slot := by
  obtain ⟨own, adds⟩ := Site.exists_mod built present
  have high := (site.mod_spec adds).2.2.1
  constructor
  · rintro ⟨ofmsg, member, kind, key⟩
    cases ofmsg with
    | flowMod mod =>
        rcases (Site.flowMod_mem_batch built).mp member with ⟨other, listed, adds'⟩ |
          ⟨_, other, _, rfl⟩
        · obtain ⟨_, _, priority, fields, cookie⟩ := site.mod_spec adds'
          simp only [flowmodkey, Site.deletion, Option.some.injEq, FlowmodKey.mk.injEq] at key
          refine ⟨other, listed, ?_, fields.symm.trans key.1, cookie.symm.trans key.2.1⟩
          omega
        · rw [msgKind] at kind
          split at kind
          · cases kind
          · cases kind
    | _ => cases key
  · rintro ⟨other, listed, samePriority, sameFields, sameCookie⟩
    obtain ⟨mod, adds'⟩ := Site.exists_mod built listed
    obtain ⟨isAdd, inTable, priority, fields, cookie⟩ := site.mod_spec adds'
    refine ⟨.flowMod mod, (Site.flowMod_mem_batch built).mpr (.inl ⟨other, listed, adds'⟩), ?_, ?_⟩
    · simp [msgKind, FlowMod.isGlobalFlowdel, FlowMod.isFlowdel, isAdd]
    · have toNat : mod.priority = slot.priority.toNat := by omega
      simp [flowmodkey, Site.deletion, inTable, toNat, fields, cookie, sameFields, sameCookie]

/-- Which deletes of a batch remove the flow. -/
theorem Site.removedLinked_iff (built : site.batch true slots = some input)
    (inTable : flow.tableId = site.table.tableId) :
    RemovedLinked input flow entry ↔ site.Takes slots flow entry := by
  constructor
  · rintro ⟨ofmsg, member, isDel, kept, removes⟩
    cases ofmsg with
    | flowMod mod =>
        rcases (Site.flowMod_mem_batch built).mp member with ⟨_, _, adds⟩ | ⟨_, slot, present, rfl⟩
        · rw [isDelete, msgKind, FlowMod.isGlobalFlowdel, FlowMod.isFlowdel,
            (site.mod_spec adds).1] at isDel
          cases isDel
        · refine .inl ⟨slot, present, (removes_deletion inTable).mp removes, fun stands => kept ?_⟩
          refine ⟨(Site.byTable built).msgKind_of_delete member rfl, .inr (.inr ?_)⟩
          exact (Site.readded_iff built present).mpr stands
    | groupMod mod =>
        obtain ⟨slot, present, entry', builds, group⟩ := (Site.groupMod_mem_batch built).mp member
        cases mod with
        | add => cases isDel
        | delete groupId => exact .inr ⟨slot, present, entry', builds, groupId, group, removes⟩
    | _ => cases removes
  · rintro (⟨slot, present, covers, alone⟩ | ⟨slot, present, entry', builds, groupId, group, refers⟩)
    · have member : .flowMod (site.deletion slot) ∈ input :=
        (Site.flowMod_mem_batch built).mpr (.inr ⟨rfl, slot, present, rfl⟩)
      have kind := (Site.byTable built).msgKind_of_delete member rfl
      refine ⟨_, member, by simp [isDelete, kind], fun dropped => alone ?_,
        (removes_deletion inTable).mpr covers⟩
      exact (Site.readded_iff built present).mp ((Site.byTable built).readded_of_dropped dropped)
    · exact removedLinked_of_group ((Site.groupMod_mem_batch built).mpr
        ⟨slot, present, entry', builds, group⟩) refers

/-- **What a batch makes of a flow**: of its adds the last one counts; without one the flow
stays, unless a delete takes it along. -/
theorem Site.deliver_batch (built : site.batch flowdel slots = some input)
    (delivers : switch.deliver shuffle useBarriers input = some next) (flow : FlowId) :
    ∃ gone : FlowEntry → Bool, (∀ entry, gone entry = true ↔ RemovedLinked input flow entry) ∧
      next.flows flow =
        (site.final slots flow).or ((switch.flows flow).filter fun entry => !gone entry) := by
  obtain ⟨gone, removed, flows⟩ := deliver_flows delivers flow
  refine ⟨gone, removed, ?_⟩
  have named : ∀ mod ∈ (slots.filterMap site.mod).filter (·.names flow), mod.names flow = true :=
    fun mod member => (List.mem_filter.mp member).2
  have adds : ∀ mod ∈ OrderedDict.values FlowMod.cookie
      ((slots.filterMap site.mod).filter (·.names flow)), mod.command = .add := by
    intro mod member
    obtain ⟨slot, _, adds⟩ := List.mem_filterMap.mp
      (List.mem_filter.mp (OrderedDict.mem_of_mem_values member)).1
    exact (site.mod_spec adds).1
  rw [flows, Site.filter_sets built, values_of_names named, outcome_adds adds]
  rfl

end Deliver

/-! ## The flows that remain -/

section Final

variable {site : Site} {slots slots' : List Slot} {slot : Slot} {mod : FlowMod} {flow : FlowId}
  {entry : FlowEntry}

theorem Site.exists_of_final (isFinal : site.final slots flow = some entry) :
    ∃ slot ∈ slots, ∃ mod, site.mod slot = some mod ∧ mod.names flow = true ∧ mod.entry = entry := by
  obtain ⟨mod, last, same⟩ := Option.map_eq_some_iff.mp isFinal
  have member := OrderedDict.mem_of_mem_values (List.mem_of_getLast? last)
  obtain ⟨listed, named⟩ := List.mem_filter.mp member
  obtain ⟨slot, present, adds⟩ := List.mem_filterMap.mp listed
  exact ⟨slot, present, mod, adds, named, same⟩

theorem Site.final_ne_none (present : slot ∈ slots) (adds : site.mod slot = some mod)
    (named : mod.names flow = true) : site.final slots flow ≠ none := by
  intro none
  rw [final, counts, Option.map_eq_none_iff, List.getLast?_eq_none_iff] at none
  have kept : ∃ other ∈ OrderedDict.values FlowMod.cookie
      ((slots.filterMap site.mod).filter (·.names flow)), other.cookie = mod.cookie :=
    OrderedDict.exists_mem_values
      (List.mem_filter.mpr ⟨List.mem_filterMap.mpr ⟨slot, present, adds⟩, named⟩)
  obtain ⟨other, listed, _⟩ := kept
  rw [none] at listed
  cases listed

/-- A flow that only this rule has a priority for has its entry. -/
theorem Site.final_of_unique (present : slot ∈ slots) (adds : site.mod slot = some mod)
    (named : mod.names flow = true)
    (only : ∀ other ∈ slots, other.priority = slot.priority → site.mod other = site.mod slot) :
    site.final slots flow = some mod.entry := by
  obtain ⟨entry, isFinal⟩ := Option.ne_none_iff_exists'.mp (Site.final_ne_none present adds named)
  obtain ⟨other, listed, mod', adds', named', rfl⟩ := Site.exists_of_final isFinal
  have priority := (site.mod_spec adds).2.2.1
  have priority' := (site.mod_spec adds').2.2.1
  simp only [FlowMod.names, Bool.and_eq_true, beq_iff_eq] at named named'
  have same := adds'.symm.trans (only other listed (by omega))
  rw [adds] at same
  cases same
  exact isFinal

/-- **Of rules with one priority** the last one of the dict has the flow of their match. -/
theorem Site.final_eq_lastRule {priority : ℤ}
    (built : ∀ slot ∈ slots, ∃ mod, site.mod slot = some mod)
    (onePriority : ∀ slot ∈ slots, slot.priority = priority)
    (inTable : flow.tableId = site.table.tableId) (atPriority : (flow.priority : ℤ) = priority) :
    site.final slots flow = (site.lastRule slots flow.matchFields).bind site.flowEntry := by
  obtain ⟨build, built⟩ : ∃ build : Slot → FlowMod, ∀ slot ∈ slots, site.mod slot = some (build slot) := by
    have chosen : ∀ slot, ∃ mod, slot ∈ slots → site.mod slot = some mod := by
      intro slot
      by_cases present : slot ∈ slots
      · obtain ⟨mod, adds⟩ := built slot present
        exact ⟨mod, fun _ => adds⟩
      · exact ⟨site.deletion slot, fun member => absurd member present⟩
    exact Classical.skolem.mp chosen
  have mods : slots.filterMap site.mod = slots.map build := by
    rw [← List.filterMap_eq_map]
    exact List.filterMap_congr fun slot present => built slot present
  have named : slots.filter ((·.names flow) ∘ build) =
      slots.filter (site.matchOf · = flow.matchFields) := by
    refine List.filter_congr fun slot present => ?_
    obtain ⟨_, sameTable, samePriority, fields, _⟩ := site.mod_spec (built slot present)
    have toNat : (build slot).priority = flow.priority := by
      have := onePriority slot present
      omega
    rw [Function.comp_apply, FlowMod.names, sameTable, toNat, fields, inTable]
    simp [beq_eq_decide]
  have cookies : ∀ slot ∈ slots.filter (site.matchOf · = flow.matchFields), (build slot).cookie =
      slot.rule.cookie.getD site.table.flowCookie :=
    fun slot present => (site.mod_spec (built slot (List.mem_of_mem_filter present))).2.2.2.2
  rw [final, counts, mods, List.filter_map, named, OrderedDict.values_map_of_key (fun first member
      second member' => by rw [cookies first member, cookies second member']),
    List.getLast?_map, ← lastRule, Option.map_map]
  cases last : site.lastRule slots flow.matchFields with
  | none => rfl
  | some slot =>
      have present : slot ∈ slots := List.mem_of_mem_filter
        (OrderedDict.mem_of_mem_values (List.mem_of_getLast? last))
      rw [Option.map_some, Option.bind_some, flowEntry, built slot present]
      rfl

theorem Site.final_congr {α : Type} {values : List α} {first second : α → Slot}
    (same : ∀ value ∈ values, (site.mod (first value)).filter (·.names flow) =
      (site.mod (second value)).filter (·.names flow)) :
    site.final (values.map first) flow = site.final (values.map second) flow := by
  have filtered : ∀ build : α → Slot, ((values.map build).filterMap site.mod).filter (·.names flow) =
      values.filterMap fun value => (site.mod (build value)).filter (·.names flow) := by
    intro build
    rw [List.filterMap_map, List.filter_filterMap]
    refine List.filterMap_congr fun value _ => ?_
    rw [Function.comp_apply]
  rw [final, final, counts, counts, filtered, filtered, List.filterMap_congr same]

end Final

namespace Site

variable (site : Site)

/-- After the update the flows of the site are those that an installation from the start
makes, where there have been none before. -/
def Renews (installed afresh update : Option (List Ofmsg)) : Prop :=
  ∀ own fresh, installed = some own → afresh = some fresh → ∃ input, update = some input ∧
    ∀ shuffle shuffle' shuffle'' useBarriers (switch before renewed : Switch),
      (∀ flow, site.Holds flow → switch.flows flow = none) →
      switch.deliver shuffle useBarriers own = some before →
      switch.deliver shuffle' useBarriers fresh = some renewed →
      ∃ next, before.deliver shuffle'' useBarriers input = some next ∧
        ∀ flow, site.Holds flow → next.flows flow = renewed.flows flow

/-- A flow that the update sets is as in an installation from the start, and another one is
as it was, and is spared by the deletes. -/
structure Agrees (installed afresh update : List Slot) : Prop where
  set : ∀ flow, site.Holds flow → site.final update flow ≠ none →
    site.final update flow = site.final afresh flow
  unset : ∀ flow, site.Holds flow → site.final update flow = none →
    site.final installed flow = site.final afresh flow
  spared : ∀ flow entry, site.Holds flow → site.final update flow = none →
    site.final installed flow = some entry → ¬ site.Takes update flow entry

variable {site} {installed afresh update : List Slot} {own fresh : List Ofmsg}

/-- **When an update renews the flows.** -/
theorem renews_iff (built : site.batch false installed = some own)
    (freshBuilt : site.batch false afresh = some fresh)
    (sameFlows : ∀ flow, site.Holds flow →
      (site.final installed flow = none ↔ site.final afresh flow = none)) :
    site.Renews (site.batch false installed) (site.batch false afresh) (site.batch true update) ↔
      (∃ input, site.batch true update = some input) ∧ site.Agrees installed afresh update := by
  have start : ∀ {slots messages shuffle useBarriers} {switch next : Switch},
      site.batch false slots = some messages →
      (∀ flow, site.Holds flow → switch.flows flow = none) →
      switch.deliver shuffle useBarriers messages = some next →
      ∀ flow, site.Holds flow → next.flows flow = site.final slots flow := by
    intro slots messages shuffle useBarriers switch next builds empty delivers flow holds
    obtain ⟨gone, _, flows⟩ := Site.deliver_batch builds delivers flow
    rw [flows, empty flow holds, Option.filter_none, Option.or_none]
  constructor
  · intro renews
    obtain ⟨input, updates, renews⟩ := renews own fresh built freshBuilt
    let switch : Switch := ⟨fun _ => none, fun _ => none, fun _ => none⟩
    let shuffle : Shuffle := ⟨id, Shuffle.perm_id⟩
    obtain ⟨before, delivers⟩ : ∃ before, switch.deliver shuffle true own = some before :=
      Site.exists_deliver built
    obtain ⟨renewed, freshDelivers⟩ : ∃ renewed, switch.deliver shuffle true fresh = some renewed :=
      Site.exists_deliver freshBuilt
    obtain ⟨next, updateDelivers, same⟩ := renews shuffle shuffle shuffle true switch before renewed
      (fun _ _ => rfl) delivers freshDelivers
    have flows : ∀ flow, site.Holds flow → ∃ gone : FlowEntry → Bool,
        (∀ entry, gone entry = true ↔ site.Takes update flow entry) ∧
          (site.final update flow).or ((site.final installed flow).filter fun entry => !gone entry) =
            site.final afresh flow := by
      intro flow holds
      obtain ⟨gone, removed, flows⟩ := Site.deliver_batch updates updateDelivers flow
      refine ⟨gone, fun entry => (removed entry).trans (Site.removedLinked_iff updates holds.1), ?_⟩
      rw [← start built (fun _ _ => rfl) delivers flow holds, ← flows, same flow holds]
      exact start freshBuilt (fun _ _ => rfl) freshDelivers flow holds
    refine ⟨⟨input, updates⟩, fun flow holds isSet => ?_, fun flow holds unset => ?_,
      fun flow entry holds unset there takes => ?_⟩
    · obtain ⟨gone, _, flows⟩ := flows flow holds
      obtain ⟨entry, isFinal⟩ := Option.ne_none_iff_exists'.mp isSet
      rw [isFinal, Option.some_or] at flows
      rw [isFinal, flows]
    · obtain ⟨gone, _, flows⟩ := flows flow holds
      rw [unset, Option.none_or] at flows
      cases there : site.final installed flow with
      | none => exact ((sameFlows flow holds).mp there).symm
      | some entry =>
          rw [there, Option.filter_some] at flows
          split at flows
          next => exact flows
          next =>
            have absent := (sameFlows flow holds).mpr flows.symm
            cases there.symm.trans absent
    · obtain ⟨gone, removed, flows⟩ := flows flow holds
      rw [unset, Option.none_or, there, Option.filter_some, (removed entry).mpr takes] at flows
      cases there.symm.trans ((sameFlows flow holds).mpr flows.symm)
  · rintro ⟨⟨input, updates⟩, agrees⟩ own' fresh' builds freshBuilds
    cases built.symm.trans builds
    cases freshBuilt.symm.trans freshBuilds
    refine ⟨input, updates, ?_⟩
    intro _ _ _ _ _ before _ empty delivers freshDelivers
    obtain ⟨next, updateDelivers⟩ := Site.exists_deliver updates
    refine ⟨next, updateDelivers, fun flow holds => ?_⟩
    obtain ⟨gone, removed, flows⟩ := Site.deliver_batch updates updateDelivers flow
    rw [flows, start built empty delivers flow holds, start freshBuilt empty freshDelivers flow holds]
    cases final : site.final update flow with
    | some entry =>
        rw [Option.some_or, ← agrees.set flow holds (by simp [final]), final]
    | none =>
        rw [Option.none_or, ← agrees.unset flow holds final]
        cases there : site.final installed flow with
        | none => rfl
        | some entry =>
            have stays : gone entry = false := by
              rw [← Bool.not_eq_true, removed, Site.removedLinked_iff updates holds.1]
              exact agrees.spared flow entry holds final there
            simp [stays]

end Site

end Faucet.Acl
