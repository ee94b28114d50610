import Faucet.Acl.Coverage
import Faucet.Pipeline.Layout

/-!
# Which access lists can be started

The tables of a datapath are made for what its ACLs remember of their last builds. An ACL
that is applied to a VLAN, and to a port or the datapath as well, was not built for the
VLAN last, and then nothing may be there to let the VLAN be matched. And a table is exact
as soon as the last of its ACLs is. `starts_iff` tells when the messages of a start can
be built in spite of that.
-/

set_option autoImplicit false

namespace Faucet.Acl

open OpenFlow FirstMatch

/-! ## Tables and matches -/

section Verifies

variable {table : AclTable} {fields : Match}

theorem configures_iff : table.configures fields = true ↔
    ∀ field ∈ fields.items, MatchTypes.Covers table.matchTypes field.field field.mask.isSome := by
  rw [AclTable.configures, List.all_eq_true]
  refine forall₂_congr fun field _ => ?_
  rw [List.any_eq_true]
  constructor
  · rintro ⟨⟨type, mask⟩, member, good⟩
    simp only [Bool.and_eq_true, beq_iff_eq, Bool.or_eq_true, Option.isNone_iff_eq_none] at good
    refine ⟨mask, good.1 ▸ member, fun isMasked => good.2.resolve_right fun none => ?_⟩
    rw [none] at isMasked
    cases isMasked
  · rintro ⟨mask, member, masks⟩
    refine ⟨(field.field, mask), member, ?_⟩
    cases isMask : field.mask with
    | none => simp
    | some value => simp [masks (by rw [isMask]; rfl)]

/-- The match has all the fields of the table, or none at all. -/
def AclTable.Full (table : AclTable) (fields : Match) : Prop :=
  fields.items = [] ∨ ∀ type, MatchTypes.Has table.matchTypes type → ∃ field ∈ fields.items, field.field = type

/-- A match whose fields are configured is good for a table, when it has all the fields
of one that is exact. -/
theorem verifies_iff (distinct : MatchTypes.Distinct table.matchTypes) :
    table.verifies fields = true ↔
      (∀ field ∈ fields.items, MatchTypes.Covers table.matchTypes field.field field.mask.isSome) ∧
        (table.exactMatch = true → table.Full fields) := by
  rw [AclTable.verifies, Bool.and_eq_true, configures_iff]
  refine and_congr_right fun covered => ?_
  have kinds : (fields.items.map (·.field)).Nodup := by
    rw [List.Nodup, List.pairwise_map]
    exact fields.sorted.imp fun less => less.ne
  have within : fields.items.map (·.field) ⊆ table.matchTypes.map Prod.fst := by
    intro kind member
    obtain ⟨field, listed, rfl⟩ := List.mem_map.mp member
    obtain ⟨mask, configured, _⟩ := covered field listed
    exact List.mem_map.mpr ⟨_, configured, rfl⟩
  have subperm := kinds.subperm within
  have lengths : table.matchTypes.length = fields.items.length ↔
      ∀ type, MatchTypes.Has table.matchTypes type → ∃ field ∈ fields.items, field.field = type := by
    constructor
    · rintro same type ⟨mask, member⟩
      have perm := subperm.perm_of_length_le (by simp [same])
      obtain ⟨field, listed, isType⟩ :=
        List.mem_map.mp (perm.mem_iff.mpr (List.mem_map.mpr ⟨_, member, rfl⟩))
      exact ⟨field, listed, isType⟩
    · intro all
      have within' : table.matchTypes.map Prod.fst ⊆ fields.items.map (·.field) := by
        intro type member
        obtain ⟨⟨type, mask⟩, listed, rfl⟩ := List.mem_map.mp member
        obtain ⟨field, present, isType⟩ := all type ⟨mask, listed⟩
        exact List.mem_map.mpr ⟨field, present, isType⟩
      have less := subperm.length_le
      have more := (distinct.subperm within').length_le
      rw [List.length_map, List.length_map] at less more
      exact Nat.le_antisymm more less
  rw [AclTable.Full, ← lengths]
  cases table.exactMatch <;> simp

end Verifies

/-! ## Parts -/

/-- The matches of the flows of a part. -/
def Part.matches : Part → List Match
  | .list placement =>
      placement.rules.map fun rule => matchFromDict (rule.matchDict placement.context)
  | .allow _ context => [context.place]

/-- The rules of a list can be built, in a table that has the fields that they set. -/
def Placement.Instructed (placement : Placement) : Prop :=
  ∀ rule ∈ placement.rules, ∃ entry, buildAclEntry rule placement.context = some entry ∧
    ∀ field ∈ fieldsSet entry.inst, field ∈ placement.table.setFields

/-- Each rule of a list that is not exact has a priority left above zero, or zero itself when
its flow takes all packets. -/
def Placement.Prioritized (placement : Placement) : Prop :=
  placement.exactMatch = true ∨ ∀ counted ∈ numbered aclPriority placement.rules,
    0 < counted.1 ∨ counted.1 = 0 ∧
      (matchFromDict (counted.2.matchDict placement.context)).items = []

/-- The instructions of a part can be made. -/
def Part.Ready : Part → Prop
  | .list placement => placement.Instructed
  | .allow _ _ => True

/-- There are priorities for the flows of a part. -/
def Part.Prioritized : Part → Prop
  | .list placement => placement.Prioritized
  | .allow _ _ => True

section Parts

variable {part : Part} {placement : Placement} {context : Context} {table : AclTable}

theorem list_built_iff (instructed : placement.Instructed) :
    (∃ own, placement.ofmsgs = some own) ↔ placement.Prioritized ∧
      ∀ rule ∈ placement.rules,
        placement.table.verifies (matchFromDict (rule.matchDict placement.context)) = true := by
  constructor
  · rintro ⟨own, built⟩
    constructor
    · refine or_iff_not_imp_left.mpr fun plain counted member => ?_
      obtain ⟨mod, _, entry, builds, flow⟩ := exists_flow (flows_of_ofmsgs built) member
      rw [if_neg plain] at flow
      obtain ⟨_, _, _, noMatch, low, _⟩ := AclTable.flowmod_iff.mp flow
      rw [← matchFields_eq builds]
      rcases low.lt_or_eq with positive | zero
      · exact .inl positive
      · exact .inr ⟨zero.symm, noMatch zero.symm⟩
    · intro rule member
      obtain ⟨priority, listed⟩ := exists_numbered aclPriority member
      obtain ⟨mod, _, entry, builds, flow⟩ := exists_flow (flows_of_ofmsgs built) listed
      obtain ⟨_, _, verified, _⟩ := AclTable.flowmod_iff.mp flow
      rwa [matchFields_eq builds] at verified
  · rintro ⟨prioritized, verified⟩
    refine exists_buildRules fun counted member => ?_
    have listed := mem_of_numbered member
    obtain ⟨entry, builds, configured⟩ := instructed _ listed
    obtain ⟨trimmed, trims⟩ := exists_trimInst configured
    have good := verified _ listed
    rw [← matchFields_eq builds] at good
    have bounds := numbered_bounds member
    have top : aclPriority = 20480 := rfl
    refine ⟨_, entry, builds, AclTable.flowmod_iff.mpr
      ⟨trimmed, trims, good, ?_, ?_, ?_, rfl⟩⟩
    · split
      next => exact fun zero => absurd (top.symm.trans zero) (by decide)
      next plain =>
        intro zero
        rcases prioritized.resolve_left plain counted member with positive | ⟨_, noMatch⟩
        · exact absurd zero positive.ne'
        · rwa [matchFields_eq builds]
    · split
      next => rw [top]; decide
      next plain =>
        rcases prioritized.resolve_left plain counted member with positive | ⟨zero, _⟩
        · exact positive.le
        · exact zero.ge
    · split <;> omega

theorem allow_built_iff : (∃ own, (Part.allow table context).ofmsgs = some own) ↔
    table.verifies context.place = true := by
  have trims : table.trimInst [.gotoTable context.allowTable] = some [.gotoTable context.allowTable] :=
    rfl
  constructor
  · rintro ⟨own, built⟩
    obtain ⟨mod, flow, _⟩ := Option.map_eq_some_iff.mp built
    obtain ⟨_, _, verified, _⟩ := AclTable.flowmod_iff.mp flow
    exact verified
  · intro verified
    obtain ⟨mod, flow⟩ : ∃ mod, table.flowmod context.place aclPriority
        [.gotoTable context.allowTable] none = some mod :=
      AclTable.exists_flowmod trims verified (by decide) (by decide)
    exact ⟨_, by rw [Part.ofmsgs, AclManager.allow, flow]; rfl⟩

/-- A part is built just when there are priorities for its flows, and their matches are good
for the table. -/
theorem built_iff (ready : part.Ready) : (∃ own, part.ofmsgs = some own) ↔
    part.Prioritized ∧ ∀ fields ∈ part.matches, part.table.verifies fields = true := by
  cases part with
  | list placement =>
      rw [Part.ofmsgs, list_built_iff ready, Part.matches, List.forall_mem_map]
      rfl
  | allow table context =>
      rw [allow_built_iff, Part.matches, List.forall_mem_singleton]
      exact (and_iff_right trivial).symm

end Parts

/-! ## What ACLs remember -/

namespace DpConf

variable {ν : Type} [DecidableEq ν] {conf : DpConf ν} {name : ν} {call : Call ν} {rule : RuleConf}

/-- The rules of ACLs that are applied together. -/
def rulesOf (conf : DpConf ν) (names : List ν) : List RuleConf :=
  (names.map fun name => (conf.acl name).conf).flatMap (·.rules)

/-- What a configuration has been checked for. -/
structure Resolved (conf : DpConf ν) : Prop where
  built : ∀ call ∈ conf.calls, ∃ built, conf.buildCall call = some built
  dpAlone : conf.dpAcls ≠ [] → ∀ port ∈ conf.ports, port.aclsIn = []
  tunnels : ∀ name ∈ conf.tunnelAcls, (conf.acl name).isTunnelAcl = true
  plain : ∀ name, ∀ rule ∈ (conf.acl name).conf.rules, rule.PlainPort

/-- The VLAN is matched when the ACL was built for one last, is for a tunnel, or has a
rule of its own that matches the VLAN. -/
def NotesVlan (conf : DpConf ν) (name : ν) : Prop :=
  (∃ call, conf.lastCall name = some call ∧ call.vid ≠ none) ∨
    (conf.acl name).isTunnelAcl = true ∨
      ∃ rule ∈ (conf.acl name).conf.rules, ∃ entry ∈ rule.matchFields, entry.1.number = vlanVid

theorem lastCall_spec (found : conf.lastCall name = some call) :
    call ∈ conf.calls ∧ call.name = name := by
  have member := List.mem_filter.mp (List.mem_of_getLast? found)
  exact ⟨member.1, of_decide_eq_true member.2⟩

theorem exists_lastCall (used : ∃ call ∈ conf.calls, call.name = name) :
    ∃ call, conf.lastCall name = some call := by
  obtain ⟨call, member, isName⟩ := used
  have listed : call ∈ conf.calls.filter (·.name = name) :=
    List.mem_filter.mpr ⟨member, decide_eq_true isName⟩
  exact ⟨_, List.getLast?_eq_some_getLast (List.ne_nil_of_mem listed)⟩

omit [DecidableEq ν] in
theorem mem_laterCalls (member : call ∈ conf.laterCalls) : call.vid = none := by
  rcases List.mem_append.mp member with member | member
  · obtain ⟨port, _, member⟩ := List.mem_flatMap.mp member
    obtain ⟨name, _, rfl⟩ := List.mem_map.mp member
    rfl
  · obtain ⟨name, _, rfl⟩ := List.mem_map.mp member
    rfl

/-- An ACL that is not applied to VLANs alone was not built for a VLAN last. -/
theorem lastCall_of_later (used : ∃ call ∈ conf.laterCalls, call.name = name)
    (found : conf.lastCall name = some call) : call ∈ conf.laterCalls := by
  obtain ⟨other, member, isName⟩ := used
  have listed : other ∈ conf.laterCalls.filter (·.name = name) :=
    List.mem_filter.mpr ⟨member, decide_eq_true isName⟩
  rw [lastCall, calls, List.filter_append,
    List.getLast?_append_of_ne_nil _ (List.ne_nil_of_mem listed)] at found
  exact (List.mem_filter.mp (List.mem_of_getLast? found)).1

theorem keeps_verifyTunnelRules {built : Built} : Keeps built built.verifyTunnelRules :=
  ⟨MatchTypes.covers_noteAll, List.subset_append_left _ _⟩

/-- The context of the last build. -/
abbrev Call.context (conf : DpConf ν) (call : Call ν) : Context :=
  AccessList.buildContext conf.meters call.vid call.portNum

theorem exists_remembers (resolved : conf.Resolved) (found : conf.lastCall name = some call)
    (member : rule ∈ (conf.acl name).conf.rules) :
    ∃ entry, Remembers (conf.remembered name) (call.context conf) rule entry := by
  obtain ⟨listed, rfl⟩ := lastCall_spec found
  obtain ⟨built, builds⟩ := resolved.built call listed
  obtain ⟨entry, remembers⟩ := (build_spec builds).1 rule member
  refine ⟨entry, ?_⟩
  rw [remembered, found, Option.bind_some, builds, Option.getD_some]
  split
  next =>
    exact ⟨remembers.builds,
      fun noted listed => keeps_verifyTunnelRules.covers (remembers.fields noted listed),
      List.Subset.trans remembers.setFields keeps_verifyTunnelRules.setFields⟩
  next => exact remembers

/-- An ACL has a rule. -/
theorem exists_rule_of_acl (acl : AclConf) : ∃ rule, rule ∈ acl.rules :=
  List.exists_mem_of_ne_nil _ acl.someRule

theorem isSome_own {kind : ℕ} : ((matchFromDict rule.matchFields).get kind).isSome = true ↔
    ∃ entry ∈ rule.matchFields, entry.1.number = kind := by
  rw [get_matchFromDict, Option.isSome_map, List.getLast?_isSome]
  constructor
  · intro some_
    obtain ⟨entry, member⟩ := List.exists_mem_of_ne_nil _ some_
    obtain ⟨listed, isKind⟩ := List.mem_filter.mp member
    exact ⟨entry, listed, by simpa using isKind⟩
  · rintro ⟨entry, listed, isKind⟩
    exact List.ne_nil_of_mem (List.mem_filter.mpr ⟨listed, by simpa using isKind⟩)

theorem has_of_fieldAt {built : Built} {context : Context} {entry : AclEntry} {kind : ℕ}
    (remembers : Remembers built context rule entry)
    (present : (rule.fieldAt context kind).isSome = true) :
    MatchTypes.Has built.matchTypes kind := by
  obtain ⟨found, isField⟩ := Option.isSome_iff_exists.mp present
  exact (remembers.fields _ (mem_matchTypesOf isField)).has

theorem has_vlanVid (resolved : conf.Resolved) (found : conf.lastCall name = some call) :
    MatchTypes.Has (conf.remembered name).matchTypes vlanVid ↔ conf.NotesVlan name := by
  have notPort : vlanVid ≠ inPort := by decide
  constructor
  · intro has
    by_cases tunnel : (conf.acl name).isTunnelAcl = true
    · exact .inr (.inl tunnel)
    · obtain ⟨listed, rfl⟩ := lastCall_spec found
      obtain ⟨built, builds⟩ := resolved.built call listed
      rw [remembered, found, Option.bind_some, builds, Option.getD_some, if_neg tunnel] at has
      obtain ⟨rule, member, present⟩ := (build_spec builds).2 vlanVid (by decide) has
      cases vid : call.vid with
      | some vid => exact .inl ⟨call, found, by simp [vid]⟩
      | none =>
          rw [fieldAt_own (fun same => absurd same notPort) (fun _ => vid)] at present
          exact .inr (.inr ⟨rule, member, isSome_own.mp present⟩)
  · rintro (⟨call', found', isVid⟩ | tunnel | ⟨rule, member, own⟩)
    · cases found.symm.trans found'
      obtain ⟨vid, isVid⟩ := Option.ne_none_iff_exists'.mp isVid
      obtain ⟨rule, member⟩ := exists_rule_of_acl (conf.acl name).conf
      obtain ⟨entry, remembers⟩ := exists_remembers resolved found member
      obtain ⟨value, present, _⟩ := fieldAt_vlan rule (call.context conf) isVid
      exact has_of_fieldAt remembers (by rw [present]; rfl)
    · rw [remembered, if_pos tunnel]
      exact MatchTypes.has_noteAll.mpr (.inr ⟨(vlanVid, false), by simp, rfl⟩)
    · obtain ⟨entry, remembers⟩ := exists_remembers resolved found member
      refine has_of_fieldAt remembers ?_
      cases vid : call.vid with
      | some vid =>
          obtain ⟨value, present, _⟩ := fieldAt_vlan rule (call.context conf) vid
          rw [present]
          rfl
      | none =>
          rw [fieldAt_own (fun same => absurd same notPort) (fun _ => vid)]
          exact isSome_own.mpr own

/-- An ACL that is applied to a port was built for a port last, or it is for a tunnel. -/
theorem has_inPort (resolved : conf.Resolved) (noDpAcls : conf.dpAcls = [])
    (used : ∃ call ∈ conf.laterCalls, call.name = name) :
    MatchTypes.Has (conf.remembered name).matchTypes inPort := by
  by_cases tunnel : (conf.acl name).isTunnelAcl = true
  · rw [remembered, if_pos tunnel]
    exact MatchTypes.has_noteAll.mpr (.inr ⟨(inPort, false), by simp, rfl⟩)
  · obtain ⟨call, found⟩ : ∃ call, conf.lastCall name = some call := exists_lastCall <| by
      obtain ⟨call, member, isName⟩ := used
      exact ⟨call, List.mem_append_right _ member, isName⟩
    have later := lastCall_of_later used found
    obtain ⟨_, isName⟩ := lastCall_spec found
    have isPort : ∃ port, call.portNum = some port := by
      rcases List.mem_append.mp later with member | member
      · obtain ⟨port, _, member⟩ := List.mem_flatMap.mp member
        obtain ⟨_, _, rfl⟩ := List.mem_map.mp member
        exact ⟨port.number, rfl⟩
      · rw [noDpAcls, List.nil_append] at member
        obtain ⟨other, listed, same⟩ := List.mem_map.mp member
        have isOther : other = name := (congrArg Call.name same).trans isName
        exact absurd (isOther ▸ (List.mem_filter.mp listed).2) tunnel
    obtain ⟨port, isPort⟩ := isPort
    obtain ⟨rule, member⟩ := exists_rule_of_acl (conf.acl name).conf
    obtain ⟨entry, remembers⟩ := exists_remembers resolved found member
    exact has_of_fieldAt remembers
      (by rw [fieldAt_port (call.context conf) isPort]; rfl)

/-! ## Tables for ACLs -/

/-- The table is that for the ACLs. -/
structure MadeFor (table : AclTable) (acls : List Counted) : Prop where
  types : table.matchTypes = MatchTypes.noteAll [] (acls.flatMap (·.built.matchTypes))
  setFields : table.setFields = acls.flatMap (·.built.setFields)

section MadeFor

variable {table : AclTable} {acls : List Counted} {context : Context} {entry : AclEntry}
  {names : List ν} {kind : ℕ}

theorem MadeFor.has_iff (made : MadeFor table acls) : MatchTypes.Has table.matchTypes kind ↔
    ∃ acl ∈ acls, MatchTypes.Has acl.built.matchTypes kind := by
  rw [made.types, MatchTypes.has_noteAll]
  constructor
  · rintro (⟨_, none⟩ | ⟨entry, member, rfl⟩)
    · cases none
    · obtain ⟨acl, listed, member⟩ := List.mem_flatMap.mp member
      exact ⟨acl, listed, entry.2, member⟩
  · rintro ⟨acl, listed, mask, member⟩
    exact .inr ⟨_, List.mem_flatMap.mpr ⟨acl, listed, member⟩, rfl⟩

theorem MadeFor.distinct (made : MadeFor table acls) : MatchTypes.Distinct table.matchTypes := by
  rw [made.types]
  exact MatchTypes.distinct_noteAll List.nodup_nil

theorem MadeFor.noted (made : MadeFor table acls) (counted : conf.counted name ∈ acls)
    (remembers : Remembers (conf.remembered name) context rule entry) :
    ∀ noted ∈ matchTypesOf (matchFromDict (rule.matchDict context)),
      MatchTypes.Covers table.matchTypes noted.1 noted.2 := by
  intro noted listed
  obtain ⟨mask, member, masks⟩ := remembers.fields noted listed
  rw [made.types]
  exact MatchTypes.covers_noteAll_of_covers
    ⟨mask, List.mem_flatMap.mpr ⟨_, counted, member⟩, masks⟩

omit [DecidableEq ν] in
/-- The rules of a place are those of some names. -/
theorem exists_name {rules : List RuleConf}
    (isRules : rules = conf.rulesOf names) (member : rule ∈ rules) :
    ∃ name ∈ names, rule ∈ (conf.acl name).conf.rules := by
  subst isRules
  obtain ⟨acl, listed, member⟩ := List.mem_flatMap.mp member
  obtain ⟨name, known, rfl⟩ := List.mem_map.mp listed
  exact ⟨name, known, member⟩

variable (resolved : conf.Resolved) (made : MadeFor table acls)
  (counted : ∀ name ∈ names, conf.counted name ∈ acls)
  (used : ∀ name ∈ names, ∃ call ∈ conf.calls, call.name = name)
include resolved made counted used

theorem instructed_of_counted (meters : context.meters = conf.meters)
    (tunnels : context.tunnelRules = none) (exact_ : Bool) :
    (⟨table, context, names.map fun name => (conf.acl name).conf, exact_⟩ : Placement).Instructed := by
  intro rule member
  obtain ⟨name, known, member⟩ : ∃ name ∈ names, rule ∈ (conf.acl name).conf.rules :=
    exists_name rfl member
  obtain ⟨call, found⟩ := exists_lastCall (used name known)
  obtain ⟨entry, remembers⟩ := exists_remembers resolved found member
  obtain ⟨entry', builds, same⟩ : ∃ entry', buildAclEntry rule context = some entry' ∧
      fieldsSet entry'.inst = fieldsSet entry.inst :=
    exists_entry meters tunnels remembers.builds
  refine ⟨entry', builds, fun field isSet => ?_⟩
  rw [same] at isSet
  rw [made.setFields]
  exact List.mem_flatMap.mpr ⟨_, counted name known, remembers.setFields isSet⟩

theorem covered_of_counted
    (later : context.vid = none → ∀ name ∈ names, ∃ call ∈ conf.laterCalls, call.name = name)
    (port : context.portNum ≠ none → MatchTypes.Has table.matchTypes inPort)
    (vlan : context.vid ≠ none → MatchTypes.Has table.matchTypes vlanVid)
    (member : rule ∈ conf.rulesOf names) :
    ∀ field ∈ (matchFromDict (rule.matchDict context)).items,
      MatchTypes.Covers table.matchTypes field.field field.mask.isSome := by
  intro field present
  obtain ⟨name, known, member⟩ : ∃ name ∈ names, rule ∈ (conf.acl name).conf.rules :=
    exists_name rfl member
  obtain ⟨call, found⟩ := exists_lastCall (used name known)
  obtain ⟨entry, remembers⟩ := exists_remembers resolved found member
  refine covers_of_noted (resolved.plain name rule member) (fun noVlan => ?_)
    (made.noted (counted name known) remembers) port vlan (Match.get_eq_some_iff.mpr ⟨present, rfl⟩)
  exact mem_laterCalls (lastCall_of_later (later noVlan name known) found)

end MadeFor

/-! ## The tables of a datapath -/

section Tables

variable {rest : Rest} {acls : List Counted} {table : AclTable}

theorem tableContents_eq_none : tableContents acls = none ↔ acls = [] := by
  rw [tableContents, Option.map_eq_none_iff, List.getLast?_eq_none_iff]

/-- An ACL table is made for its ACLs, when there are some. -/
theorem madeFor_of_table (conf : DpConf ν) (rest : Rest) (name : Pipeline.TableName)
    (default : Pipeline.ValveTableConfig) (member : default ∈ Pipeline.faucetPipeline) (isDefault : default.name = name)
    (other : [.vlan, .ethDst, .flood].contains name = false)
    (isAcls : conf.aclTables.get name = tableContents acls) (some_ : acls ≠ []) :
    ∃ table, ((conf.dp rest).table? name).map (aclTable rest) = some table ∧ MadeFor table acls := by
  obtain ⟨contents, isContents⟩ : ∃ contents, tableContents acls = some contents :=
    Option.ne_none_iff_exists'.mp fun none => some_ (tableContents_eq_none.mp none)
  have get : (conf.dp rest).aclTables.get name = some contents := isAcls.trans isContents
  have there : (conf.dp rest).included name = true := by
    simp [Pipeline.Dp.included, get]
  obtain ⟨table, found, same⟩ := Pipeline.Dp.exists_table? there member isDefault other
  rw [Pipeline.Dp.ownConfig, isDefault, get] at same
  obtain ⟨_, _, rfl⟩ := Option.map_eq_some_iff.mp isContents
  simp only [Pipeline.Dp.contents, Prod.mk.injEq] at same
  exact ⟨aclTable rest table, by rw [found]; rfl, same.1, same.2.1⟩

end Tables

end DpConf

end Faucet.Acl
