import Faucet.Acl.Builds
import Faucet.Acl.FirstMatch

/-!
# What a build remembers

A rule that is built for one place has there the fields of its own, and those of the
place. What is remembered of it covers its flows at other places too, except for the
field of a place that is not one where it was built last (`covers_of_noted`).
-/

set_option autoImplicit false

namespace Faucet.Acl

open OpenFlow

namespace MatchTypes

/-! ## Types of matches -/

variable {types : MatchTypes} {fields : List (ℕ × Bool)} {entry : ℕ × Bool} {field : ℕ}
  {masked : Bool}

/-- The field is among the match types, with a mask or without. -/
def Has (types : MatchTypes) (field : ℕ) : Prop := ∃ mask, (field, mask) ∈ types

/-- The field may be matched, with a mask if it has one. -/
def Covers (types : MatchTypes) (field : ℕ) (masked : Bool) : Prop :=
  ∃ mask, (field, mask) ∈ types ∧ (masked = true → mask = true)

/-- A field has one entry. -/
def Distinct (types : MatchTypes) : Prop := (types.map Prod.fst).Nodup

theorem has_iff_any : types.Has field ↔ (types.any (·.1 == field)) = true := by
  rw [List.any_eq_true]
  constructor
  · rintro ⟨mask, member⟩
    exact ⟨_, member, beq_self_eq_true _⟩
  · rintro ⟨⟨other, mask⟩, member, same⟩
    rw [beq_iff_eq] at same
    exact ⟨mask, same ▸ member⟩

theorem Covers.has (covers : types.Covers field masked) : types.Has field :=
  covers.imp fun _ member => member.1

theorem Has.covers (has : types.Has field) : types.Covers field false :=
  has.imp fun _ member => ⟨member, fun isMasked => absurd isMasked Bool.false_ne_true⟩

theorem has_note : (types.note entry).Has field ↔ types.Has field ∨ entry.1 = field := by
  unfold note
  split
  next =>
    constructor
    · rintro ⟨mask, member⟩
      rcases OrderedDict.mem_of_mem_assign member with old | same
      · exact .inl ⟨mask, old⟩
      · exact .inr (congrArg Prod.fst same).symm
    · rintro (⟨mask, member⟩ | rfl)
      · by_cases same : field = entry.1
        · exact ⟨entry.2, same ▸ OrderedDict.mem_assign_self⟩
        · exact ⟨mask, OrderedDict.mem_assign_of_ne member same⟩
      · exact ⟨entry.2, OrderedDict.mem_assign_self⟩
  next old =>
    refine ⟨.inl, ?_⟩
    rintro (has | rfl)
    · exact has
    · simp only [Bool.or_eq_true, Bool.not_eq_true', not_or, Bool.not_eq_false] at old
      exact has_iff_any.mpr old.2

theorem covers_note (covers : types.Covers field masked) :
    (types.note entry).Covers field masked := by
  obtain ⟨mask, member, masks⟩ := covers
  unfold note
  split
  next noted =>
    by_cases same : field = entry.1
    · refine ⟨entry.2, same ▸ OrderedDict.mem_assign_self, fun isMasked => ?_⟩
      -- the field is there, so that it was noted for its mask
      have present : types.any (·.1 == entry.1) = true :=
        has_iff_any.mp ⟨mask, same ▸ member⟩
      rwa [present, Bool.not_true, Bool.or_false] at noted
    · exact ⟨mask, OrderedDict.mem_assign_of_ne member same, masks⟩
  next => exact ⟨mask, member, masks⟩

theorem covers_note_self : (types.note entry).Covers entry.1 entry.2 := by
  unfold note
  split
  next => exact ⟨entry.2, OrderedDict.mem_assign_self, id⟩
  next old =>
    simp only [Bool.or_eq_true, Bool.not_eq_true', not_or, Bool.not_eq_true, Bool.not_eq_false]
      at old
    obtain ⟨mask, member⟩ := has_iff_any.mpr old.2
    exact ⟨mask, member, fun isMasked => absurd isMasked (by rw [old.1]; decide)⟩

theorem distinct_note (distinct : types.Distinct) : (types.note entry).Distinct := by
  unfold note
  split
  next =>
    unfold OrderedDict.assign Distinct
    split
    next =>
      have same : (types.map fun y => if y.1 = entry.1 then entry else y).map Prod.fst =
          types.map Prod.fst := by
        rw [List.map_map]
        refine List.map_congr_left fun y _ => ?_
        simp only [Function.comp_apply]
        split
        next same => exact same.symm
        next => rfl
      rw [same]
      exact distinct
    next fresh =>
      rw [List.map_append, List.nodup_append]
      refine ⟨distinct, List.nodup_singleton _, ?_⟩
      rintro first member second other rfl
      obtain ⟨y, listed, rfl⟩ := List.mem_map.mp member
      have same : y.1 = entry.1 := by simpa using other
      exact fresh (List.any_eq_true.mpr ⟨y, listed, decide_eq_true same⟩)
  next => exact distinct

section NoteAll

theorem has_noteAll : (types.noteAll fields).Has field ↔
    types.Has field ∨ ∃ entry ∈ fields, entry.1 = field := by
  induction fields generalizing types with
  | nil => simp [noteAll]
  | cons entry rest ih =>
      rw [noteAll, List.foldl_cons, ← noteAll, ih, has_note]
      simp only [List.mem_cons, exists_eq_or_imp, or_assoc]

theorem covers_noteAll (covers : types.Covers field masked) :
    (types.noteAll fields).Covers field masked := by
  induction fields generalizing types with
  | nil => exact covers
  | cons entry rest ih => exact ih (covers_note covers)

theorem covers_noteAll_of_mem (member : entry ∈ fields) :
    (types.noteAll fields).Covers entry.1 entry.2 := by
  induction fields generalizing types with
  | nil => cases member
  | cons first rest ih =>
      rw [noteAll, List.foldl_cons, ← noteAll]
      rcases List.mem_cons.mp member with rfl | later
      · exact covers_noteAll covers_note_self
      · exact ih later

/-- What is covered is covered by what is noted of it. -/
theorem covers_noteAll_of_covers (covers : Covers fields field masked) :
    (types.noteAll fields).Covers field masked := by
  obtain ⟨mask, member, masks⟩ := covers
  have noted : (types.noteAll fields).Covers field mask := covers_noteAll_of_mem member
  obtain ⟨mask', member', masks'⟩ := noted
  exact ⟨mask', member', fun isMasked => masks' (masks isMasked)⟩

theorem distinct_noteAll (distinct : types.Distinct) : (types.noteAll fields).Distinct := by
  induction fields generalizing types with
  | nil => exact distinct
  | cons entry rest ih => exact ih (distinct_note distinct)

end NoteAll

end MatchTypes

/-! ## Fields of a rule -/

section Fields

variable {rule : RuleConf} {context last : Context} {kind : ℕ} {found : OxmField}
  {types : MatchTypes}

/-- The field of a kind when the rule is built for a place. -/
def RuleConf.fieldAt (rule : RuleConf) (context : Context) (kind : ℕ) : Option OxmField :=
  (matchFromDict (rule.matchDict context)).get kind

/-- A rule does not match ports with masks: `ofp_port_from_user` makes one port. -/
def RuleConf.PlainPort (rule : RuleConf) : Prop :=
  ∀ entry ∈ rule.matchFields, entry.1 = .field inPort → entry.2.mask = none

theorem filter_portDict (other : kind ≠ inPort) (portNum : Option PortNo)
    (fields : List (MatchKey × FieldValue)) :
    (portDict portNum fields).filter (·.1.number == kind) =
      fields.filter (·.1.number == kind) := by
  cases portNum with
  | none => rfl
  | some port => exact filter_setKey other.symm

theorem filter_vlanDict (other : kind ≠ vlanVid) (vid : Option ℕ)
    (fields : List (MatchKey × FieldValue)) :
    (vlanDict vid fields).filter (·.1.number == kind) = fields.filter (·.1.number == kind) := by
  cases vid with
  | none => rfl
  | some vid => exact filter_setKey other.symm

/-- A field that is not of the place is the rule's own. -/
theorem fieldAt_own (port : kind = inPort → context.portNum = none)
    (vlan : kind = vlanVid → context.vid = none) :
    rule.fieldAt context kind = (matchFromDict rule.matchFields).get kind := by
  rw [RuleConf.fieldAt, get_matchFromDict, get_matchFromDict, RuleConf.matchDict]
  congr 2
  by_cases isVlan : kind = vlanVid
  · have notPort : kind ≠ inPort := by
      rw [isVlan]
      decide
    rw [vlan isVlan, vlanDict, filter_portDict notPort]
  · rw [filter_vlanDict isVlan]
    by_cases isPort : kind = inPort
    · rw [port isPort, portDict]
    · rw [filter_portDict isPort]

/-- At a port the rule matches it. -/
theorem fieldAt_port (context : Context) {port : PortNo} (isPort : context.portNum = some port) :
    rule.fieldAt context inPort = some ⟨inPort, port, none⟩ := by
  have own : (MatchKey.field inPort).number = inPort := rfl
  rw [RuleConf.fieldAt, get_matchFromDict, RuleConf.matchDict, filter_vlanDict (by decide), isPort,
    portDict, filter_setKey_own own (fun entry _ isPort => number_eq_inPort isPort) rule.keys]
  rfl

/-- At a VLAN the rule matches it, or what stands under the old name. -/
theorem fieldAt_vlan (rule : RuleConf) (context : Context) {vid : ℕ}
    (isVlan : context.vid = some vid) :
    ∃ value, rule.fieldAt context vlanVid = some ⟨vlanVid, value.value, value.mask⟩ ∧
      value = (laterVlan rule.matchFields).getD ⟨vidPresent vid, none⟩ := by
  have keys : ((portDict context.portNum rule.matchFields).map Prod.fst).Nodup :=
    nodup_portDict rule.keys
  have last := getLast?_setVlan ⟨vidPresent vid, none⟩ keys
  rw [laterVlan_portDict] at last
  obtain ⟨⟨key, value⟩, found, same⟩ := Option.map_eq_some_iff.mp last
  have isKind : key.number = vlanVid := by
    simpa using (List.mem_filter.mp (List.mem_of_getLast? found)).2
  refine ⟨value, ?_, same⟩
  rw [RuleConf.fieldAt, get_matchFromDict, RuleConf.matchDict, isVlan, vlanDict, found,
    Option.map_some, oxmField, isKind]

theorem setKey_of_mem {fields : List (MatchKey × FieldValue)} {key : MatchKey} {value : FieldValue}
    (keys : (fields.map Prod.fst).Nodup) (member : (key, value) ∈ fields) :
    setKey key value fields = fields := by
  induction fields with
  | nil => cases member
  | cons entry rest ih =>
      obtain ⟨fresh, keys⟩ := List.nodup_cons.mp keys
      rw [setKey]
      split
      next same =>
        rcases List.mem_cons.mp member with rfl | later
        · rfl
        · exact absurd (List.mem_map.mpr ⟨_, later, same.symm⟩) fresh
      next different =>
        rcases List.mem_cons.mp member with rfl | later
        · exact absurd rfl different
        · rw [ih keys later]

/-- What stands under the old name, after the new one, is the rule's own VLAN. -/
theorem own_of_laterVlan {value : FieldValue} (later : laterVlan rule.matchFields = some value) :
    (matchFromDict rule.matchFields).get vlanVid = some ⟨vlanVid, value.value, value.mask⟩ := by
  have new : ∃ written, (MatchKey.field vlanVid, written) ∈ rule.matchFields := by
    by_contra absent
    have none : rule.matchFields.dropWhile (·.1 ≠ .field vlanVid) = [] := by
      refine List.dropWhile_eq_nil_iff.mpr fun entry member => ?_
      refine decide_eq_true fun same => absent ⟨entry.2, same ▸ member⟩
    rw [laterVlan, none] at later
    cases later
  obtain ⟨written, member⟩ := new
  have last := getLast?_setVlan written rule.keys
  rw [setKey_of_mem rule.keys member, later] at last
  obtain ⟨⟨key, value'⟩, found, same⟩ := Option.map_eq_some_iff.mp last
  have isKind : key.number = vlanVid := by
    simpa using (List.mem_filter.mp (List.mem_of_getLast? found)).2
  rw [get_matchFromDict, found, Option.map_some, oxmField, isKind]
  exact congrArg _ (congrArg₂ (OxmField.mk vlanVid) (congrArg _ same) (congrArg _ same))

theorem mem_matchTypesOf {fields : Match} (present : fields.get kind = some found) :
    (kind, found.mask.isSome) ∈ matchTypesOf fields := by
  obtain ⟨member, rfl⟩ := Match.get_eq_some_iff.mp present
  exact List.mem_map.mpr ⟨found, member, rfl⟩

/-- **What is noted of a rule covers its flow at another place**, as long as the port
and the VLAN of the place are noted. A rule that is not applied to a VLAN has not been
built for one last. -/
theorem covers_of_noted (plain : rule.PlainPort) (lastVlan : context.vid = none → last.vid = none)
    (noted : ∀ entry ∈ matchTypesOf (matchFromDict (rule.matchDict last)),
      types.Covers entry.1 entry.2)
    (port : context.portNum ≠ none → types.Has inPort)
    (vlan : context.vid ≠ none → types.Has vlanVid)
    (present : rule.fieldAt context kind = some found) :
    types.Covers kind found.mask.isSome := by
  -- a field that is the rule's own at both places is noted as it is
  have own : ∀ found', rule.fieldAt last kind = some found' →
      found'.mask.isSome = found.mask.isSome → types.Covers kind found.mask.isSome := by
    intro found' present' same
    rw [← same]
    exact noted _ (mem_matchTypesOf present')
  by_cases isPort : kind = inPort
  · subst isPort
    have unmasked : found.mask.isSome = false := by
      cases portNum : context.portNum with
      | some port =>
          rw [fieldAt_port context portNum] at present
          cases present
          rfl
      | none =>
          rw [fieldAt_own (fun _ => portNum) (fun same => absurd same (by decide)),
            get_matchFromDict] at present
          obtain ⟨entry, last, rfl⟩ := Option.map_eq_some_iff.mp present
          have ⟨member, isKind⟩ := List.mem_filter.mp (List.mem_of_getLast? last)
          have unmasked := plain entry member (number_eq_inPort (by simpa using isKind))
          rw [oxmField, unmasked]
          rfl
    rw [unmasked]
    apply MatchTypes.Has.covers
    cases portNum : context.portNum with
    | some _ => exact port (by simp [portNum])
    | none =>
        cases lastPort : last.portNum with
        | some _ => exact (noted _ (mem_matchTypesOf (fieldAt_port last lastPort))).has
        | none =>
            have same : rule.fieldAt last inPort = (matchFromDict rule.matchFields).get inPort :=
              fieldAt_own (fun _ => lastPort) (fun same => absurd same (by decide))
            rw [fieldAt_own (fun _ => portNum) (fun same => absurd same (by decide)), ← same]
              at present
            exact (noted _ (mem_matchTypesOf present)).has
  · by_cases isVlan : kind = vlanVid
    · subst isVlan
      have notPort : vlanVid ≠ inPort := by decide
      cases vid : context.vid with
      | none =>
          rw [fieldAt_own (fun same => absurd same notPort) (fun _ => vid)] at present
          refine own found ?_ rfl
          rw [fieldAt_own (fun same => absurd same notPort) (fun _ => lastVlan vid)]
          exact present
      | some vid =>
          obtain ⟨value, built, same⟩ := fieldAt_vlan rule context vid
          cases built.symm.trans present
          cases later : laterVlan rule.matchFields with
          | none =>
              rw [later] at same
              subst same
              exact (vlan (by simp [vid])).covers
          | some value' =>
              rw [later] at same
              cases lastVid : last.vid with
              | none =>
                  refine own _ ?_ rfl
                  rw [fieldAt_own (fun same => absurd same notPort) (fun _ => lastVid), same]
                  exact own_of_laterVlan later
              | some vid' =>
                  obtain ⟨value'', built', same'⟩ := fieldAt_vlan rule last lastVid
                  rw [later] at same'
                  exact own _ built' (by rw [same, same']; rfl)
    · have both : rule.fieldAt last kind = rule.fieldAt context kind := by
        rw [fieldAt_own (fun same => absurd same isPort) (fun same => absurd same isVlan),
          fieldAt_own (fun same => absurd same isPort) (fun same => absurd same isVlan)]
      exact own found (both.trans present) rfl

end Fields

/-! ## Fields that are set -/

section FieldsSet

variable {table : AclTable} {inst before after : List Inst} {rule : RuleConf}
  {context context' : Context} {entry : AclEntry} {field : ℕ}

/-- Where a packet goes on does not matter for the fields that are set. -/
theorem fieldsSet_goto (target target' : ℕ) :
    fieldsSet (before ++ .gotoTable target :: after) =
      fieldsSet (before ++ .gotoTable target' :: after) := by
  simp [fieldsSet, Inst.isGoto, Inst.acts]

theorem exists_trimEach {gotoPresent : Bool}
    (configured : ∀ instr ∈ inst, ∀ field ∈ (trimAll gotoPresent instr.acts).filterMap Act.fieldSet,
      field ∈ table.setFields) :
    ∃ trimmed, table.trimEach gotoPresent inst = some trimmed := by
  induction inst with
  | nil => exact ⟨[], rfl⟩
  | cons instr rest ih =>
      obtain ⟨later, trims⟩ := ih fun other member => configured other (List.mem_cons_of_mem _ member)
      cases instr with
      | applyActions actions =>
          have own := configured _ List.mem_cons_self
          have apply_ : table.trimApply gotoPresent actions = some (trimAll gotoPresent actions) := by
            rw [AclTable.trimApply, trimAll]
            split
            next isLast =>
              rw [Inst.acts, trimAll, if_pos isLast] at own
              rw [AclTable.trimActions, if_pos]
              exact List.all_eq_true.mpr fun field member => by simpa using own field member
            next => rfl
          exact ⟨_, by rw [AclTable.trimEach, apply_, trims]; rfl⟩
      | meter id => exact ⟨.meter id :: later, by simp [AclTable.trimEach, trims]⟩
      | gotoTable id => exact ⟨.gotoTable id :: later, by simp [AclTable.trimEach, trims]⟩

/-- A flow has instructions when the fields that it sets are configured. -/
theorem exists_trimInst (configured : ∀ field ∈ fieldsSet inst, field ∈ table.setFields) :
    ∃ trimmed, table.trimInst inst = some trimmed := by
  rw [AclTable.trimInst]
  split
  next =>
    exact exists_trimEach fun instr member field isSet =>
      configured field (List.mem_flatMap.mpr ⟨instr, member, isSet⟩)
  next => exact ⟨inst, rfl⟩

/-- Another place changes where a packet goes on, but not the fields that are set. -/
theorem exists_entry (meters : context'.meters = context.meters)
    (tunnels : context'.tunnelRules = context.tunnelRules)
    (builds : buildAclEntry rule context = some entry) :
    ∃ entry', buildAclEntry rule context' = some entry' ∧
      fieldsSet entry'.inst = fieldsSet entry.inst := by
  obtain ⟨⟨inst, acts, ofmsgs⟩, built, rfl⟩ := Option.map_eq_some_iff.mp builds
  have other : ∃ inst', rule.build context' = some (inst', acts, ofmsgs) ∧
      ∀ rest, fieldsSet (inst' ++ rest) = fieldsSet (inst ++ rest) := by
    rw [RuleConf.build] at built ⊢
    split at built
    next =>
      cases built
      exact ⟨[], rfl, fun _ => rfl⟩
    next actions _ =>
      rw [Actions.build] at built ⊢
      have meter : actions.meterInst context' = actions.meterInst context := by
        rw [Actions.meterInst, Actions.meterInst, meters]
      have output : actions.outputResult context' = actions.outputResult context := by
        rw [Actions.outputResult, Actions.outputResult, tunnels]
      rw [meter, output]
      obtain ⟨meterInst, isMeter, built⟩ := Option.bind_eq_some_iff.mp built
      obtain ⟨result, isOutput, built⟩ := Option.bind_eq_some_iff.mp built
      rw [isMeter, isOutput]
      simp only [Option.bind_eq_bind, Option.bind_some]
      split at built
      next leaves =>
        cases built
        exact ⟨_, by rw [if_pos leaves], fun _ => rfl⟩
      next stays =>
        cases built
        refine ⟨_, by rw [if_neg stays], fun rest => ?_⟩
        split
        next =>
          simp only [Actions.allowInst, List.append_assoc, List.singleton_append]
          rw [← List.append_assoc, ← List.append_assoc]
          exact fieldsSet_goto _ _
        next => rfl
  obtain ⟨inst', built', same⟩ := other
  exact ⟨_, by rw [buildAclEntry, built']; rfl, same _⟩

end FieldsSet

/-! ## Builds -/

section Builds

variable {context : Context} {built built' : Built} {rules : List RuleConf} {rule : RuleConf}
  {exits : List (List OutputAction)} {acl : AccessList} {meters : Meters} {vid : Option ℕ}
  {portNum : Option PortNo} {field : ℕ} {masked : Bool}

/-- What is remembered stays so. -/
structure Keeps (built built' : Built) : Prop where
  covers : ∀ {field masked}, built.matchTypes.Covers field masked →
    built'.matchTypes.Covers field masked
  setFields : built.setFields ⊆ built'.setFields

theorem Keeps.rfl_ : Keeps built built := ⟨id, List.Subset.refl _⟩

theorem Keeps.trans {next : Built} (first : Keeps built built') (second : Keeps built' next) :
    Keeps built next :=
  ⟨fun covers => second.covers (first.covers covers), List.Subset.trans first.setFields second.setFields⟩

theorem keeps_noteFlow {fields : Match} {inst : List Inst} :
    Keeps built (built.noteFlow fields inst) :=
  ⟨MatchTypes.covers_noteAll, List.subset_append_left _ _⟩

/-- The flow of a rule is remembered. -/
structure Remembers (built : Built) (context : Context) (rule : RuleConf) (entry : AclEntry) :
    Prop where
  builds : buildAclEntry rule context = some entry
  fields : ∀ noted ∈ matchTypesOf (matchFromDict (rule.matchDict context)),
    built.matchTypes.Covers noted.1 noted.2
  setFields : fieldsSet entry.inst ⊆ built.setFields

theorem matchFields_eq {entry : AclEntry} (builds : buildAclEntry rule context = some entry) :
    entry.matchFields = matchFromDict (rule.matchDict context) := by
  obtain ⟨_, _, rfl⟩ := Option.map_eq_some_iff.mp builds
  rfl

theorem noteRules_spec (noted : AccessList.noteRules context built rules = some built') :
    Keeps built built' ∧ ∀ rule ∈ rules, ∃ entry, Remembers built' context rule entry := by
  induction rules generalizing built with
  | nil =>
      cases noted
      exact ⟨.rfl_, fun rule member => absurd member List.not_mem_nil⟩
  | cons first rest ih =>
      rw [AccessList.noteRules] at noted
      obtain ⟨entry, builds, noted⟩ := Option.bind_eq_some_iff.mp noted
      obtain ⟨keeps, later⟩ := ih noted
      refine ⟨keeps_noteFlow.trans keeps, fun rule member => ?_⟩
      rcases List.mem_cons.mp member with rfl | member
      · refine ⟨entry, builds, fun note listed => keeps.covers ?_,
          List.Subset.trans (List.subset_append_right _ _) keeps.setFields⟩
        rw [← matchFields_eq builds] at listed
        exact MatchTypes.covers_noteAll_of_mem listed
      · exact later rule member

/-- A field is noted just when a flow has it. -/
theorem has_noteRules (noted : AccessList.noteRules context built rules = some built') :
    built'.matchTypes.Has field ↔ built.matchTypes.Has field ∨
      ∃ rule ∈ rules, (rule.fieldAt context field).isSome = true := by
  induction rules generalizing built with
  | nil =>
      cases noted
      simp
  | cons first rest ih =>
      rw [AccessList.noteRules] at noted
      obtain ⟨entry, builds, noted⟩ := Option.bind_eq_some_iff.mp noted
      have own : (∃ note ∈ matchTypesOf entry.matchFields, note.1 = field) ↔
          (first.fieldAt context field).isSome = true := by
        rw [matchFields_eq builds, RuleConf.fieldAt, Option.isSome_iff_exists]
        constructor
        · rintro ⟨_, listed, rfl⟩
          obtain ⟨found, member, rfl⟩ := List.mem_map.mp listed
          exact ⟨found, Match.get_eq_some_iff.mpr ⟨member, rfl⟩⟩
        · rintro ⟨found, present⟩
          exact ⟨_, mem_matchTypesOf present, rfl⟩
      rw [ih noted, Built.noteFlow, MatchTypes.has_noteAll, own]
      simp only [List.mem_cons, exists_eq_or_imp, or_assoc]

theorem noteExits_spec (noted : AccessList.noteExits built exits = some built') :
    Keeps built built' ∧ ∀ field ≠ Pipeline.vlanPcp,
      built'.matchTypes.Has field → built.matchTypes.Has field := by
  induction exits generalizing built with
  | nil =>
      cases noted
      exact ⟨.rfl_, fun _ _ => id⟩
  | cons first rest ih =>
      rw [AccessList.noteExits] at noted
      obtain ⟨output, _, noted⟩ := Option.bind_eq_some_iff.mp noted
      obtain ⟨keeps, noMore⟩ := ih noted
      refine ⟨keeps_noteFlow.trans keeps, fun field other has => ?_⟩
      rcases MatchTypes.has_noteAll.mp (noMore field other has) with has | ⟨note, listed, rfl⟩
      · exact has
      · cases List.mem_singleton.mp listed
        exact absurd rfl other

theorem build_spec (builds : acl.build meters vid portNum = some built) :
    (∀ rule ∈ acl.conf.rules,
      ∃ entry, Remembers built (AccessList.buildContext meters vid portNum) rule entry) ∧
      ∀ field ≠ Pipeline.vlanPcp, built.matchTypes.Has field →
        ∃ rule ∈ acl.conf.rules,
          (rule.fieldAt (AccessList.buildContext meters vid portNum) field).isSome = true := by
  rw [AccessList.build] at builds
  split at builds
  next =>
    obtain ⟨noted, isNoted, exits⟩ := Option.bind_eq_some_iff.mp builds
    obtain ⟨keeps, noMore⟩ := noteExits_spec exits
    constructor
    · intro rule member
      obtain ⟨entry, remembers⟩ := (noteRules_spec isNoted).2 rule member
      exact ⟨entry, remembers.builds, fun note listed => keeps.covers (remembers.fields note listed),
        List.Subset.trans remembers.setFields keeps.setFields⟩
    · intro field other has
      rcases (has_noteRules isNoted).mp (noMore field other has) with ⟨_, none⟩ | found
      · cases none
      · exact found
  next => cases builds

end Builds

end Faucet.Acl
