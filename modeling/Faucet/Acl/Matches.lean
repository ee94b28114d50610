import Faucet.Acl.Rules

/-!
# What the rules match

A rule that is applied to a port or to a VLAN is meant to match it, whatever the rule
itself has to say about the port or the VLAN (`RuleConf.intended`). The builder writes
the value under the key of the field. For the VLAN there is an old name too: where it
stands after the new one, it is what remains, and the rule matches another VLAN
(`matchDict_intended_iff`).
-/

set_option autoImplicit false

namespace Faucet.OpenFlow.Match

/-! ## The field of a kind -/

variable {fields fields' : Match} {field member : OxmField} {kind : ℕ}

/-- The field of this kind, if the match has one. -/
def get (fields : Match) (kind : ℕ) : Option OxmField := fields.items.find? (·.field == kind)

theorem get_eq_some_iff : fields.get kind = some member ↔
    member ∈ fields.items ∧ member.field = kind := by
  rw [get]
  constructor
  · intro found
    exact ⟨List.mem_of_find?_eq_some found, by simpa using List.find?_some found⟩
  · rintro ⟨present, same⟩
    have exists_ : (fields.items.find? (·.field == kind)).isSome :=
      List.find?_isSome.mpr ⟨member, present, by rw [same, beq_self_eq_true]⟩
    obtain ⟨other, found⟩ := Option.isSome_iff_exists.mp exists_
    have same' : other.field = kind := by simpa using List.find?_some found
    rw [found, eq_of_field (List.mem_of_find?_eq_some found) present (same'.trans same.symm)]

/-- Matches with the same fields are equal. -/
theorem ext_get (same : ∀ kind, fields.get kind = fields'.get kind) : fields = fields' := by
  have strict : ∀ first later : OxmField, first.field < later.field → first ≠ later := by
    rintro first _ before rfl
    exact Nat.lt_irrefl _ before
  have mem_iff : ∀ member, member ∈ fields.items ↔ member ∈ fields'.items := by
    intro member
    have first : fields.get member.field = some member ↔ _ := get_eq_some_iff
    have second : fields'.get member.field = some member ↔ _ := get_eq_some_iff
    rw [same, second] at first
    simpa using first.symm
  have perm : fields.items.Perm fields'.items :=
    (List.perm_ext_iff_of_nodup (fields.sorted.imp (strict _ _)) (fields'.sorted.imp (strict _ _))).mpr
      mem_iff
  obtain ⟨items, sorted⟩ := fields
  obtain ⟨items', sorted'⟩ := fields'
  have equal : items = items' := perm.eq_of_pairwise
    (fun first later _ _ before after => absurd before (Nat.lt_asymm after)) sorted sorted'
  subst equal
  rfl

theorem get_set : (fields.set field).get kind =
    if field.field = kind then some field else fields.get kind := by
  split
  next same => exact get_eq_some_iff.mpr ⟨mem_set_self, same⟩
  next other =>
    refine Option.ext fun member => ?_
    rw [get_eq_some_iff, get_eq_some_iff, mem_set]
    constructor
    · rintro ⟨rfl | ⟨present, _⟩, same⟩
      · exact absurd same other
      · exact ⟨present, same⟩
    · rintro ⟨present, same⟩
      exact ⟨.inr ⟨present, fun equal => other (equal.symm.trans same)⟩, same⟩

/-- Of several fields of one kind the last one stays. -/
theorem get_ofFields {added : List OxmField} :
    (ofFields added).get kind = (added.filter (·.field == kind)).getLast? := by
  induction added using List.reverseRecOn with
  | nil => rfl
  | append_singleton earlier last ih =>
      rw [ofFields, List.foldl_concat, ← ofFields, get_set, ih, List.filter_append]
      split
      next same => simp [same]
      next other => simp [other]

end Faucet.OpenFlow.Match

namespace Faucet.Acl

open OpenFlow

/-! ## Keys of a rule -/

section Keys

variable {fields : List (MatchKey × FieldValue)} {key : MatchKey} {value : FieldValue} {kind : ℕ}

/-- What the match has of a kind. -/
theorem get_matchFromDict : (matchFromDict fields).get kind =
    ((fields.filter (·.1.number == kind)).getLast?).map oxmField := by
  rw [matchFromDict, Match.get_ofFields, List.filter_map, ← List.getLast?_map]
  rfl

/-- Another kind is not concerned. -/
theorem filter_setKey (other : key.number ≠ kind) :
    (setKey key value fields).filter (·.1.number == kind) =
      fields.filter (·.1.number == kind) := by
  have passed : (key.number == kind) = false := by simpa using other
  induction fields with
  | nil => simp [setKey, passed]
  | cons entry rest ih =>
      rw [setKey]
      split
      next same => simp [passed, same]
      next => simp only [List.filter_cons, ih]

/-- A kind with one key has the value that is written under it. -/
theorem filter_setKey_own (own : key.number = kind)
    (only : ∀ entry ∈ fields, entry.1.number = kind → entry.1 = key)
    (keys : (fields.map Prod.fst).Nodup) :
    (setKey key value fields).filter (·.1.number == kind) = [(key, value)] := by
  induction fields with
  | nil => simp [setKey, own]
  | cons entry rest ih =>
      obtain ⟨fresh, keys⟩ := List.nodup_cons.mp keys
      have only' : ∀ other ∈ rest, other.1.number = kind → other.1 = key :=
        fun other member => only other (List.mem_cons_of_mem _ member)
      rw [setKey]
      split
      next same =>
        have none : rest.filter (·.1.number == kind) = [] := by
          refine List.filter_eq_nil_iff.mpr fun other member isKind => fresh ?_
          rw [same, ← only' other member (by simpa using isKind)]
          exact List.mem_map.mpr ⟨other, member, rfl⟩
        rw [List.filter_cons, if_pos (by simp [own]), none]
      next different =>
        have passed : ¬ (entry.1.number == kind) = true := by
          intro isKind
          exact different (only entry List.mem_cons_self (by simpa using isKind))
        rw [List.filter_cons, if_neg passed, ih only' keys]

/-- The keys of the VLAN. -/
theorem number_eq_vlanVid (isVlan : key.number = vlanVid) : key = .field vlanVid ∨ key = .dlVlan := by
  cases key with
  | field number => exact .inl (congrArg _ isVlan)
  | dlVlan => exact .inr rfl
  | _ => cases isVlan

theorem number_eq_inPort (isPort : key.number = inPort) : key = .field inPort := by
  cases key with
  | field number => exact congrArg _ isPort
  | _ => cases isPort

end Keys

/-! ## Where a rule is applied -/

/-- The match, with a port. -/
def portMatch (portNum : Option PortNo) (fields : Match) : Match :=
  match portNum with
  | none => fields
  | some port => fields.set ⟨inPort, port, none⟩

/-- The match, with a VLAN. -/
def vlanMatch (vid : Option ℕ) (fields : Match) : Match :=
  match vid with
  | none => fields
  | some vid => fields.set ⟨vlanVid, vidPresent vid, none⟩

/-- The match with the port and the VLAN where rules are applied. -/
def Context.placed (context : Context) (fields : Match) : Match :=
  vlanMatch context.vid (portMatch context.portNum fields)

/-- All packets of the place. -/
def Context.place (context : Context) : Match := context.placed .any

/-- The match of the rule, with the port and the VLAN that it is applied to. -/
def RuleConf.intended (rule : RuleConf) (context : Context) : Match :=
  context.placed (matchFromDict rule.matchFields)

/-- What the rule has under `dl_vlan`, if that stands after `vlan_vid`. -/
def laterVlan (fields : List (MatchKey × FieldValue)) : Option FieldValue :=
  ((fields.dropWhile (·.1 ≠ .field vlanVid)).find? (·.1 = .dlVlan)).map Prod.snd

/-- Without its new name the VLAN is under the old one, if at all. -/
theorem filter_dlVlan {fields : List (MatchKey × FieldValue)}
    (keys : (fields.map Prod.fst).Nodup) (absent : .field vlanVid ∉ fields.map Prod.fst) :
    fields.filter (·.1.number == vlanVid) = (fields.find? (·.1 = .dlVlan)).toList := by
  induction fields with
  | nil => rfl
  | cons entry rest ih =>
      obtain ⟨fresh, keys⟩ := List.nodup_cons.mp keys
      rw [List.map_cons, List.mem_cons, not_or] at absent
      rw [List.filter_cons, List.find?_cons]
      by_cases old : entry.1 = .dlVlan
      · have none : rest.filter (·.1.number == vlanVid) = [] := by
          refine List.filter_eq_nil_iff.mpr fun other member isVlan => ?_
          have listed : other.1 ∈ rest.map Prod.fst := List.mem_map.mpr ⟨other, member, rfl⟩
          rcases number_eq_vlanVid (by simpa using isVlan) with new | again
          · exact absent.2 (new ▸ listed)
          · exact fresh (old.trans again.symm ▸ listed)
        rw [none]
        simp [old, MatchKey.number]
      · have other : ¬ (entry.1.number == vlanVid) = true := by
          intro isVlan
          rcases number_eq_vlanVid (by simpa using isVlan) with new | again
          · exact absent.1 new.symm
          · exact old again
        rw [if_neg other, ih keys absent.2]
        simp [old]

/-- The VLAN is under its old name, if that stands last, and else what is written. -/
theorem getLast?_setVlan {fields : List (MatchKey × FieldValue)} (value : FieldValue)
    (keys : (fields.map Prod.fst).Nodup) :
    ((setKey (.field vlanVid) value fields).filter (·.1.number == vlanVid)).getLast?.map Prod.snd =
      some ((laterVlan fields).getD value) := by
  induction fields with
  | nil => rfl
  | cons entry rest ih =>
      obtain ⟨fresh, keys⟩ := List.nodup_cons.mp keys
      rw [setKey, laterVlan, List.dropWhile_cons]
      split
      next same =>
        have later := filter_dlVlan keys (same ▸ fresh)
        have notOld : ¬ entry.1 = .dlVlan := by
          rw [same]
          exact MatchKey.noConfusion
        rw [List.filter_cons, if_pos (by rfl), later, if_neg (by simp [same]), List.find?_cons]
        simp only [notOld, decide_false]
        cases rest.find? (·.1 = .dlVlan) <;> rfl
      next different =>
        have passed := ih keys
        rw [laterVlan] at passed
        have some_set : (setKey (.field vlanVid) value rest).filter (·.1.number == vlanVid) ≠ [] := by
          intro empty
          rw [empty] at passed
          cases passed
        rw [if_pos (by simpa using different), List.filter_cons]
        split
        next =>
          rw [← passed, List.getLast?_cons_of_ne_nil some_set]
        next => exact passed

/-- The rule does not match another VLAN than the one that it is applied to. -/
def RuleConf.OwnVlan (rule : RuleConf) (context : Context) : Prop :=
  ∀ vid ∈ context.vid, ∀ value ∈ laterVlan rule.matchFields, value = ⟨vidPresent vid, none⟩

/-! ## The match that is built -/

section Built

variable {fields : List (MatchKey × FieldValue)} {value : FieldValue}

theorem matchFromDict_setPort (keys : (fields.map Prod.fst).Nodup) :
    matchFromDict (setKey (.field inPort) value fields) =
      (matchFromDict fields).set ⟨inPort, value.value, value.mask⟩ := by
  refine Match.ext_get fun kind => ?_
  rw [get_matchFromDict, Match.get_set]
  dsimp only
  split
  next same =>
    have isKind : (MatchKey.field inPort).number = kind := same
    rw [filter_setKey_own isKind (fun entry _ isPort => number_eq_inPort (isPort.trans same.symm)) keys]
    rfl
  next other =>
    have notKind : (MatchKey.field inPort).number ≠ kind := other
    rw [filter_setKey notKind, ← get_matchFromDict]

/-- The VLAN is what is written, unless another one stands under the old name. -/
theorem matchFromDict_setVlan_iff (value : FieldValue) (keys : (fields.map Prod.fst).Nodup) :
    matchFromDict (setKey (.field vlanVid) value fields) =
        (matchFromDict fields).set ⟨vlanVid, value.value, value.mask⟩ ↔
      ∀ later ∈ laterVlan fields, later = value := by
  have last := getLast?_setVlan value keys
  obtain ⟨⟨key, written⟩, found, isLast⟩ := Option.map_eq_some_iff.mp last
  have isVlan : key.number = vlanVid := by
    have member := List.mem_of_getLast? found
    simpa using (List.mem_filter.mp member).2
  have built : (matchFromDict (setKey (.field vlanVid) value fields)).get vlanVid =
      some ⟨vlanVid, written.value, written.mask⟩ := by
    rw [get_matchFromDict, found, Option.map_some, oxmField, isVlan]
  have same_iff : matchFromDict (setKey (.field vlanVid) value fields) =
      (matchFromDict fields).set ⟨vlanVid, value.value, value.mask⟩ ↔ written = value := by
    constructor
    · intro same
      rw [same, Match.get_set, if_pos rfl, Option.some.injEq, OxmField.mk.injEq] at built
      obtain ⟨_, sameValue, sameMask⟩ := built
      cases written
      cases value
      cases sameValue
      cases sameMask
      rfl
    · rintro rfl
      refine Match.ext_get fun kind => ?_
      rw [Match.get_set]
      dsimp only
      split
      next same => rw [← same, built]
      next other =>
        have notKind : (MatchKey.field vlanVid).number ≠ kind := other
        rw [get_matchFromDict, filter_setKey notKind, ← get_matchFromDict]
  have isLater : written = (laterVlan fields).getD value := isLast
  rw [same_iff, isLater]
  cases laterVlan fields <;> simp

theorem map_fst_setKey {key : MatchKey} :
    (setKey key value fields).map Prod.fst =
      if key ∈ fields.map Prod.fst then fields.map Prod.fst else fields.map Prod.fst ++ [key] := by
  induction fields with
  | nil => rfl
  | cons entry rest ih =>
      rw [setKey]
      by_cases same : entry.1 = key
      · simp [same]
      · rw [if_neg same, List.map_cons, ih, List.map_cons]
        split <;> simp_all [eq_comm]

theorem nodup_setKey {key : MatchKey} (keys : (fields.map Prod.fst).Nodup) :
    ((setKey key value fields).map Prod.fst).Nodup := by
  rw [map_fst_setKey]
  split
  next => exact keys
  next fresh =>
    refine List.nodup_append.mpr ⟨keys, List.nodup_singleton _, ?_⟩
    rintro first present later listed rfl
    cases List.mem_singleton.mp listed
    exact fresh present

theorem find?_setPort : (setKey (.field inPort) value fields).find? (·.1 = .dlVlan) =
    fields.find? (·.1 = .dlVlan) := by
  induction fields with
  | nil => rfl
  | cons entry rest ih =>
      rw [setKey]
      split
      next same => simp [same]
      next => rw [List.find?_cons, List.find?_cons, ih]

theorem laterVlan_setPort : laterVlan (setKey (.field inPort) value fields) = laterVlan fields := by
  have apart : MatchKey.field inPort ≠ .field vlanVid := by
    intro same
    cases same
  induction fields with
  | nil => rfl
  | cons entry rest ih =>
      rw [setKey]
      split
      next same =>
        rw [laterVlan, laterVlan, List.dropWhile_cons, List.dropWhile_cons,
          if_pos (by simpa using apart), if_pos (by simpa [same] using apart)]
      next =>
        rw [laterVlan, laterVlan] at ih
        rw [laterVlan, laterVlan, List.dropWhile_cons, List.dropWhile_cons]
        split
        next => exact ih
        next => rw [List.find?_cons, List.find?_cons, find?_setPort]

theorem matchFromDict_portDict {portNum : Option PortNo} (keys : (fields.map Prod.fst).Nodup) :
    matchFromDict (portDict portNum fields) = portMatch portNum (matchFromDict fields) := by
  cases portNum with
  | none => rfl
  | some port => exact matchFromDict_setPort keys

theorem nodup_portDict {portNum : Option PortNo} (keys : (fields.map Prod.fst).Nodup) :
    ((portDict portNum fields).map Prod.fst).Nodup := by
  cases portNum with
  | none => exact keys
  | some port => exact nodup_setKey keys

theorem laterVlan_portDict {portNum : Option PortNo} :
    laterVlan (portDict portNum fields) = laterVlan fields := by
  cases portNum with
  | none => rfl
  | some port => exact laterVlan_setPort

end Built

/-- **A rule matches what it is meant to where it is applied**, unless it names another
VLAN under the old name, after the new one. -/
theorem matchDict_intended_iff {rule : RuleConf} {context : Context} :
    matchFromDict (rule.matchDict context) = rule.intended context ↔ rule.OwnVlan context := by
  rw [RuleConf.matchDict, RuleConf.intended, Context.placed, RuleConf.OwnVlan,
    ← matchFromDict_portDict rule.keys]
  cases context.vid with
  | none => simp [vlanDict, vlanMatch]
  | some vid =>
      have keys : ((portDict context.portNum rule.matchFields).map Prod.fst).Nodup :=
        nodup_portDict rule.keys
      have built := matchFromDict_setVlan_iff ⟨vidPresent vid, none⟩ keys
      rw [laterVlan_portDict] at built
      simpa [vlanDict, vlanMatch] using built

end Faucet.Acl
