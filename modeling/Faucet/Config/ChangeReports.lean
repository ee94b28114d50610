import Faucet.Config.ChangeDetection

/-!
# What is reported as a change

Two settings are printed alike exactly when they are `Alike`: entry by entry, without the null ones,
with nothing to tell apart what the string form does not know. As texts of different settings differ
(`PyRepr.repr_injective`) and the hash does, two objects are reported to be the same exactly
when their settings are alike.
-/

set_option autoImplicit false

namespace Faucet.Config.Changes

open OrderedDict
open PyRepr (Literal repr_injective)

variable {H : Type}

/-! ## What a setting looks like -/

/-- A value as it is seen: with its parts that are seen, or hidden. -/
inductive Shape (H : Type) where
  | hidden
  | bool (value : Bool)
  | int (value : ℤ)
  | text (text : String)
  | sequence (values : List (Value H))
  | mapping (entries : List (String × Value H))

/-- The entries of a dictionary that are seen, by the texts of their keys. -/
def seenEntries (entries : List (Scalar × Value H)) : List (String × Value H) :=
  values Prod.fst ((entries.filter fun entry => !entry.2.isNull).map fun entry =>
    (entry.1.text, entry.2))

/-- The outermost form of a value. -/
def Value.shape : Value H → Shape H
  | .scalar (.bool value) => .bool value
  | .scalar (.int value) => .int value
  | .scalar (.str text) | .scalar (.address _ text) => .text text
  | .list values | .tuple values | .frozenset values =>
      .sequence (values.filter fun value => !value.isNull)
  | .dict entries => .mapping (seenEntries entries)
  | .conf (.int value) _ _ => .int value
  | .conf (.str text) _ _ => .text text
  | .conf .null _ _ | .scalar _ | .bytes _ | .bytearray _ | .set _ => .hidden

mutual

/-- Values that look alike: both hidden, or the same, or with parts that look alike. -/
inductive Alike : Value H → Value H → Prop
  | hidden {value value' : Value H} : value.shape = .hidden → value'.shape = .hidden →
      Alike value value'
  | bool {value value' : Value H} {truth : Bool} : value.shape = .bool truth →
      value'.shape = .bool truth → Alike value value'
  | int {value value' : Value H} {number : ℤ} : value.shape = .int number →
      value'.shape = .int number → Alike value value'
  | text {value value' : Value H} {text : String} : value.shape = .text text →
      value'.shape = .text text → Alike value value'
  | sequence {value value' : Value H} {values values' : List (Value H)} :
      value.shape = .sequence values → value'.shape = .sequence values' →
      AlikeAll values values' → Alike value value'
  | mapping {value value' : Value H} {entries entries' : List (String × Value H)} :
      value.shape = .mapping entries → value'.shape = .mapping entries' →
      AlikeEntries entries entries' → Alike value value'

/-- Lists are alike element by element. -/
inductive AlikeAll : List (Value H) → List (Value H) → Prop
  | nil : AlikeAll [] []
  | cons {value value' : Value H} {rest rest' : List (Value H)} : Alike value value' →
      AlikeAll rest rest' → AlikeAll (value :: rest) (value' :: rest')

/-- The same keys in the same order. -/
inductive AlikeEntries : List (String × Value H) → List (String × Value H) → Prop
  | nil : AlikeEntries [] []
  | cons {key : String} {value value' : Value H} {rest rest' : List (String × Value H)} :
      Alike value value' → AlikeEntries rest rest' →
      AlikeEntries ((key, value) :: rest) ((key, value') :: rest')

end

/-! ## What is printed -/

theorem strConfs_eq (values : List (Value H)) :
    strConfs values = (values.filter fun value => !value.isNull).map strConf := by
  induction values with
  | nil => rfl
  | cons value rest ih =>
      rw [strConfs, ih]
      cases isNull : value.isNull with
      | true => simp [isNull]
      | false => simp [isNull]

theorem strEntries_eq (entries : List (Scalar × Value H)) :
    strEntries entries = ((entries.filter fun entry => !entry.2.isNull).map fun entry =>
      (entry.1.text, entry.2)).map fun entry => (entry.1, strConf entry.2) := by
  induction entries with
  | nil => rfl
  | cons entry rest ih =>
      obtain ⟨key, value⟩ := entry
      rw [strEntries, ih]
      cases isNull : value.isNull with
      | true => simp [isNull]
      | false => simp [isNull]

theorem strConf_eq (value : Value H) : strConf value =
    match value.shape with
    | .hidden => .none
    | .bool truth => .bool truth
    | .int number => .int number
    | .text text => .str text
    | .sequence values => .tuple (values.map strConf)
    | .mapping entries => .dict (entries.map fun entry => (entry.1, strConf entry.2)) := by
  cases value with
  | scalar scalar => cases scalar <;> rfl
  | list values => rw [strConf, strConfs_eq]; rfl
  | tuple values => rw [strConf, strConfs_eq]; rfl
  | frozenset values => rw [strConf, strConfs_eq]; rfl
  | dict entries =>
      rw [strConf, strEntries_eq, values_map]
      rfl
  | conf label hash origConf => cases label <;> rfl
  | bytes data => rfl
  | bytearray data => rfl
  | set elements => rfl

mutual

theorem strConf_of_alike : ∀ {value value' : Value H}, Alike value value' →
    strConf value = strConf value'
  | _, _, .hidden shape shape' => by rw [strConf_eq, strConf_eq, shape, shape']
  | _, _, .bool shape shape' => by rw [strConf_eq, strConf_eq, shape, shape']
  | _, _, .int shape shape' => by rw [strConf_eq, strConf_eq, shape, shape']
  | _, _, .text shape shape' => by rw [strConf_eq, strConf_eq, shape, shape']
  | value, value', .sequence shape shape' all => by
      rw [strConf_eq value, strConf_eq value', shape, shape']
      dsimp only
      rw [strConf_of_alikeAll all]
  | value, value', .mapping shape shape' entries => by
      rw [strConf_eq value, strConf_eq value', shape, shape']
      dsimp only
      rw [strConf_of_alikeEntries entries]

theorem strConf_of_alikeAll : ∀ {values values' : List (Value H)}, AlikeAll values values' →
    values.map strConf = values'.map strConf
  | _, _, .nil => rfl
  | _, _, .cons first rest => by
      rw [List.map_cons, List.map_cons, strConf_of_alike first, strConf_of_alikeAll rest]

theorem strConf_of_alikeEntries : ∀ {entries entries' : List (String × Value H)},
    AlikeEntries entries entries' →
      entries.map (fun entry => (entry.1, strConf entry.2)) =
        entries'.map fun entry => (entry.1, strConf entry.2)
  | _, _, .nil => rfl
  | _, _, .cons first rest => by
      rw [List.map_cons, List.map_cons, strConf_of_alike first, strConf_of_alikeEntries rest]

end

/-! ## What is printed alike -/

theorem sizeOf_lt_of_sequence {value part : Value H} {values : List (Value H)}
    (shape : value.shape = .sequence values) (member : part ∈ values) :
    sizeOf part < sizeOf value := by
  have inside : ∀ all : List (Value H), values = (all.filter fun value => !value.isNull) →
      sizeOf part < sizeOf all := by
    rintro all rfl
    exact List.sizeOf_lt_of_mem (List.mem_filter.mp member).1
  cases value with
  | list all =>
      have smaller := inside all (Shape.sequence.inj shape).symm
      simp only [Value.list.sizeOf_spec]
      omega
  | tuple all =>
      have smaller := inside all (Shape.sequence.inj shape).symm
      simp only [Value.tuple.sizeOf_spec]
      omega
  | frozenset all =>
      have smaller := inside all (Shape.sequence.inj shape).symm
      simp only [Value.frozenset.sizeOf_spec]
      omega
  | scalar scalar => cases scalar <;> cases shape
  | conf label hash origConf => cases label <;> cases shape
  | _ => cases shape

theorem sizeOf_lt_of_mapping {value part : Value H} {key : String}
    {entries : List (String × Value H)} (shape : value.shape = .mapping entries)
    (member : (key, part) ∈ entries) : sizeOf part < sizeOf value := by
  cases value with
  | dict all =>
      rw [← Shape.mapping.inj shape] at member
      obtain ⟨⟨scalar, part'⟩, inside, same⟩ := List.mem_map.mp (mem_of_mem_values member)
      cases same
      have smaller := List.sizeOf_lt_of_mem (List.mem_filter.mp inside).1
      simp only [Prod.mk.sizeOf_spec] at smaller
      simp only [Value.dict.sizeOf_spec]
      omega
  | scalar scalar => cases scalar <;> cases shape
  | conf label hash origConf => cases label <;> cases shape
  | _ => cases shape

theorem alikeAll_of_map {values values' : List (Value H)}
    (parts : ∀ value ∈ values, ∀ value', strConf value = strConf value' → Alike value value')
    (same : values.map strConf = values'.map strConf) : AlikeAll values values' := by
  induction values generalizing values' with
  | nil =>
      cases values' with
      | nil => exact .nil
      | cons => cases same
  | cons value rest ih =>
      cases values' with
      | nil => cases same
      | cons value' rest' =>
          obtain ⟨first, later⟩ := List.cons.inj same
          obtain ⟨head, others⟩ := List.forall_mem_cons.mp parts
          exact .cons (head value' first) (ih others later)

theorem alikeEntries_of_map {entries entries' : List (String × Value H)}
    (parts : ∀ entry ∈ entries, ∀ value', strConf entry.2 = strConf value' → Alike entry.2 value')
    (same : entries.map (fun entry => (entry.1, strConf entry.2)) =
      entries'.map fun entry => (entry.1, strConf entry.2)) : AlikeEntries entries entries' := by
  induction entries generalizing entries' with
  | nil =>
      cases entries' with
      | nil => exact .nil
      | cons => cases same
  | cons entry rest ih =>
      cases entries' with
      | nil => cases same
      | cons entry' rest' =>
          obtain ⟨first, later⟩ := List.cons.inj same
          obtain ⟨head, others⟩ := List.forall_mem_cons.mp parts
          obtain ⟨key, value⟩ := entry
          obtain ⟨key', value'⟩ := entry'
          obtain ⟨rfl, sameValue⟩ := Prod.mk.inj first
          exact .cons (head value' sameValue) (ih others later)

theorem alike_of_strConf (value value' : Value H) (same : strConf value = strConf value') :
    Alike value value' := by
  have sameShapes := same
  rw [strConf_eq value, strConf_eq value'] at sameShapes
  cases shape : value.shape with
  | hidden =>
      cases shape' : value'.shape with
      | hidden => exact .hidden shape shape'
      | _ => rw [shape, shape'] at sameShapes; cases sameShapes
  | bool truth =>
      cases shape' : value'.shape with
      | bool truth' =>
          rw [shape, shape'] at sameShapes
          cases sameShapes
          exact .bool shape shape'
      | _ => rw [shape, shape'] at sameShapes; cases sameShapes
  | int number =>
      cases shape' : value'.shape with
      | int number' =>
          rw [shape, shape'] at sameShapes
          cases sameShapes
          exact .int shape shape'
      | _ => rw [shape, shape'] at sameShapes; cases sameShapes
  | text text =>
      cases shape' : value'.shape with
      | text text' =>
          rw [shape, shape'] at sameShapes
          cases sameShapes
          exact .text shape shape'
      | _ => rw [shape, shape'] at sameShapes; cases sameShapes
  | sequence values =>
      cases shape' : value'.shape with
      | sequence values' =>
          rw [shape, shape'] at sameShapes
          exact .sequence shape shape' (alikeAll_of_map (fun part member value' same =>
            have smaller := sizeOf_lt_of_sequence shape member
            alike_of_strConf part value' same) (Literal.tuple.inj sameShapes))
      | _ => rw [shape, shape'] at sameShapes; cases sameShapes
  | mapping entries =>
      cases shape' : value'.shape with
      | mapping entries' =>
          rw [shape, shape'] at sameShapes
          exact .mapping shape shape' (alikeEntries_of_map (fun entry member value' same =>
            have smaller := sizeOf_lt_of_mapping shape member
            alike_of_strConf entry.2 value' same) (Literal.dict.inj sameShapes))
      | _ => rw [shape, shape'] at sameShapes; cases sameShapes
termination_by sizeOf value

/-- **Values are printed alike exactly when they look alike.** -/
theorem strConf_eq_iff {value value' : Value H} : strConf value = strConf value' ↔
    Alike value value' := ⟨alike_of_strConf value value', strConf_of_alike⟩

end Faucet.Config.Changes
