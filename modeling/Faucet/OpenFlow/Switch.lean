import Mathlib

/-!
# OpenFlow messages and the tables of a switch

The messages that the builders make, and what the switch does with them.

What a message does to a flow depends on that flow alone, so it is given flow by
flow (`FlowMod.step`), and the same for groups and meters. A table is a function
from the identity of an entry to the entry, if there is one. An entry of one
table that refers to an entry of another is not followed.
-/

set_option autoImplicit false

namespace Faucet.OpenFlow

/-! ## Matches -/

/-- One field of a match; without a mask it is exact. -/
structure OxmField where
  field : Nat
  value : Nat
  mask : Option Nat
deriving DecidableEq, Repr

/-- The packets that have the fields of the second as well have those of the first. -/
def OxmField.covers (wide narrow : OxmField) : Bool :=
  wide.field == narrow.field &&
    match wide.mask, narrow.mask with
    | none, none => wide.value == narrow.value
    | none, some _ => false
    | some mask, none => narrow.value &&& mask == wide.value &&& mask
    | some mask, some narrowMask =>
        mask &&& narrowMask == mask && narrow.value &&& mask == wide.value &&& mask

/-- An `OFPMatch`, which keeps its fields in order. -/
structure Match where
  items : List OxmField
  sorted : items.Pairwise fun first second => first.field < second.field
deriving DecidableEq

namespace Match

/-- The match without fields. -/
def any : Match := ⟨[], .nil⟩

/-- A match of one field. -/
def single (field : OxmField) : Match := ⟨[field], List.pairwise_singleton _ _⟩

/-- What the narrow match matches the wide one matches. -/
def covers (wide narrow : Match) : Bool :=
  wide.items.all fun field => narrow.items.any field.covers

/-- The fields with one of them added or changed. -/
def setItems (field : OxmField) : List OxmField → List OxmField
  | [] => [field]
  | other :: rest =>
      if field.field < other.field then field :: other :: rest
      else if field.field = other.field then field :: rest
      else other :: setItems field rest

theorem field_of_mem_setItems {field member : OxmField} {items : List OxmField}
    (present : member ∈ setItems field items) : member = field ∨ member ∈ items := by
  induction items with
  | nil => exact .inl (List.mem_singleton.mp present)
  | cons other rest ih =>
      rw [setItems] at present
      split at present
      next => simpa using present
      next =>
        split at present
        next =>
          rcases List.mem_cons.mp present with same | later
          · exact .inl same
          · exact .inr (List.mem_cons_of_mem _ later)
        next =>
          rcases List.mem_cons.mp present with same | later
          · exact .inr (same ▸ List.mem_cons_self)
          · exact (ih later).imp_right (List.mem_cons_of_mem _)

theorem sorted_setItems (field : OxmField) {items : List OxmField}
    (sorted : items.Pairwise fun first second => first.field < second.field) :
    (setItems field items).Pairwise fun first second => first.field < second.field := by
  induction items with
  | nil => exact List.pairwise_singleton _ _
  | cons other rest ih =>
      obtain ⟨least, sortedRest⟩ := List.pairwise_cons.mp sorted
      rw [setItems]
      split
      next before =>
        refine List.pairwise_cons.mpr ⟨fun later present => ?_, sorted⟩
        rcases List.mem_cons.mp present with same | present
        · exact same ▸ before
        · exact Nat.lt_trans before (least later present)
      next =>
        split
        next same =>
          exact List.pairwise_cons.mpr ⟨fun later present => same ▸ least later present, sortedRest⟩
        next different =>
          refine List.pairwise_cons.mpr ⟨fun later present => ?_, ih sortedRest⟩
          rcases field_of_mem_setItems present with same | present
          · subst same
            omega
          · exact least later present

/-- A field is set. -/
def set (fields : Match) (field : OxmField) : Match :=
  ⟨setItems field fields.items, sorted_setItems field fields.sorted⟩

/-- The match with these fields; of two of one kind the later one stays. -/
def ofFields (fields : List OxmField) : Match := fields.foldl set any

variable {fields wide narrow : Match} {field member : OxmField}

theorem mem_setItems {items : List OxmField}
    (sorted : items.Pairwise fun first second => first.field < second.field) :
    member ∈ setItems field items ↔
      member = field ∨ member ∈ items ∧ member.field ≠ field.field := by
  induction items with
  | nil => simp [setItems]
  | cons other rest ih =>
      obtain ⟨least, sortedRest⟩ := List.pairwise_cons.mp sorted
      rw [setItems]
      split
      next before =>
        have apart : member ∈ other :: rest → member.field ≠ field.field := by
          intro present
          rcases List.mem_cons.mp present with same | present
          · subst same
            omega
          · have := least member present
            omega
        rw [List.mem_cons]
        exact or_congr_right ⟨fun present => ⟨present, apart present⟩, And.left⟩
      next =>
        split
        next same =>
          have apart : member ∈ rest → member.field ≠ field.field := by
            intro present
            have := least member present
            omega
          rw [List.mem_cons, List.mem_cons]
          refine or_congr_right ⟨fun present => ⟨.inr present, apart present⟩, fun present => ?_⟩
          exact present.1.resolve_left fun equal => present.2 (equal ▸ same.symm)
        next different =>
          rw [List.mem_cons, ih sortedRest, List.mem_cons]
          constructor
          · intro present
            rcases present with same | same | ⟨present, apart⟩
            · exact .inr ⟨.inl same, same ▸ fun equal => different equal.symm⟩
            · exact .inl same
            · exact .inr ⟨.inr present, apart⟩
          · intro present
            rcases present with same | ⟨same | present, apart⟩
            · exact .inr (.inl same)
            · exact .inl same
            · exact .inr (.inr ⟨present, apart⟩)

theorem mem_set : member ∈ (fields.set field).items ↔
    member = field ∨ member ∈ fields.items ∧ member.field ≠ field.field :=
  mem_setItems fields.sorted

theorem mem_set_self : field ∈ (fields.set field).items := mem_set.mpr (.inl rfl)

/-- A match has at most one field of a kind. -/
theorem eq_of_field (present : member ∈ fields.items) (present' : field ∈ fields.items)
    (same : member.field = field.field) : member = field := by
  obtain ⟨first, split⟩ := List.getElem_of_mem present
  obtain ⟨second, split'⟩ := List.getElem_of_mem present'
  obtain ⟨bound, rfl⟩ := split
  obtain ⟨bound', rfl⟩ := split'
  have ordered := List.pairwise_iff_getElem.mp fields.sorted
  rcases Nat.lt_trichotomy first second with before | equal | after
  · have := ordered first second bound bound' before
    omega
  · subst equal
    rfl
  · have := ordered second first bound' bound after
    omega

theorem mem_foldl_set {added : List OxmField} (kinds : (added.map (·.field)).Nodup) :
    member ∈ (added.foldl set fields).items ↔
      member ∈ added ∨ member ∈ fields.items ∧ ∀ other ∈ added, member.field ≠ other.field := by
  induction added generalizing fields with
  | nil => simp
  | cons first rest ih =>
      obtain ⟨fresh, kinds⟩ := List.nodup_cons.mp kinds
      have apart : member ∈ rest → member.field ≠ first.field := by
        intro present same
        exact fresh (List.mem_map.mpr ⟨member, present, same⟩)
      rw [List.foldl_cons, ih kinds, mem_set]
      constructor
      · rintro (present | ⟨rfl | ⟨present, other⟩, others⟩)
        · exact .inl (List.mem_cons_of_mem _ present)
        · exact .inl List.mem_cons_self
        · exact .inr ⟨present, by simpa using ⟨other, others⟩⟩
      · rintro (present | ⟨present, others⟩)
        · rcases List.mem_cons.mp present with rfl | present
          · exact .inr ⟨.inl rfl, fun other later same =>
              fresh (List.mem_map.mpr ⟨other, later, same.symm⟩)⟩
          · exact .inl present
        · exact .inr ⟨.inr ⟨present, others first List.mem_cons_self⟩,
            fun other later => others other (List.mem_cons_of_mem _ later)⟩

/-- A match with one field of each kind has just these fields. -/
theorem mem_ofFields {added : List OxmField} (kinds : (added.map (·.field)).Nodup) :
    member ∈ (ofFields added).items ↔ member ∈ added := by
  rw [ofFields, mem_foldl_set kinds]
  simp [any]

theorem covers_iff : wide.covers narrow = true ↔
    ∀ field ∈ wide.items, ∃ other ∈ narrow.items, field.covers other = true := by
  simp [covers]

theorem covers_self : fields.covers fields = true := by
  refine covers_iff.mpr fun field present => ⟨field, present, ?_⟩
  cases mask : field.mask <;> simp [OxmField.covers, mask]

/-- A field without a mask covers itself alone. -/
theorem covers_exact (exact : field.mask = none) :
    field.covers member = true ↔ member = field := by
  obtain ⟨kind, value, mask⟩ := field
  obtain ⟨kind', value', mask'⟩ := member
  cases exact
  cases mask' with
  | none =>
      simp only [OxmField.covers, Bool.and_eq_true, beq_iff_eq, OxmField.mk.injEq, and_true]
      exact and_congr eq_comm eq_comm
  | some mask => simp [OxmField.covers]

theorem mem_of_covers (exact : field.mask = none) (covers : wide.covers narrow = true)
    (present : field ∈ wide.items) : field ∈ narrow.items := by
  obtain ⟨other, member, fieldCovers⟩ := covers_iff.mp covers field present
  rwa [(covers_exact exact).mp fieldCovers] at member

end Match

/-! ## Messages -/

/-- A port number. -/
abbrev PortNo := Nat

/-- `OFPTT_ALL`. -/
def ofpttAll : Nat := 0xff
/-- `OFPG_ALL`. -/
def ofpgAll : Nat := 0xfffffffc
/-- `OFPM_ALL`. -/
def ofpmAll : Nat := 0xffffffff

/-- An action of a message. -/
inductive Act where
  | output (port : PortNo)
  | group (groupId : Nat)
  | other (code : Nat)
deriving DecidableEq, Repr

/-- An instruction of a message. -/
inductive Instruction where
  | applyActions (actions : List Act)
  | gotoTable (tableId : Nat)
  | meter (meterId : Nat)
  | other (code : Nat)
deriving DecidableEq, Repr

/-- The instruction outputs to the port. -/
def Instruction.outputsTo (port : PortNo) : Instruction → Bool
  | applyActions actions => actions.contains (.output port)
  | _ => false

/-- The commands of a flow message. -/
inductive FlowCommand where
  | add
  | modifyStrict
  | delete
  | deleteStrict
deriving DecidableEq, Repr

/-- An `OFPFlowMod`; `outPort` is `none` for `OFPP_ANY`, and the out group is
always `OFPG_ANY`. -/
structure FlowMod where
  command : FlowCommand
  tableId : Nat
  priority : Nat
  cookie : Nat
  outPort : Option PortNo
  matchFields : Match
  instructions : List Instruction
  hardTimeout : Nat
  idleTimeout : Nat
  flags : Nat
deriving DecidableEq

/-- A bucket of a group. -/
structure Bucket where
  weight : Nat
  watchPort : Nat
  watchGroup : Nat
  actions : List Act
deriving DecidableEq, Repr

/-- What the group table holds under a group id. -/
structure Group where
  type : Nat
  buckets : List Bucket
deriving DecidableEq, Repr

/-- What the meter table holds under a meter id. -/
structure Meter where
  flags : Nat
  bands : List (Nat × Nat)
deriving DecidableEq, Repr

/-- An `OFPGroupMod` or an `OFPMeterMod`: an add with its content, or a delete. -/
inductive EntryMod (α : Type) where
  | add (id : Nat) (content : α)
  | delete (id : Nat)
deriving DecidableEq, Repr

/-- A message to the switch. -/
inductive Ofmsg where
  | flowMod (mod : FlowMod)
  | groupMod (mod : EntryMod Group)
  | meterMod (mod : EntryMod Meter)
  | packetOut (port : PortNo) (data : List Nat)
  | tableFeatures (body : List Nat)
  | setConfig (missSendLen : Nat)
  | setAsync (masks : List Nat)
  | descStatsRequest
  | barrierRequest
  | other (code : Nat)
deriving DecidableEq

/-! ## The switch -/

/-- There are tables. -/
instance neZero_tableIds : NeZero 255 := ⟨by decide⟩

/-- What tells flows apart. -/
structure FlowId where
  tableId : Fin 255
  priority : Nat
  matchFields : Match
deriving DecidableEq

/-- A flow as it is installed. -/
structure FlowEntry where
  cookie : Nat
  instructions : List Instruction
  hardTimeout : Nat
  idleTimeout : Nat
  flags : Nat
deriving DecidableEq, Repr

/-- The entry has an action that outputs to the port. -/
def FlowEntry.outputsTo (entry : FlowEntry) (port : PortNo) : Bool :=
  entry.instructions.any (·.outputsTo port)

namespace FlowMod

/-- The flow that an add installs. -/
def entry (mod : FlowMod) : FlowEntry where
  cookie := mod.cookie
  instructions := mod.instructions
  hardTimeout := mod.hardTimeout
  idleTimeout := mod.idleTimeout
  flags := mod.flags

/-- An add or a strict modify is about this flow. -/
def names (mod : FlowMod) (id : FlowId) : Bool :=
  mod.tableId == id.tableId && mod.priority == id.priority && mod.matchFields == id.matchFields

/-- The flow is among those that a delete describes, whatever it outputs to. -/
def reaches (mod : FlowMod) (id : FlowId) : Bool :=
  (mod.tableId == ofpttAll || mod.tableId == id.tableId) &&
    match mod.command with
    | .delete => mod.matchFields.covers id.matchFields
    | .deleteStrict => mod.priority == id.priority && mod.matchFields == id.matchFields
    | _ => false

/-- The out port condition of a delete. -/
def outPortMatches (mod : FlowMod) (entry : FlowEntry) : Bool :=
  match mod.outPort with
  | none => true
  | some port => entry.outputsTo port

/-- The delete is for the flow. -/
def removes (mod : FlowMod) (id : FlowId) (entry : FlowEntry) : Bool :=
  mod.reaches id && mod.outPortMatches entry

/-- What the message makes of the flow. -/
def step (id : FlowId) (current : Option FlowEntry) (mod : FlowMod) : Option FlowEntry :=
  match mod.command with
  | .add => if mod.names id then some mod.entry else current
  | .modifyStrict =>
      if mod.names id then
        current.map fun entry => { entry with instructions := mod.instructions }
      else current
  | .delete | .deleteStrict => current.filter fun entry => !mod.removes id entry

end FlowMod

/-- What the message makes of a group or a meter; `all` is the id that stands
for every entry. An add of an entry that exists is an error. -/
def EntryMod.step {α : Type} (all id : Nat) (current : Option α) : EntryMod α → Option α
  | add id' content => if id' = id then current.or (some content) else current
  | delete id' => if id' = all ∨ id' = id then none else current

/-- The flows, groups and meters of a switch. -/
@[ext] structure Switch where
  flows : FlowId → Option FlowEntry
  groups : Nat → Option Group
  meters : Nat → Option Meter

namespace Switch

/-- The switch handles a message. -/
def apply (switch : Switch) : Ofmsg → Switch
  | .flowMod mod => { switch with flows := fun id => mod.step id (switch.flows id) }
  | .groupMod mod => { switch with groups := fun id => mod.step ofpgAll id (switch.groups id) }
  | .meterMod mod => { switch with meters := fun id => mod.step ofpmAll id (switch.meters id) }
  | _ => switch

/-- The messages are applied in their order. -/
def applyAll (switch : Switch) (ofmsgs : List Ofmsg) : Switch := ofmsgs.foldl apply switch

end Switch

/-! ## Entry by entry -/

/-- The message as one about a group. -/
def Ofmsg.groupMod? : Ofmsg → Option (EntryMod Group)
  | .groupMod mod => some mod
  | _ => none

/-- The message as one about a meter. -/
def Ofmsg.meterMod? : Ofmsg → Option (EntryMod Meter)
  | .meterMod mod => some mod
  | _ => none

/-- What any message makes of a flow. -/
def flowEffect (id : FlowId) (current : Option FlowEntry) : Ofmsg → Option FlowEntry
  | .flowMod mod => mod.step id current
  | _ => current

/-- What any message makes of an entry of the table whose messages are selected. -/
def entryEffect {α : Type} (select : Ofmsg → Option (EntryMod α)) (all id : Nat)
    (current : Option α) (ofmsg : Ofmsg) : Option α :=
  match select ofmsg with
  | some mod => mod.step all id current
  | none => current

namespace Switch

variable (switch : Switch) (ofmsgs : List Ofmsg)

theorem applyAll_flows (id : FlowId) :
    (switch.applyAll ofmsgs).flows id = ofmsgs.foldl (flowEffect id) (switch.flows id) := by
  induction ofmsgs generalizing switch with
  | nil => rfl
  | cons ofmsg rest ih => cases ofmsg <;> exact ih _

theorem applyAll_groups (id : Nat) :
    (switch.applyAll ofmsgs).groups id =
      ofmsgs.foldl (entryEffect Ofmsg.groupMod? ofpgAll id) (switch.groups id) := by
  induction ofmsgs generalizing switch with
  | nil => rfl
  | cons ofmsg rest ih => cases ofmsg <;> exact ih _

theorem applyAll_meters (id : Nat) :
    (switch.applyAll ofmsgs).meters id =
      ofmsgs.foldl (entryEffect Ofmsg.meterMod? ofpmAll id) (switch.meters id) := by
  induction ofmsgs generalizing switch with
  | nil => rfl
  | cons ofmsg rest ih => cases ofmsg <;> exact ih _

/-- Two batches do the same to every switch when they do the same to every entry. -/
theorem applyAll_congr {first second : List Ofmsg} :
    (∀ switch : Switch, switch.applyAll first = switch.applyAll second) ↔
      (∀ id current, first.foldl (flowEffect id) current = second.foldl (flowEffect id) current) ∧
      (∀ id current, first.foldl (entryEffect Ofmsg.groupMod? ofpgAll id) current =
        second.foldl (entryEffect Ofmsg.groupMod? ofpgAll id) current) ∧
      ∀ id current, first.foldl (entryEffect Ofmsg.meterMod? ofpmAll id) current =
        second.foldl (entryEffect Ofmsg.meterMod? ofpmAll id) current := by
  constructor
  · intro same
    refine ⟨fun id current => ?_, fun id current => ?_, fun id current => ?_⟩
    · have := congrArg (·.flows id) (same ⟨fun _ => current, fun _ => none, fun _ => none⟩)
      rwa [applyAll_flows, applyAll_flows] at this
    · have := congrArg (·.groups id) (same ⟨fun _ => none, fun _ => current, fun _ => none⟩)
      rwa [applyAll_groups, applyAll_groups] at this
    · have := congrArg (·.meters id) (same ⟨fun _ => none, fun _ => none, fun _ => current⟩)
      rwa [applyAll_meters, applyAll_meters] at this
  · rintro ⟨flows, groups, meters⟩ switch
    have sameFlows : (switch.applyAll first).flows = (switch.applyAll second).flows := by
      funext id
      rw [applyAll_flows, applyAll_flows, flows]
    have sameGroups : (switch.applyAll first).groups = (switch.applyAll second).groups := by
      funext id
      rw [applyAll_groups, applyAll_groups, groups]
    have sameMeters : (switch.applyAll first).meters = (switch.applyAll second).meters := by
      funext id
      rw [applyAll_meters, applyAll_meters, meters]
    exact Switch.ext sameFlows sameGroups sameMeters

end Switch

end Faucet.OpenFlow
