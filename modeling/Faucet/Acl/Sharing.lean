import Faucet.Acl.Table

/-!
# Instructions that flows share

`apply_actions` remembers the instruction that it has made for a list of actions, so flows
with the same list may hold the same object. A call of `flowmod` without a goto trims the
list of its object in place, also for a flow with a goto whose list was to be left alone.

`Memo` is what the remembered instructions may hold when a batch is sent, given all the
calls of `flowmod` that have been made: whether two flows share an object depends on what
else is in the cache, so each list is as it was made, or trimmed when some call has trimmed
it. `FlowMod.sentWith` is the message as it stands then.
-/

set_option autoImplicit false

namespace Faucet.Acl

open OpenFlow

/-! ## Messages as they are sent -/

/-- One of the calls of `flowmod` has no goto, and trims these actions. -/
def TrimmedInPlace (calls : List (List Inst)) (actions : List Act) : Prop :=
  actions.any Act.isCt = false ∧
    ∃ inst ∈ calls, inst.any Inst.isGoto = false ∧ .applyActions actions ∈ inst

/-- What the instructions for a list of actions hold when the messages are sent. -/
structure Memo (calls : List (List Inst)) where
  holds : List OpenFlow.Act → List OpenFlow.Act
  spec : ∀ actions : List Act, holds (actions.map Act.wire) = actions.map Act.wire ∨
    TrimmedInPlace calls actions ∧
      holds (actions.map Act.wire) = (trimLoop [] [] actions).map Act.wire

/-- An instruction goes on to another table. -/
def goesOn : Instruction → Bool
  | .gotoTable _ => true
  | _ => false

namespace Memo

variable {calls : List (List Inst)} (memo : Memo calls)

/-- What is left of an instruction; one without actions is left out, as it does nothing. -/
def left : Instruction → Option Instruction
  | .applyActions actions =>
      if (memo.holds actions).isEmpty then none else some (.applyActions (memo.holds actions))
  | instr => some instr

/-- The instructions of a flow when it is sent. Without a goto they have been trimmed
anyway. -/
def instructions (instructions : List Instruction) : List Instruction :=
  if instructions.any goesOn then instructions.filterMap memo.left else instructions

end Memo

/-- The flow when it is sent. -/
def sentWith {calls : List (List Inst)} (memo : Memo calls) (mod : FlowMod) : FlowMod :=
  { mod with instructions := memo.instructions mod.instructions }

/-- The message when it is sent. -/
def ofmsgWith {calls : List (List Inst)} (memo : Memo calls) : Ofmsg → Ofmsg
  | .flowMod mod => .flowMod (sentWith memo mod)
  | ofmsg => ofmsg

/-! ## What a memo leaves alone -/

section Leaves

variable {calls : List (List Inst)} {memo : Memo calls} {table : AclTable} {inst trimmed : List Inst}
  {actions : List Act} {mod : FlowMod} {own : List Ofmsg}

theorem wire_injective : Function.Injective Act.wire := by
  intro first second same
  cases first <;> cases second <;>
    simp_all [Act.wire, Encodable.encode_inj]

theorem map_wire_inj {first second : List Act} :
    first.map Act.wire = second.map Act.wire ↔ first = second :=
  wire_injective.list_map.eq_iff

theorem mem_ofmsgWith : .flowMod mod ∈ own.map (ofmsgWith memo) ↔
    ∃ built, .flowMod built ∈ own ∧ sentWith memo built = mod := by
  rw [List.mem_map]
  constructor
  · rintro ⟨ofmsg, member, same⟩
    cases ofmsg with
    | flowMod built =>
        cases same
        exact ⟨built, member, rfl⟩
    | _ => cases same
  · rintro ⟨built, member, rfl⟩
    exact ⟨_, member, rfl⟩

theorem any_isGoto_trimEach {gotoPresent : Bool}
    (trims : table.trimEach gotoPresent inst = some trimmed) :
    trimmed.any Inst.isGoto = inst.any Inst.isGoto := by
  induction inst generalizing trimmed with
  | nil =>
      cases trims
      rfl
  | cons instr rest ih =>
      cases instr with
      | applyActions held =>
          rw [AclTable.trimEach] at trims
          obtain ⟨kept, _, trims⟩ := Option.bind_eq_some_iff.mp trims
          obtain ⟨keptRest, later, trims⟩ := Option.bind_eq_some_iff.mp trims
          cases trims
          rw [List.any_cons, ← ih later]
          split <;> rfl
      | gotoTable tableId | meter meterId =>
          simp only [AclTable.trimEach] at trims
          obtain ⟨keptRest, later, trims⟩ := Option.bind_eq_some_iff.mp trims
          cases trims
          rw [List.any_cons, List.any_cons, ih later]

/-- With a goto the lists of actions are left alone, apart from empty ones. -/
theorem mem_trimEach_goto (trims : table.trimEach true inst = some trimmed) :
    .applyActions actions ∈ trimmed ↔ .applyActions actions ∈ inst ∧ actions ≠ [] := by
  induction inst generalizing trimmed with
  | nil =>
      cases trims
      simp
  | cons instr rest ih =>
      cases instr with
      | applyActions held =>
          rw [AclTable.trimEach] at trims
          obtain ⟨kept, first, trims⟩ := Option.bind_eq_some_iff.mp trims
          obtain ⟨keptRest, later, trims⟩ := Option.bind_eq_some_iff.mp trims
          cases first
          cases trims
          rw [List.mem_cons, Inst.applyActions.injEq]
          split
          next empty =>
            rw [ih later, or_and_right]
            refine (or_iff_right ?_).symm
            rintro ⟨rfl, some_action⟩
            exact some_action (List.isEmpty_iff.mp empty)
          next kept =>
            have some_action : held ≠ [] := by simpa using kept
            rw [List.mem_cons, Inst.applyActions.injEq, ih later, or_and_right]
            refine or_congr_left (iff_self_and.mpr ?_)
            rintro rfl
            exact some_action
      | gotoTable tableId | meter meterId =>
          simp only [AclTable.trimEach] at trims
          obtain ⟨keptRest, later, trims⟩ := Option.bind_eq_some_iff.mp trims
          cases trims
          simp [ih later]

/-- What `_trim_inst` leaves of instructions with a goto. -/
theorem mem_trimInst (trims : table.trimInst inst = some trimmed) :
    trimmed.any Inst.isGoto = inst.any Inst.isGoto ∧
      (inst.any Inst.isGoto = true →
        (.applyActions actions ∈ trimmed ↔ .applyActions actions ∈ inst ∧ actions ≠ [])) := by
  rw [AclTable.trimInst] at trims
  split at trims
  next =>
    refine ⟨any_isGoto_trimEach trims, fun goes => ?_⟩
    rw [goes] at trims
    exact mem_trimEach_goto trims
  next noActions =>
    cases trims
    refine ⟨rfl, fun _ => ⟨fun listed => absurd ?_ noActions, And.left⟩⟩
    exact List.any_eq_true.mpr ⟨_, listed, rfl⟩

theorem any_goesOn : (trimmed.map Inst.wire).any goesOn = trimmed.any Inst.isGoto := by
  rw [List.any_map]
  congr 1
  funext instr
  cases instr <;> rfl

/-- Instructions stay as they are when the lists of actions do, or there is no goto. -/
theorem Memo.instructions_eq_self (kept : trimmed.any Inst.isGoto = true →
    ∀ actions, .applyActions actions ∈ trimmed →
      memo.holds (actions.map Act.wire) = actions.map Act.wire ∧ actions ≠ []) :
    memo.instructions (trimmed.map Inst.wire) = trimmed.map Inst.wire := by
  rw [Memo.instructions, any_goesOn]
  split
  next goes =>
    replace kept := kept goes
    clear goes
    induction trimmed with
    | nil => rfl
    | cons instr rest ih =>
        have ih := ih fun actions member => kept actions (List.mem_cons_of_mem _ member)
        have first : memo.left instr.wire = some instr.wire := by
          cases instr with
          | applyActions actions =>
              obtain ⟨holds, some_action⟩ := kept actions List.mem_cons_self
              rw [Inst.wire, Memo.left, holds, if_neg (by simpa using some_action)]
          | gotoTable | meter => rfl
        rw [List.map_cons, List.filterMap_cons, first, ih]
  next => rfl

/-- Only these actions are trimmed in place. -/
def Memo.only (inPlace : TrimmedInPlace calls actions) : Memo calls where
  holds held :=
    if held = actions.map Act.wire then (trimLoop [] [] actions).map Act.wire else held
  spec := by
    intro others
    split
    next same =>
      cases map_wire_inj.mp same
      exact .inr ⟨inPlace, rfl⟩
    next => exact .inl rfl

/-- A list that trimming shortens does not stay as it is. -/
theorem Memo.only_instructions_ne (inPlace : TrimmedInPlace calls actions)
    (shortens : trimLoop [] [] actions ≠ actions) (goes : trimmed.any Inst.isGoto = true)
    (listed : .applyActions actions ∈ trimmed) :
    (Memo.only inPlace).instructions (trimmed.map Inst.wire) ≠ trimmed.map Inst.wire := by
  intro same
  rw [Memo.instructions, any_goesOn, if_pos goes] at same
  have there : (Inst.applyActions actions).wire ∈
      (trimmed.map Inst.wire).filterMap (Memo.only inPlace).left :=
    same.symm ▸ List.mem_map_of_mem listed
  obtain ⟨instr, _, isLeft⟩ := List.mem_filterMap.mp there
  cases instr with
  | applyActions held =>
      rw [Memo.left] at isLeft
      split at isLeft
      · cases isLeft
      · have holds : (if held = actions.map Act.wire then (trimLoop [] [] actions).map Act.wire
            else held) = actions.map Act.wire := by
          simpa [Inst.wire, Memo.only] using isLeft
        split at holds
        next => exact shortens (map_wire_inj.mp holds)
        next different => exact different holds
  | gotoTable | meter | other => simp [Memo.left, Inst.wire] at isLeft

end Leaves

end Faucet.Acl
