import Faucet.OpenFlow.Switch

/-!
# Instructions and what they make of a packet

The instructions of a flow, and `_trim_inst` on values: without a goto, actions after
the last output are left out. A packet goes through the actions in turn, is emitted at
an output, and then goes on to the next table, if there is one. Trimming does not show
in that (`behaviour_trimInst`).
-/

set_option autoImplicit false

namespace Faucet.FlowTable

open OpenFlow (ofpttAll)

/-- What an action does. -/
inductive ActionKind where
  | output (port : Nat)
  | group (groupId : Nat)
  | setField (key : String) (value : Nat)
  | pushVlan (ethType : Nat)
  | popVlan
  /-- `NXActionCT`, which always has a `recirc_table`. -/
  | ct (recircTable : Option Nat)
  | other (code : Nat)
deriving DecidableEq, Repr

/-- An action of the library, which has no `__eq__`: two are equal when they are the
same object. -/
structure Action where
  ref : Nat
  kind : ActionKind
deriving DecidableEq, Repr

namespace Action

/-- `OFPAT_OUTPUT` or `OFPAT_GROUP`. -/
def outputs (action : Action) : Bool :=
  match action.kind with
  | .output _ | .group _ => true
  | _ => false

/-- `is_ct` -/
def isCt (action : Action) : Bool :=
  match action.kind with
  | .ct _ => true
  | _ => false

/-- The key of a set field action. -/
def fieldKey (action : Action) : Option String :=
  match action.kind with
  | .setField key _ => some key
  | _ => none

end Action

/-- An instruction with its actions; there may be others, such as a meter. -/
inductive Instr where
  | applyActions (actions : List Action)
  | gotoTable (tableId : Nat)
  | other (code : Nat)
deriving DecidableEq, Repr

namespace Instr

/-- `is_apply_actions` -/
def isApply : Instr → Bool
  | applyActions _ => true
  | _ => false

/-- The instruction is a `goto_table`. -/
def isGoto : Instr → Bool
  | gotoTable _ => true
  | _ => false

/-- The actions of `apply_actions`. -/
def actions : Instr → List Action
  | applyActions actions => actions
  | _ => []

end Instr

/-- The options of a table that its messages depend on. -/
structure ValveTable where
  name : String
  tableId : Nat
  setFields : List String
  flowCookie : Nat
  notifyFlowRemoved : Bool
deriving DecidableEq, Repr

/-! ## Trimming -/

/-- The loop of `_trim_actions`: what is kept so far, and what waits for an output. -/
def trimLoop : List Action → List Action → List Action → List Action
  | newActions, _, [] => newActions
  | newActions, pendingActions, action :: rest =>
      if action.outputs then trimLoop (newActions ++ pendingActions ++ [action]) [] rest
      else trimLoop newActions (pendingActions ++ [action]) rest

namespace ValveTable

variable (table : ValveTable)

/-- The fields that are set are configured for the table. -/
def allows (actions : List Action) : Bool :=
  table.tableId == ofpttAll || (actions.filterMap Action.fieldKey).all table.setFields.contains

/-- `none` when the assertion on the fields fails. -/
def trimActions (actions : List Action) : Option (List Action) :=
  let newActions := trimLoop [] [] actions
  if table.allows newActions then some newActions else none

/-- Without a goto these are the last actions that can take place. -/
def trims (gotoPresent : Bool) (actions : List Action) : Bool :=
  !gotoPresent && !actions.any Action.isCt

/-- What is left of the actions of one instruction. -/
def trimApply (gotoPresent : Bool) (actions : List Action) : Option (List Action) :=
  if trims gotoPresent actions then table.trimActions actions else some actions

/-- What is left of the instructions, one by one. -/
def trimEach (gotoPresent : Bool) : List Instr → Option (List Instr)
  | [] => some []
  | .applyActions actions :: rest => do
      let actions ← table.trimApply gotoPresent actions
      let rest ← trimEach gotoPresent rest
      some (if actions.isEmpty then rest else .applyActions actions :: rest)
  | instr :: rest => do
      let rest ← trimEach gotoPresent rest
      some (instr :: rest)

/-- `_trim_inst` on values. -/
def trimInst (inst : List Instr) : Option (List Instr) :=
  if inst.any Instr.isApply then table.trimEach (inst.any Instr.isGoto) inst else some inst

end ValveTable

/-- What is dropped from the end never reaches an element that stays. -/
theorem rdropWhile_concat_append {α : Type} {p : α → Bool} (front rest : List α) {last : α}
    (stays : p last = false) :
    (front ++ [last] ++ rest).rdropWhile p = front ++ [last] ++ rest.rdropWhile p := by
  induction rest using List.reverseRecOn with
  | nil =>
      rw [List.append_nil, List.rdropWhile_concat_neg _ _ _ (by simp [stays]), List.rdropWhile_nil,
        List.append_nil]
  | append_singleton rest later ih =>
      rw [← List.append_assoc, List.rdropWhile_concat, List.rdropWhile_concat]
      split
      · exact ih
      · rw [List.append_assoc]

theorem trimLoop_eq (newActions pendingActions actions : List Action)
    (pending : ∀ action ∈ pendingActions, action.outputs = false) :
    trimLoop newActions pendingActions actions =
      newActions ++ (pendingActions ++ actions).rdropWhile (!·.outputs) := by
  induction actions generalizing newActions pendingActions with
  | nil =>
      have none : pendingActions.rdropWhile (!·.outputs) = [] :=
        List.rdropWhile_eq_nil_iff.mpr fun action member => by simp [pending action member]
      rw [trimLoop, List.append_nil, none, List.append_nil]
  | cons action rest ih =>
      rw [trimLoop]
      split
      next outputs =>
        have split : pendingActions ++ action :: rest = pendingActions ++ [action] ++ rest := by
          simp
        rw [ih _ [] nofun, List.nil_append, split,
          rdropWhile_concat_append pendingActions rest (by simp [outputs])]
        simp
      next silent =>
        rw [ih newActions (pendingActions ++ [action])]
        · simp
        · intro other member
          rcases List.mem_append.mp member with earlier | last
          · exact pending other earlier
          · cases List.mem_singleton.mp last
            exact Bool.eq_false_iff.mpr silent

/-- Trimming leaves out what comes after the last output. -/
theorem trimLoop_nil (actions : List Action) :
    trimLoop [] [] actions = actions.rdropWhile (!·.outputs) := trimLoop_eq [] [] actions nofun

theorem trimLoop_idem (actions : List Action) :
    trimLoop [] [] (trimLoop [] [] actions) = trimLoop [] [] actions := by
  rw [trimLoop_nil, trimLoop_nil]
  exact List.rdropWhile_idempotent _ _

theorem any_ct_trimLoop {actions : List Action} (noCt : actions.any Action.isCt = false) :
    (trimLoop [] [] actions).any Action.isCt = false := by
  rw [trimLoop_nil, List.any_eq_false]
  rw [List.any_eq_false] at noCt
  exact fun action member => noCt action (List.IsPrefix.subset (List.rdropWhile_prefix _ _) member)

/-! ## What becomes of a packet -/

/-- Connection tracking sends a copy of the packet to another table. -/
def Action.emits (action : Action) : Bool := action.outputs || action.isCt

/-- The table of a `goto_table`. -/
def Instr.target : Instr → Option Nat
  | .gotoTable tableId => some tableId
  | _ => none

/-- Which other instruction it is. -/
def Instr.code : Instr → Option Nat
  | .other code => some code
  | _ => none

/-- What instructions do to a packet. -/
structure Behaviour (π : Type) where
  emitted : List (ActionKind × π)
  /-- The table where the packet goes on, and what it is by then. -/
  next : Option (Nat × π)
  others : List Nat

section Packets

variable {π : Type} (rewrite : ActionKind → π → π)

/-- The packet as each emitting action has it, and as it is in the end. -/
def process : List Action → π → List (ActionKind × π) × π
  | [], packet => ([], packet)
  | action :: rest, packet =>
      let later := process rest (rewrite action.kind packet)
      ((if action.emits then [(action.kind, packet)] else []) ++ later.1, later.2)

/-- The packet is processed by the actions, and goes on to the first table that is named. -/
def behaviour (inst : List Instr) (packet : π) : Behaviour π :=
  let after := process rewrite (inst.flatMap Instr.actions) packet
  { emitted := after.1
    next := (inst.findSome? Instr.target).map fun tableId => (tableId, after.2)
    others := inst.filterMap Instr.code }

theorem process_append (first second : List Action) (packet : π) :
    process rewrite (first ++ second) packet =
      ((process rewrite first packet).1 ++
        (process rewrite second (process rewrite first packet).2).1,
        (process rewrite second (process rewrite first packet).2).2) := by
  induction first generalizing packet with
  | nil => rfl
  | cons action rest ih => simp only [List.cons_append, process, ih, List.append_assoc]

theorem process_silent {actions : List Action} (silent : ∀ action ∈ actions, action.emits = false)
    (packet : π) : (process rewrite actions packet).1 = [] := by
  induction actions generalizing packet with
  | nil => rfl
  | cons action rest ih =>
      rw [process, silent action List.mem_cons_self]
      exact ih (fun other member => silent other (List.mem_cons_of_mem _ member)) _

/-- Trimming does not show in what is emitted. -/
theorem process_trimLoop {actions : List Action} (noCt : actions.any Action.isCt = false)
    (packet : π) :
    (process rewrite (trimLoop [] [] actions) packet).1 = (process rewrite actions packet).1 := by
  have parts : actions.rdropWhile (!·.outputs) ++ actions.rtakeWhile (!·.outputs) = actions :=
    List.rdropWhile_append_rtakeWhile
  have silent : ∀ action ∈ actions.rtakeWhile (!·.outputs), action.emits = false := by
    intro action member
    have noOutput := List.mem_rtakeWhile_imp member
    have plain := List.any_eq_false.mp noCt action
      (List.IsSuffix.subset (List.rtakeWhile_suffix _ _) member)
    rw [Action.emits, Bool.not_eq_true _ |>.mp plain]
    simpa using noOutput
  rw [trimLoop_nil]
  conv_rhs => rw [← parts, process_append]
  simp only [process_silent rewrite silent, List.append_nil]

end Packets

/-! ## Trimming of instructions -/

/-- The actions that are left of an instruction. -/
def Instr.kept (gotoPresent : Bool) (instr : Instr) : List Action :=
  if ValveTable.trims gotoPresent instr.actions then trimLoop [] [] instr.actions
  else instr.actions

theorem Instr.kept_of_not_apply {gotoPresent : Bool} {instr : Instr} (other : instr.isApply = false) :
    instr.kept gotoPresent = [] := by
  cases instr with
  | applyActions => cases other
  | gotoTable | other =>
      rw [kept]
      split <;> rfl

namespace ValveTable

variable {table : ValveTable} {gotoPresent : Bool} {inst kept : List Instr}

theorem trimApply_eq {actions left : List Action}
    (trimmed : table.trimApply gotoPresent actions = some left) :
    left = (Instr.applyActions actions).kept gotoPresent := by
  rw [Instr.kept, Instr.actions]
  rw [trimApply] at trimmed
  split at trimmed
  next isTrimmed =>
    rw [if_pos isTrimmed]
    rw [trimActions] at trimmed
    split at trimmed
    · exact (Option.some.inj trimmed).symm
    · cases trimmed
  next isKept =>
    rw [if_neg isKept]
    exact (Option.some.inj trimmed).symm

/-- What is left of the instructions: the actions of each, and the others as they were. -/
theorem trimEach_spec (trimmed : table.trimEach gotoPresent inst = some kept) :
    kept.flatMap Instr.actions = inst.flatMap (Instr.kept gotoPresent) ∧
      kept.findSome? Instr.target = inst.findSome? Instr.target ∧
      kept.filterMap Instr.code = inst.filterMap Instr.code := by
  induction inst generalizing kept with
  | nil =>
      cases trimmed
      exact ⟨rfl, rfl, rfl⟩
  | cons instr rest ih =>
      cases instr with
      | applyActions actions =>
          rw [trimEach] at trimmed
          obtain ⟨left, first, trimmed⟩ := Option.bind_eq_some_iff.mp trimmed
          obtain ⟨keptRest, later, trimmed⟩ := Option.bind_eq_some_iff.mp trimmed
          cases trimmed
          obtain ⟨actionsEq, targets, codes⟩ := ih later
          rw [List.flatMap_cons, ← trimApply_eq first, ← actionsEq]
          refine ⟨?_, ?_, ?_⟩
          · split
            next empty => rw [List.isEmpty_iff.mp empty, List.nil_append]
            next => rfl
          · split <;> exact targets
          · split <;> exact codes
      | gotoTable tableId | other code =>
          simp only [trimEach] at trimmed
          obtain ⟨keptRest, later, trimmed⟩ := Option.bind_eq_some_iff.mp trimmed
          cases trimmed
          obtain ⟨actionsEq, targets, codes⟩ := ih later
          refine ⟨?_, ?_, ?_⟩
          · rw [List.flatMap_cons, List.flatMap_cons, Instr.kept_of_not_apply rfl, actionsEq]
            rfl
          · simp [List.findSome?_cons, Instr.target, targets]
          · simp [List.filterMap_cons, Instr.code, codes]

theorem any_isGoto_iff : inst.any Instr.isGoto = false ↔ inst.findSome? Instr.target = none := by
  rw [List.any_eq_false, List.findSome?_eq_none_iff]
  refine forall₂_congr fun instr _ => ?_
  cases instr <;> simp [Instr.isGoto, Instr.target]

/-- **Trimming does not show**: with one list of actions at most, every packet is
processed as before. -/
theorem behaviour_trimInst {π : Type} (rewrite : ActionKind → π → π) (packet : π)
    (single : (inst.filter Instr.isApply).length ≤ 1) (trimmed : table.trimInst inst = some kept) :
    behaviour rewrite kept packet = behaviour rewrite inst packet := by
  rw [trimInst] at trimmed
  split at trimmed
  next =>
    obtain ⟨actionsEq, targets, codes⟩ := trimEach_spec trimmed
    have selected : ∀ f : Instr → List Action, (∀ instr, instr.isApply = false → f instr = []) →
        inst.flatMap f = (inst.filter Instr.isApply).flatMap f := by
      intro f nothing
      clear * - nothing
      induction inst with
      | nil => rfl
      | cons instr rest ih =>
          cases isApply : instr.isApply with
          | true => simp [isApply, ih]
          | false => simp [isApply, ih, nothing instr isApply]
    rw [selected _ fun instr => Instr.kept_of_not_apply] at actionsEq
    have whole : inst.flatMap Instr.actions = (inst.filter Instr.isApply).flatMap Instr.actions :=
      selected _ fun instr other => by cases instr <;> first | rfl | cases other
    have emitted : (process rewrite (kept.flatMap Instr.actions) packet).1 =
        (process rewrite (inst.flatMap Instr.actions) packet).1 ∧
        (inst.any Instr.isGoto = true → (process rewrite (kept.flatMap Instr.actions) packet).2 =
          (process rewrite (inst.flatMap Instr.actions) packet).2) := by
      rw [actionsEq, whole]
      match inst.filter Instr.isApply, single with
      | [], _ => exact ⟨rfl, fun _ => rfl⟩
      | [instr], _ =>
          simp only [List.flatMap_cons, List.flatMap_nil, List.append_nil, Instr.kept]
          split
          next isTrimmed =>
            rw [trims, Bool.and_eq_true, Bool.not_eq_true', Bool.not_eq_true'] at isTrimmed
            refine ⟨process_trimLoop rewrite isTrimmed.2 packet, fun isGoto => ?_⟩
            cases isTrimmed.1.symm.trans isGoto
          next => exact ⟨rfl, fun _ => rfl⟩
    rw [behaviour, behaviour, emitted.1, targets, codes]
    cases isGoto : inst.any Instr.isGoto with
    | true => rw [emitted.2 isGoto]
    | false => simp only [any_isGoto_iff.mp isGoto, Option.map_none]
  next =>
    cases trimmed
    rfl

end ValveTable

end Faucet.FlowTable
