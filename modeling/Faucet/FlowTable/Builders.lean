import Faucet.FlowTable.Instructions
import Faucet.Library.LruCache
import Faucet.Library.TransitionSystem

/-!
# The memo caches of the message builders

`apply_actions` remembers the instruction that it made for a list of actions,
`_trim_inst` what it made of some instructions, and `flowmod` its messages. An
instruction holds its list of actions, and trimming changes the list in place.
-/

set_option autoImplicit false

namespace Faucet.FlowTable

/-! ## Objects -/

/-- An `OFPInstructionActions`: the actions it was made for and those it holds. -/
structure Holder where
  made : List Action
  actions : List Action
deriving DecidableEq, Repr

/-- An instruction as an object. -/
inductive InstRef where
  | applyActions (obj : Nat)
  | gotoTable (ref tableId : Nat)
  | other (ref code : Nat)
deriving DecidableEq, Repr

namespace InstRef

/-- `is_apply_actions` -/
def isApply : InstRef → Bool
  | applyActions _ => true
  | _ => false

/-- The instruction is a `goto_table`. -/
def isGoto : InstRef → Bool
  | gotoTable _ _ => true
  | _ => false

/-- The object is one of so many. -/
def isMade (count : Nat) : InstRef → Bool
  | applyActions obj => obj < count
  | _ => true

/-- The instruction, when the objects hold these actions. -/
def resolve (actions : Nat → List Action) : InstRef → Instr
  | applyActions obj => .applyActions (actions obj)
  | gotoTable _ tableId => .gotoTable tableId
  | other _ code => .other code

end InstRef

/-- The instructions of a flow: at most one of them is a list of actions. -/
structure InstSet where
  items : List InstRef
  single : (items.filter InstRef.isApply).length ≤ 1
deriving DecidableEq

namespace InstSet

variable (inst : InstSet)

/-- The object is among the instructions. -/
def requests (obj : Nat) : Prop := .applyActions obj ∈ inst.items

instance (obj : Nat) : Decidable (inst.requests obj) :=
  inferInstanceAs (Decidable (InstRef.applyActions obj ∈ inst.items))

/-- One of the instructions is a `goto_table`. -/
def gotoPresent : Bool := inst.items.any InstRef.isGoto

end InstSet

/-- The fields of an `OFPFlowMod` besides its instructions. -/
structure Header where
  cookie : Nat
  command : Nat
  tableId : Nat
  priority : Nat
  outPort : Nat
  outGroup : Nat
  matchRef : Nat
  hardTimeout : Nat
  idleTimeout : Nat
  flags : Nat
deriving DecidableEq, Repr

/-- A message with the objects that its instructions refer to. -/
structure Message where
  header : Header
  inst : List InstRef
deriving DecidableEq, Repr

/-- The arguments of `flowmod` besides the instructions. -/
structure FlowmodArgs where
  matchRef : Nat
  priority : Option Nat
  command : Nat
  outPort : Nat
  outGroup : Nat
  hardTimeout : Nat
  idleTimeout : Nat
  cookie : Option Nat
  /-- The assertions of `_verify_flowmod` hold. -/
  verified : Bool
deriving DecidableEq, Repr

/-- `OFPFF_SEND_FLOW_REM`. -/
def ofpffSendFlowRem : Nat := 1

/-- What a message says beside its instructions. -/
def ValveTable.header (table : ValveTable) (args : FlowmodArgs) : Header where
  cookie := args.cookie.getD table.flowCookie
  command := args.command
  tableId := table.tableId
  priority := args.priority.getD 0
  outPort := args.outPort
  outGroup := args.outGroup
  matchRef := args.matchRef
  hardTimeout := args.hardTimeout
  idleTimeout := args.idleTimeout
  flags := if table.notifyFlowRemoved then ofpffSendFlowRem else 0

/-- A call of `flowmod` that has made its message. -/
structure Built where
  table : ValveTable
  args : FlowmodArgs
  inst : InstSet
  message : Message
deriving DecidableEq

/-- The objects there are, and the caches of the two functions. -/
structure Builders where
  holders : Nat → Holder
  count : Nat
  applyCache : LruCache (List Action) Nat
  trimCache : LruCache (ValveTable × List InstRef) (List InstRef)
  flowmodCache : LruCache (Header × List InstRef) Message
  built : List Built

/-- No instruction has been made; 128 is the default size of a cache. -/
def Builders.start : Builders :=
  ⟨fun _ => ⟨[], []⟩, 0, .empty 128, .empty 128, .empty 128, []⟩

/-! ## Calls -/

/-- The loop of `_trim_inst`, with what the objects hold after it. -/
def ValveTable.trimRefs (table : ValveTable) (gotoPresent : Bool) :
    (Nat → Holder) → List InstRef → (Nat → Holder) × Option (List InstRef)
  | holders, [] => (holders, some [])
  | holders, .applyActions obj :: rest =>
      match table.trimApply gotoPresent (holders obj).actions with
      | none => (holders, none)
      | some actions =>
          let later := table.trimRefs gotoPresent
            (Function.update holders obj { holders obj with actions }) rest
          (later.1, later.2.map fun rest =>
            if actions.isEmpty then rest else .applyActions obj :: rest)
  | holders, inst :: rest =>
      let later := table.trimRefs gotoPresent holders rest
      (later.1, later.2.map (inst :: ·))

namespace Builders

variable (builders : Builders)

/-- `apply_actions`, with the instruction that it returns. -/
def applyActions (actions : List Action) : Builders × Nat :=
  match builders.applyCache.find actions with
  | some obj => ({ builders with applyCache := builders.applyCache.touch actions }, obj)
  | none =>
      ({ builders with
          holders := Function.update builders.holders builders.count ⟨actions, actions⟩
          count := builders.count + 1
          applyCache := builders.applyCache.insert actions builders.count },
        builders.count)

/-- `_trim_inst`; `none` when an assertion fails. -/
def trimInst (table : ValveTable) (inst : InstSet) : Builders × Option (List InstRef) :=
  match builders.trimCache.find (table, inst.items) with
  | some trimmed =>
      ({ builders with trimCache := builders.trimCache.touch (table, inst.items) }, some trimmed)
  | none =>
      let (holders, trimmed) :=
        if inst.items.any InstRef.isApply then
          table.trimRefs inst.gotoPresent builders.holders inst.items
        else (builders.holders, some inst.items)
      match trimmed with
      | some trimmed =>
          ({ builders with
              holders
              trimCache := builders.trimCache.insert (table, inst.items) trimmed },
            some trimmed)
      | none => ({ builders with holders }, none)

/-- `flowmod` of `valve_of`. -/
def ofFlowmod (header : Header) (inst : List InstRef) : Builders × Message :=
  match builders.flowmodCache.find (header, inst) with
  | some message =>
      ({ builders with flowmodCache := builders.flowmodCache.touch (header, inst) }, message)
  | none =>
      let message := ⟨header, inst⟩
      ({ builders with
          flowmodCache := builders.flowmodCache.insert (header, inst) message }, message)

/-- `flowmod` of `ValveTable`. -/
def flowmod (table : ValveTable) (args : FlowmodArgs) (inst : InstSet) : Builders :=
  let (builders, trimmed) :=
    if inst.items.isEmpty then (builders, some []) else builders.trimInst table inst
  match trimmed with
  | none => builders
  | some trimmed =>
      let (builders, message) := builders.ofFlowmod (table.header args) trimmed
      { builders with built := builders.built ++ [⟨table, args, inst, message⟩] }

end Builders

/-- A call of one of the two functions. -/
inductive Call where
  | applyActions (actions : List Action)
  | flowmod (table : ValveTable) (args : FlowmodArgs) (inst : InstSet)

/-- A call; `flowmod` gets instructions that `apply_actions` has returned. -/
def Builders.step (builders : Builders) : Call → Option Builders
  | .applyActions actions => some (builders.applyActions actions).1
  | .flowmod table args inst =>
      if inst.items.all (InstRef.isMade builders.count) then
        some (builders.flowmod table args inst)
      else none

end Faucet.FlowTable
