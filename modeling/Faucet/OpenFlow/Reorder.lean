import Faucet.Library.OrderedDict
import Faucet.OpenFlow.Switch

/-!
# Reordering of messages

`valve_flowreorder` sends the deletes of a batch first, drops messages that it
takes to be redundant and sorts the rest. A batch is meant to do what its deletes
followed by its other messages do (`PreservesMeaning`).

It does so when the sort of the deletes does not fail, every delete that is
dropped is made up for, and every flow that is added or modified under several
cookies, or modified after it was added, ends up as in the order of the batch
(`ReorderSafe`).
-/

set_option autoImplicit false

namespace Faucet.OpenFlow

/-! ## The pass -/

namespace FlowMod

/-- `is_flowdel` -/
def isFlowdel (mod : FlowMod) : Bool :=
  match mod.command with
  | .delete | .deleteStrict => true
  | _ => false

/-- `is_global_flowdel`; the priority, the strictness and the out port do not matter. -/
def isGlobalFlowdel (mod : FlowMod) : Bool :=
  mod.isFlowdel && mod.tableId == ofpttAll && mod.matchFields.items.isEmpty

end FlowMod

/-- The kinds that `_msg_kind` tells apart. -/
inductive MsgKind where
  | config
  | deleteglobal
  | delete
  | tfm
  | groupadd
  | meteradd
  | flowaddmod
  | other
  | packetout
deriving DecidableEq, Repr

/-- The kind of a group or a meter message. -/
def EntryMod.msgKind {α : Type} (all : Nat) (addKind : MsgKind) : EntryMod α → MsgKind
  | add _ _ => addKind
  | delete id => if id = all then .deleteglobal else .delete

/-- `_msg_kind` -/
def msgKind : Ofmsg → MsgKind
  | .flowMod mod =>
      if mod.isGlobalFlowdel then .deleteglobal
      else if mod.isFlowdel then .delete
      else .flowaddmod
  | .groupMod mod => mod.msgKind ofpgAll .groupadd
  | .meterMod mod => mod.msgKind ofpmAll .meteradd
  | .packetOut _ _ => .packetout
  | .tableFeatures _ => .tfm
  | .setConfig _ | .setAsync _ | .descStatsRequest => .config
  | .barrierRequest | .other _ => .other

/-- The type of a message, as far as deletes are concerned. -/
inductive MsgType where
  | flowMod
  | groupMod
  | meterMod
  | other
deriving DecidableEq, Repr

/-- The class of a message. -/
def msgType : Ofmsg → MsgType
  | .flowMod _ => .flowMod
  | .groupMod _ => .groupMod
  | .meterMod _ => .meterMod
  | _ => .other

/-- `_flowmodkey` -/
structure FlowmodKey where
  matchFields : Match
  cookie : Nat
  priority : Nat
  tableId : Nat
deriving DecidableEq

/-- `_none_flowmodkey`. -/
def flowmodkey : Ofmsg → Option FlowmodKey
  | .flowMod mod => some ⟨mod.matchFields, mod.cookie, mod.priority, mod.tableId⟩
  | _ => none

/-- The attribute `table_id`. -/
def tableId : Ofmsg → Option Nat
  | .flowMod mod => some mod.tableId
  | _ => none

/-- The attribute `priority`. -/
def priority : Ofmsg → Option Nat
  | .flowMod mod => some mod.priority
  | _ => none

/-- The fields of the match. -/
def matchItems : Ofmsg → List OxmField
  | .flowMod mod => mod.matchFields.items
  | _ => []

/-- The first is not after the second in descending order of table and priority. -/
def sortsBefore (first second : Ofmsg) : Bool :=
  let table := (tableId first).getD ofpttAll
  let table' := (tableId second).getD ofpttAll
  table' < table ||
    table' == table && (priority second).getD (2 ^ 16 + 1) ≤ (priority first).getD (2 ^ 16 + 1)

/-- `sort_flows` -/
def sortFlows (ofmsgs : List Ofmsg) : List Ofmsg := ofmsgs.mergeSort sortsBefore

/-- `random.shuffle`, which permutes its list. -/
structure Shuffle where
  run : List Ofmsg → List Ofmsg
  perm : ∀ ofmsgs, (run ofmsgs).Perm ofmsgs

/-- The order may be kept. -/
theorem Shuffle.perm_id (ofmsgs : List Ofmsg) : (id ofmsgs).Perm ofmsgs := .refl ofmsgs

section Pass

variable {κ : Type} [DecidableEq κ]

/-- `dedupe_ofmsgs` -/
def dedupeOfmsgs (key : Ofmsg → κ) (ofmsgs : List Ofmsg) : List Ofmsg :=
  sortFlows (OrderedDict.values key ofmsgs)

/-- `dedupe_ofmsgs` in random order. -/
def dedupeShuffled (shuffle : Shuffle) (key : Ofmsg → κ) (ofmsgs : List Ofmsg) : List Ofmsg :=
  shuffle.run (OrderedDict.values key ofmsgs)

/-- A delete of all tables, without a priority, has its match within the match of
this delete of one table. -/
def overlapped (ofmsgs : List Ofmsg) (ofmsg : Ofmsg) : Bool :=
  ofmsgs.any fun wide =>
    tableId wide == some ofpttAll && priority wide == some 0 &&
      (matchItems wide).all (matchItems ofmsg).contains

/-- `dedupe_overlaps_ofmsgs`; `none` is the `TypeError` of the sort by table, where
`None` and a number are compared. -/
def dedupeOverlapsOfmsgs (key : Ofmsg → κ) (ofmsgs : List Ofmsg) : Option (List Ofmsg) :=
  let deduped := dedupeOfmsgs key ofmsgs
  let tables := OrderedDict.values id (deduped.map tableId)
  let overlapMatches := deduped.any fun ofmsg =>
    tableId ofmsg == some ofpttAll && priority ofmsg == some 0
  let oneTable := tables.any fun table => table.any (· ≠ ofpttAll)
  if overlapMatches && oneTable then
    if none ∈ tables then none
    else
      let sorted := tables.mergeSort fun first second => second.getD 0 ≤ first.getD 0
      some <| sorted.flatMap fun table =>
        deduped.filter fun ofmsg =>
          tableId ofmsg == table && (table == some ofpttAll || !overlapped deduped ofmsg)
  else some deduped

end Pass

/-- Drop the messages that have the key of one of the others. -/
def removeOverlapOfmsgs (ofmsgs others : List Ofmsg) : List Ofmsg :=
  ofmsgs.filter fun ofmsg =>
    !((flowmodkey ofmsg).isSome && others.any fun other => flowmodkey other == flowmodkey ofmsg)

/-- The messages of each kind, in the order of `_OFMSG_ORDER`, with a barrier
after those that suggest one. -/
def inOrder (useBarriers : Bool) (byKind : MsgKind → List Ofmsg) : List Ofmsg :=
  [(MsgKind.config, true), (.deleteglobal, true), (.delete, true), (.tfm, true),
    (.groupadd, true), (.meteradd, true), (.flowaddmod, false), (.other, false),
    (.packetout, false)].flatMap fun (kind, suggestBarrier) =>
      if (byKind kind).isEmpty then []
      else byKind kind ++ if useBarriers && suggestBarrier then [.barrierRequest] else []

/-- The deletes of the batch that are left when there is a global delete. -/
def withoutSuppressed (input : List Ofmsg) : List Ofmsg :=
  (input.filter (msgKind · == .delete)).filter fun ofmsg =>
    !(input.filter (msgKind · == .deleteglobal)).any fun wide => msgType wide == msgType ofmsg

/-- The messages of each kind that are sent, given the deletes without overlaps. -/
def sent (shuffle : Shuffle) (input deletes : List Ofmsg) : MsgKind → List Ofmsg
  | .delete =>
      removeOverlapOfmsgs deletes (dedupeOfmsgs flowmodkey (input.filter (msgKind · == .flowaddmod)))
  | .flowaddmod => dedupeOfmsgs flowmodkey (input.filter (msgKind · == .flowaddmod))
  | .packetout => dedupeShuffled shuffle id (input.filter (msgKind · == .packetout))
  | kind => dedupeOfmsgs id (input.filter (msgKind · == kind))

/-- `valve_flowreorder`; `none` when it raises. -/
def valveFlowreorder (shuffle : Shuffle) (useBarriers : Bool) (input : List Ofmsg) :
    Option (List Ofmsg) :=
  (dedupeOverlapsOfmsgs id (withoutSuppressed input)).map fun deletes =>
    inOrder useBarriers (sent shuffle input deletes)

/-! ## What it is meant to do -/

/-- The message is a delete of flows, groups or meters. -/
def isDelete (ofmsg : Ofmsg) : Bool :=
  msgKind ofmsg == .deleteglobal || msgKind ofmsg == .delete

/-- The deletes of the batch, then its other messages. -/
def deletesFirst (input : List Ofmsg) : List Ofmsg :=
  input.filter isDelete ++ input.filter (!isDelete ·)

/-- The pass returns, and its messages do to every switch what those of the batch
do, deletes first. -/
def PreservesMeaning (shuffle : Shuffle) (useBarriers : Bool) (input : List Ofmsg) : Prop :=
  ∃ output, valveFlowreorder shuffle useBarriers input = some output ∧
    ∀ switch : Switch, switch.applyAll output = switch.applyAll (deletesFirst input)

/-! ## When it does that -/

/-- A global delete stands for every other delete of its type. -/
def Suppressed (input : List Ofmsg) (ofmsg : Ofmsg) : Prop :=
  ∃ wide ∈ input, msgKind wide = .deleteglobal ∧ msgType wide = msgType ofmsg

/-- A delete of all tables, without a priority, stands for the deletes of one table
whose match includes its match. -/
def Overlapped (input : List Ofmsg) (ofmsg : Ofmsg) : Prop :=
  (∃ table, tableId ofmsg = some table ∧ table ≠ ofpttAll) ∧
    ∃ wide ∈ input, msgKind wide = .delete ∧ tableId wide = some ofpttAll ∧
      priority wide = some 0 ∧ matchItems wide ⊆ matchItems ofmsg

/-- An add or a modify stands for the deletes of its key. -/
def Readded (input : List Ofmsg) (ofmsg : Ofmsg) : Prop :=
  ∃ other ∈ input, msgKind other = .flowaddmod ∧ flowmodkey other = flowmodkey ofmsg

/-- The deletes that the pass leaves out. -/
def Dropped (input : List Ofmsg) (ofmsg : Ofmsg) : Prop :=
  msgKind ofmsg = .delete ∧
    (Suppressed input ofmsg ∨ Overlapped input ofmsg ∨ Readded input ofmsg)

/-- Among the deletes that no global delete stands for there are one of all tables
without a priority, one of one table, and one of a group or a meter. -/
def MixesDeletes (input : List Ofmsg) : Prop :=
  (∃ ofmsg ∈ input, msgKind ofmsg = .delete ∧ ¬ Suppressed input ofmsg ∧
      tableId ofmsg = some ofpttAll ∧ priority ofmsg = some 0) ∧
    (∃ ofmsg ∈ input, msgKind ofmsg = .delete ∧ ¬ Suppressed input ofmsg ∧
      ∃ table, tableId ofmsg = some table ∧ table ≠ ofpttAll) ∧
    ∃ ofmsg ∈ input, msgKind ofmsg = .delete ∧ ¬ Suppressed input ofmsg ∧ tableId ofmsg = none

/-- A delete that is sent and removes the flow whenever the given one would. -/
def SentFor (input : List Ofmsg) (id : FlowId) (outPort : Option PortNo) : Prop :=
  ∃ mod, .flowMod mod ∈ input ∧ ¬ Dropped input (.flowMod mod) ∧ mod.reaches id ∧
    (mod.outPort = none ∨ mod.outPort = outPort)

/-- The batch adds the flow. -/
def Adds (input : List Ofmsg) (id : FlowId) : Prop :=
  ∃ mod, .flowMod mod ∈ input ∧ mod.command = .add ∧ mod.names id

/-- An add or a modify of the flow. -/
def sets (id : FlowId) : Ofmsg → Bool
  | .flowMod mod => !mod.isFlowdel && mod.names id
  | _ => false

/-- What a sequence of adds and modifies of one flow makes of it. -/
inductive Outcome where
  | unchanged
  | modified (instructions : List Instruction)
  | installed (entry : FlowEntry)
deriving DecidableEq

namespace Outcome

/-- What a message makes of the outcome so far. -/
def next : Outcome → Ofmsg → Outcome
  | installed entry, .flowMod mod =>
      match mod.command with
      | .add => installed mod.entry
      | _ => installed { entry with instructions := mod.instructions }
  | _, .flowMod mod =>
      match mod.command with
      | .add => installed mod.entry
      | _ => modified mod.instructions
  | outcome, _ => outcome

/-- The flow after the outcome. -/
def run (current : Option FlowEntry) : Outcome → Option FlowEntry
  | unchanged => current
  | modified instructions => current.map fun entry => { entry with instructions }
  | installed entry => some entry

end Outcome

/-- What the messages do to a flow. -/
def outcome (ofmsgs : List Ofmsg) : Outcome := ofmsgs.foldl Outcome.next .unchanged

/-- The outcome for the flow is the same when of its adds and modifies of each cookie
the last one alone is sent, in the place of the first; or the batch does not add the
flow and a delete without a condition on the out port is sent for it. -/
def Settled (input : List Ofmsg) (id : FlowId) : Prop :=
  outcome (OrderedDict.values flowmodkey (input.filter (sets id))) =
      outcome (input.filter (sets id)) ∨
    ¬ Adds input id ∧ SentFor input id none

/-- The condition under which the pass does what it is meant to do. -/
structure ReorderSafe (input : List Ofmsg) : Prop where
  sorts : ¬ MixesDeletes input
  madeUp : ∀ mod id, .flowMod mod ∈ input → Dropped input (.flowMod mod) → mod.reaches id →
    ¬ Adds input id → SentFor input id mod.outPort
  settled : ∀ id, Settled input id

end Faucet.OpenFlow
