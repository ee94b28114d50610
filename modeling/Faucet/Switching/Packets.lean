import Faucet.Flooding.Lookup
import Faucet.Learning.Hosts
import Faucet.Library.TableWalk

/-!
# Packets in the tables of a switch

A packet is handled by the rule of the highest priority that accepts it. The actions of the
rule are carried out one after the other, and what is output is the packet as the actions
before have left it; then the packet may go on to another table.

A packet has its VLAN tags in a row, with the outer one first. A tag is pushed, popped, or
given another id.
-/

set_option autoImplicit false

namespace Faucet.Switching

open OpenFlow
open Flooding (Vid popVlan outputTo)
open Learning (Mac)

/-! ## Packets -/

/-- A packet where it comes in. -/
structure Packet where
  inPort : PortNo
  /-- The ids of the tags, the outer one first. -/
  tags : List Vid
  vlanPcp : ℕ
  ethDst : Mac
  ethSrc : Mac
  ethType : ℕ
deriving DecidableEq, Repr

/-- `OFPActionPushVlan`. -/
def pushVlan : Act := .other 17

/-- The action that sets the id of the outer tag; what is set comes above the fields that are
set for external ports. -/
def setVlanVid (vid : Vid) : Act := .other ((vid + 0x1000) * 256 + 25)

namespace Packet

variable (packet : Packet)

/-- The field of a kind; a packet without a tag has 0 for its VLAN. -/
def value (kind : ℕ) : Option ℕ :=
  if kind = 0 then some packet.inPort
  else if kind = 3 then some packet.ethDst
  else if kind = 4 then some packet.ethSrc
  else if kind = 5 then some packet.ethType
  else if kind = 6 then some (packet.tags.head?.elim 0 (· + 0x1000))
  else if kind = 7 then packet.tags.head?.map fun _ => packet.vlanPcp
  else none

/-- The packet has the field, as far as the mask asks for it. -/
def hasField (field : OxmField) : Bool :=
  match packet.value field.field, field.mask with
  | none, _ => false
  | some value, none => value == field.value
  | some value, some mask => value &&& mask == field.value &&& mask

/-- The packet has all fields of the match. -/
def accepted (fields : Match) : Bool := fields.items.all packet.hasField

/-- What an action that does not output makes of the packet. -/
def changed (code : ℕ) : Packet :=
  if code = 17 then { packet with tags := packet.tags.headD 0 :: packet.tags }
  else if code = 18 then { packet with tags := packet.tags.tail }
  else if code % 256 = 25 then
    if code / 256 < 0x1000 then
      { packet with vlanPcp :=
          if code / 256 = 0 then Learning.pcpExtPortFlag else Learning.pcpNonextPortFlag }
    else { packet with tags := packet.tags.modifyHead fun _ => code / 256 - 0x1000 }
  else packet

/-- The packet after actions. -/
def after : Packet → List Act → Packet
  | packet, [] => packet
  | packet, .other code :: rest => (packet.changed code).after rest
  | packet, _ :: rest => packet.after rest

/-- The packet after the instructions of a rule. -/
def through : Packet → List Instruction → Packet
  | packet, [] => packet
  | packet, .applyActions actions :: rest => (packet.after actions).through rest
  | packet, _ :: rest => packet.through rest

end Packet

/-! ## Outputs -/

/-- A copy of the packet: where it is sent, and with which tags. -/
structure Output where
  port : PortNo
  tags : List Vid
deriving DecidableEq, Repr

/-- What actions output; `groups` says what a group does. -/
def actOutputs (groups : ℕ → Packet → List Output) : Packet → List Act → List Output
  | _, [] => []
  | packet, .output port :: rest =>
      (outputTo packet.inPort port).toList.map (⟨·, packet.tags⟩) ++ actOutputs groups packet rest
  | packet, .group groupId :: rest => groups groupId packet ++ actOutputs groups packet rest
  | packet, .other code :: rest => actOutputs groups (packet.changed code) rest

/-- A group hands a copy of the packet to each of its buckets, which send to no groups. -/
def groupOutputs (switch : Switch) (groupId : ℕ) (packet : Packet) : List Output :=
  (switch.groups groupId).toList.flatMap fun group =>
    group.buckets.flatMap fun bucket => actOutputs (fun _ _ => []) packet bucket.actions

/-- The copies that instructions send. -/
def instOutputs (switch : Switch) : Packet → List Instruction → List Output
  | _, [] => []
  | packet, .applyActions actions :: rest =>
      actOutputs (groupOutputs switch) packet actions ++ instOutputs switch (packet.after actions) rest
  | packet, _ :: rest => instOutputs switch packet rest

/-! ## The way of a packet -/

/-- The rule is one of the highest priority that accept the packet in its table. -/
structure Handles (switch : Switch) (table : ℕ) (packet : Packet) (flow : FlowId)
    (entry : FlowEntry) : Prop where
  inTable : flow.tableId = table
  present : switch.flows flow = some entry
  accepts : packet.accepted flow.matchFields = true
  best : ∀ other, other.tableId = table → switch.flows other ≠ none →
    packet.accepted other.matchFields = true → other.priority ≤ flow.priority

/-- The tables of a switch, by their ids. -/
def tablesOf (switch : Switch) : TableWalk.Tables ℕ Packet Output where
  emits := fun table packet out => ∃ flow entry, Handles switch table packet flow entry ∧
    out ∈ instOutputs switch packet entry.instructions
  passes := fun table packet next changed => ∃ flow entry, Handles switch table packet flow entry ∧
    .gotoTable next ∈ entry.instructions ∧ changed = packet.through entry.instructions

/-- The switch outputs this of a packet that is in the table. -/
def Sends (switch : Switch) (table : ℕ) (packet : Packet) (out : Output) : Prop :=
  TableWalk.Sends (tablesOf switch) table packet out

/-! ## Fields of packets -/

variable {packet : Packet} {fields : Match} {field : OxmField}

theorem Packet.hasField_of_mem (accepts : packet.accepted fields = true)
    (member : field ∈ fields.items) : packet.hasField field = true :=
  List.all_eq_true.mp accepts field member

theorem Packet.inPort_of_mem {portNum : PortNo} (accepts : packet.accepted fields = true)
    (member : Learning.inPort portNum ∈ fields.items) : packet.inPort = portNum :=
  beq_iff_eq.mp (hasField_of_mem accepts member)

/-- A rule for a VLAN accepts packets whose outer tag has its id. -/
theorem Packet.tag_of_mem {vid : Vid} (accepts : packet.accepted fields = true)
    (member : Learning.vlanVid vid ∈ fields.items) : ∃ inner, packet.tags = vid :: inner := by
  have same : packet.tags.head?.elim 0 (· + 0x1000) = vid + 0x1000 :=
    beq_iff_eq.mp (hasField_of_mem accepts member)
  cases tags : packet.tags with
  | nil =>
      rw [tags] at same
      exact absurd same.symm (Nat.add_one_ne_zero (vid + 0xfff))
  | cons outer inner =>
      rw [tags] at same
      change outer + 0x1000 = vid + 0x1000 at same
      exact ⟨inner, by rw [Nat.add_right_cancel same]⟩

/-- A rule for no VLAN accepts packets without a tag. -/
theorem Packet.untagged_of_mem (accepts : packet.accepted fields = true)
    (member : (⟨6, 0, none⟩ : OxmField) ∈ fields.items) : packet.tags = [] := by
  have same : packet.tags.head?.elim 0 (· + 0x1000) = 0 :=
    beq_iff_eq.mp (hasField_of_mem accepts member)
  cases tags : packet.tags with
  | nil => rfl
  | cons outer inner =>
      rw [tags] at same
      exact absurd same (Nat.add_one_ne_zero (outer + 0xfff))

/-! ## Actions -/

@[simp] theorem Packet.changed_inPort (code : ℕ) : (packet.changed code).inPort = packet.inPort := by
  rw [changed]
  split_ifs <;> rfl

@[simp] theorem Packet.changed_popVlan : packet.changed 18 = { packet with tags := packet.tags.tail } :=
  rfl

@[simp] theorem Packet.changed_pushVlan :
    packet.changed 17 = { packet with tags := packet.tags.headD 0 :: packet.tags } := rfl

@[simp] theorem Packet.changed_setVlanVid (vid : Vid) :
    packet.changed ((vid + 0x1000) * 256 + 25) =
      { packet with tags := packet.tags.modifyHead fun _ => vid } := by
  have arith : ∀ n : ℕ, (n + 0x1000) * 256 + 25 ≠ 17 ∧ (n + 0x1000) * 256 + 25 ≠ 18 ∧
      ((n + 0x1000) * 256 + 25) % 256 = 25 ∧ ((n + 0x1000) * 256 + 25) / 256 = n + 0x1000 := by
    omega
  obtain ⟨notPush, notPop, isSet, high⟩ := arith vid
  rw [changed, if_neg notPush, if_neg notPop, if_pos isSet, high,
    if_neg (Nat.not_lt.mpr (Nat.le_add_left _ _)), Nat.add_sub_cancel]

@[simp] theorem Packet.after_inPort (actions : List Act) :
    (packet.after actions).inPort = packet.inPort := by
  induction actions generalizing packet with
  | nil => rfl
  | cons action rest ih => cases action <;> simp [after, ih]

end Faucet.Switching
