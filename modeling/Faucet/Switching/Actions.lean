import Faucet.Switching.Datapath

/-!
# Where lists of actions output

The actions of the rules that forward have one shape: they output the packet with its tag,
then they pop the tag, and then they output what is left (`Acts`). That is so for what a
learned host's rule does, for the flood actions of a VLAN, and for the buckets of its
groups.
-/

set_option autoImplicit false

namespace Faucet.Switching

open OpenFlow
open Flooding (Vid popVlan ofppInPort setExternalForwardingRequested
  setNoExternalForwardingRequested outputTo isOutput)

/-! ## The shape -/

/-- The actions output the tagged packet to the first ports and, once the tag has been popped,
the packet without it to the second ones. -/
inductive Acts (tagged untagged : PortNo → Prop) : Bool → List Act → Prop where
  | nil {popped : Bool} : Acts tagged untagged popped []
  | output {popped : Bool} {port : PortNo} {rest : List Act}
      (target : if popped then untagged port else tagged port)
      (later : Acts tagged untagged popped rest) : Acts tagged untagged popped (.output port :: rest)
  | mark {popped : Bool} {act : Act} {rest : List Act}
      (isMark : act = setExternalForwardingRequested ∨ act = setNoExternalForwardingRequested)
      (later : Acts tagged untagged popped rest) : Acts tagged untagged popped (act :: rest)
  | pop {rest : List Act} (later : Acts tagged untagged true rest) :
      Acts tagged untagged false (popVlan :: rest)

namespace Acts

variable {tagged untagged : PortNo → Prop} {popped : Bool} {acts first rest : List Act}
  {packet : Packet} {out : Output} {groups : ℕ → Packet → List Output}

theorem popVlan_notMem (shape : Acts tagged untagged true acts) : popVlan ∉ acts := by
  generalize same : true = popped at shape
  induction shape with
  | nil => exact List.not_mem_nil
  | output _ _ ih =>
      rw [List.mem_cons, not_or]
      exact ⟨by rintro ⟨⟩, ih same⟩
  | mark isMark _ ih =>
      rw [List.mem_cons, not_or]
      exact ⟨by rcases isMark with rfl | rfl <;> decide, ih same⟩
  | pop => cases same

/-- The pop may only be left out with all that comes after it. -/
theorem sublist (shape : Acts tagged untagged popped acts) (sub : first.Sublist acts)
    (keeps : popVlan ∈ acts → popVlan ∈ first) : Acts tagged untagged popped first := by
  induction shape generalizing first with
  | nil =>
      rw [List.sublist_nil.mp sub]
      exact .nil
  | output target later ih =>
      have other : ∀ port, popVlan ≠ .output port := by rintro port ⟨⟩
      cases sub with
      | cons _ sub => exact ih sub fun member => keeps (List.mem_cons_of_mem _ member)
      | cons_cons _ sub =>
          exact .output target (ih sub fun member =>
            List.mem_of_ne_of_mem (other _) (keeps (List.mem_cons_of_mem _ member)))
  | mark isMark later ih =>
      cases sub with
      | cons _ sub => exact ih sub fun member => keeps (List.mem_cons_of_mem _ member)
      | cons_cons _ sub =>
          refine .mark isMark (ih sub fun member =>
            List.mem_of_ne_of_mem ?_ (keeps (List.mem_cons_of_mem _ member)))
          rcases isMark with rfl | rfl <;> decide
  | pop later ih =>
      cases sub with
      | cons _ sub => exact absurd (sub.subset (keeps List.mem_cons_self)) later.popVlan_notMem
      | cons_cons _ sub => exact .pop (ih sub fun member => absurd member later.popVlan_notMem)

theorem left (shape : Acts tagged untagged popped (first ++ rest)) :
    Acts tagged untagged popped first := by
  induction first generalizing popped with
  | nil => exact .nil
  | cons act first ih =>
      cases shape with
      | output target later => exact .output target (ih later)
      | mark isMark later => exact .mark isMark (ih later)
      | pop later => exact .pop (ih later)

theorem outputs_append {numbers : List PortNo}
    (targets : ∀ number ∈ numbers, if popped then untagged number else tagged number)
    (later : Acts tagged untagged popped rest) :
    Acts tagged untagged popped (numbers.map .output ++ rest) := by
  induction numbers with
  | nil => exact later
  | cons number numbers ih =>
      obtain ⟨target, others⟩ := List.forall_mem_cons.mp targets
      exact .output target (ih others)

/-- **What is output**, and with which tags. -/
theorem mem_outputs (shape : Acts tagged untagged popped acts)
    (member : out ∈ actOutputs groups packet acts) :
    ∃ number, outputTo packet.inPort number = some out.port ∧
      (popped = false ∧ tagged number ∧ out.tags = packet.tags ∨
        untagged number ∧ out.tags = if popped then packet.tags else packet.tags.tail) := by
  induction shape generalizing packet with
  | nil => cases member
  | @output popped port rest target later ih =>
      rw [actOutputs, List.mem_append] at member
      rcases member with here | there
      · obtain ⟨number, sent, rfl⟩ := List.mem_map.mp here
        refine ⟨port, Option.mem_toList.mp sent, ?_⟩
        cases popped with
        | true => exact .inr ⟨target, rfl⟩
        | false => exact .inl ⟨rfl, target, rfl⟩
      · exact ih there
  | mark isMark later ih =>
      rcases isMark with rfl | rfl
      · exact @ih (packet.changed 25) member
      · exact @ih (packet.changed 281) member
  | pop later ih =>
      obtain ⟨number, sent, ⟨no, _⟩ | ⟨target, tags⟩⟩ := ih member
      · cases no
      · exact ⟨number, sent, .inr ⟨target, tags⟩⟩

end Acts

/-! ## Lists that are made of others -/

section Made

variable {tagged untagged : PortNo → Prop} {acts before : List Act}

theorem Acts.deduped (shape : Acts tagged untagged false acts) :
    Acts tagged untagged false (Flooding.dedupedActs acts) :=
  shape.sublist OrderedDict.values_id_sublist OrderedDict.mem_values_id.mpr

/-- **The buckets of a group** have the shape of the actions they are made of. -/
theorem Acts.buckets (shape : Acts tagged untagged false (before ++ acts)) :
    ∀ bucket ∈ Flooding.buildGroupFloodBuckets before acts,
      Acts tagged untagged false bucket.actions := by
  induction acts generalizing before with
  | nil => exact fun bucket none => absurd none List.not_mem_nil
  | cons act rest ih =>
      rw [Flooding.buildGroupFloodBuckets]
      split
      next isOut =>
        rw [List.forall_mem_cons]
        constructor
        · rw [← List.singleton_append, ← List.append_assoc] at shape
          exact shape.left
        · refine ih (shape.sublist (.append (.refl _) (List.sublist_cons_self _ _)) fun member => ?_)
          rcases List.mem_append.mp member with early | late
          · exact List.mem_append_left _ early
          · refine List.mem_append_right _ (List.mem_of_ne_of_mem ?_ late)
            rintro rfl
            cases isOut
      next => exact ih (by rwa [List.append_assoc])

/-- **The outputs of flooding**: the tagged ports first, then the others. -/
theorem acts_floodPortOutputs {taggedPorts untaggedPorts : List Flooding.Port}
    {inPort : Option Flooding.Port} {excludePorts : List PortNo}
    (fromTagged : ∀ port ∈ taggedPorts, ∀ number ∈ Flooding.portOutputs inPort excludePorts port,
      tagged number)
    (fromUntagged : ∀ port ∈ untaggedPorts,
      ∀ number ∈ Flooding.portOutputs inPort excludePorts port, untagged number) :
    Acts tagged untagged false
      (Flooding.floodPortOutputs taggedPorts untaggedPorts inPort excludePorts) := by
  have listed : ∀ {ports : List Flooding.Port} {target : PortNo → Prop},
      (∀ port ∈ ports, ∀ number ∈ Flooding.portOutputs inPort excludePorts port, target number) →
      ∀ number ∈ (ports.flatMap (Flooding.portOutputs inPort excludePorts)).dedup.insertionSort
        (· ≤ ·), target number := by
    intro ports target from_ number member
    obtain ⟨port, isPort, output⟩ := List.mem_flatMap.mp (Flooding.mem_insertionSort_dedup.mp member)
    exact from_ port isPort number output
  refine .outputs_append (listed fromTagged) ?_
  rw [Flooding.floodUntaggedPortOutputs]
  split
  · exact .nil
  · have later : Acts tagged untagged true (Flooding.floodTaggedPortOutputs untaggedPorts inPort
        excludePorts ++ []) := .outputs_append (listed fromUntagged) .nil
    rw [List.append_nil] at later
    exact .pop later

theorem Acts.floodInst (shape : Acts tagged untagged false acts) :
    Flooding.floodInst acts = [] ∨ ∃ actions, Flooding.floodInst acts = [.applyActions actions] ∧
      Acts tagged untagged false actions := by
  unfold Flooding.floodInst
  extract_lets actions
  split
  next => exact .inl rfl
  next =>
    obtain ⟨rest, split⟩ : actions <+: acts := List.rdropWhile_prefix _ acts
    rw [← split] at shape
    exact .inr ⟨actions, rfl, shape.left⟩

end Made

end Faucet.Switching
