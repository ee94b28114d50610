import Faucet.OpenFlow.Successive

/-!
# Where flows and groups come from

Every flow of a switch does what an add or a modify of it has said, and every group is as a
message has added it. So what holds of all adds and modifies of a batch, and of what was
there before, holds of what is there after it, whatever the order (`flows_of_gets`,
`groups_of_gets`). After a batch with a delete of everything it is enough that it holds of
the batch.
-/

set_option autoImplicit false

namespace Faucet.OpenFlow

variable {P : FlowId → List Instruction → Prop} {Q : ℕ → Group → Prop} {switch next : Switch}
  {ofmsg : Ofmsg} {ofmsgs batch : List Ofmsg}

/-- All flows of the switch are of this kind. -/
def Switch.Flows (switch : Switch) (P : FlowId → List Instruction → Prop) : Prop :=
  ∀ flow entry, switch.flows flow = some entry → P flow entry.instructions

/-- All groups of the switch are of this kind. -/
def Switch.Groups (switch : Switch) (Q : ℕ → Group → Prop) : Prop :=
  ∀ groupId group, switch.groups groupId = some group → Q groupId group

/-- The message makes only flows of this kind. -/
def MakesFlows (P : FlowId → List Instruction → Prop) (ofmsg : Ofmsg) : Prop :=
  ∀ mod, ofmsg = .flowMod mod → mod.isFlowdel = false → ∀ flow, mod.names flow = true →
    P flow mod.instructions

/-- The message makes only groups of this kind. -/
def MakesGroups (Q : ℕ → Group → Prop) (ofmsg : Ofmsg) : Prop :=
  ∀ groupId group, ofmsg = .groupMod (.add groupId group) → Q groupId group

theorem makesFlows_of_not_flowMod (other : ∀ mod, ofmsg ≠ .flowMod mod) : MakesFlows P ofmsg :=
  fun mod same => absurd same (other mod)

theorem makesFlows_of_isFlowdel {mod : FlowMod} (isDel : mod.isFlowdel = true) :
    MakesFlows P (.flowMod mod) := by
  rintro other ⟨⟩ notDel
  rw [isDel] at notDel
  cases notDel

theorem makesGroups_flowMod {mod : FlowMod} : MakesGroups Q (.flowMod mod) := by
  rintro groupId group ⟨⟩

/-! ## One message -/

theorem FlowMod.step_cases {mod : FlowMod} {flow : FlowId} {current : Option FlowEntry}
    {entry : FlowEntry} (stepped : mod.step flow current = some entry) :
    (∃ earlier, current = some earlier ∧ earlier.instructions = entry.instructions) ∨
      mod.isFlowdel = false ∧ mod.names flow = true ∧ mod.instructions = entry.instructions := by
  rw [FlowMod.step] at stepped
  rw [FlowMod.isFlowdel]
  cases command : mod.command with
  | add =>
      rw [command] at stepped
      dsimp only at stepped
      split at stepped
      next named =>
        cases stepped
        exact .inr ⟨rfl, named, rfl⟩
      next => exact .inl ⟨entry, stepped, rfl⟩
  | modifyStrict =>
      rw [command] at stepped
      dsimp only at stepped
      split at stepped
      next named =>
        obtain ⟨earlier, _, rfl⟩ := Option.map_eq_some_iff.mp stepped
        exact .inr ⟨rfl, named, rfl⟩
      next => exact .inl ⟨entry, stepped, rfl⟩
  | delete | deleteStrict =>
      rw [command] at stepped
      exact .inl ⟨entry, (Option.filter_eq_some_iff.mp stepped).1, rfl⟩

theorem Switch.Flows.handle (flows : switch.Flows P) (makes : MakesFlows P ofmsg) :
    (switch.handle ofmsg).Flows P := by
  intro flow entry present
  rw [Switch.handle_flows] at present
  cases ofmsg with
  | flowMod mod =>
      rcases FlowMod.step_cases present with ⟨earlier, before, same⟩ | ⟨notDel, named, same⟩
      · exact same ▸ flows flow earlier before
      · exact same ▸ makes mod rfl notDel flow named
  | groupMod mod =>
      cases mod with
      | add => exact flows flow entry present
      | delete => exact flows flow entry (Option.filter_eq_some_iff.mp present).1
  | _ => exact flows flow entry present

theorem Switch.Groups.handle (groups : switch.Groups Q) (makes : MakesGroups Q ofmsg) :
    (switch.handle ofmsg).Groups Q := by
  intro groupId group present
  have stays : ∀ other : Switch, other.groups = switch.groups → other.groups groupId = some group →
      Q groupId group := fun other same found => groups groupId group (same ▸ found)
  cases ofmsg with
  | groupMod mod =>
      cases mod with
      | add id content =>
          change EntryMod.step ofpgAll groupId (switch.groups groupId) (.add id content) = some group
            at present
          rw [EntryMod.step] at present
          split at present
          next same =>
            subst same
            rcases Option.or_eq_some_iff.mp present with before | ⟨_, ⟨⟩⟩
            · exact groups id group before
            · exact makes id group rfl
          next => exact groups groupId group present
      | delete id =>
          change EntryMod.step ofpgAll groupId (switch.groups groupId) (.delete id) = some group
            at present
          rw [EntryMod.step] at present
          split at present
          · cases present
          · exact groups groupId group present
  | _ => exact stays _ rfl present

/-! ## Several messages -/

theorem Switch.Flows.handleAll (flows : switch.Flows P) (makes : ∀ ofmsg ∈ ofmsgs, MakesFlows P ofmsg) :
    (switch.handleAll ofmsgs).Flows P := by
  induction ofmsgs generalizing switch with
  | nil => exact flows
  | cons ofmsg rest ih =>
      obtain ⟨first, later⟩ := List.forall_mem_cons.mp makes
      exact ih (flows.handle first) later

theorem Switch.Groups.handleAll (groups : switch.Groups Q)
    (makes : ∀ ofmsg ∈ ofmsgs, MakesGroups Q ofmsg) : (switch.handleAll ofmsgs).Groups Q := by
  induction ofmsgs generalizing switch with
  | nil => exact groups
  | cons ofmsg rest ih =>
      obtain ⟨first, later⟩ := List.forall_mem_cons.mp makes
      exact ih (groups.handle first) later

/-! ## Batches -/

theorem makesFlows_of_reordered {shuffle : Shuffle} {useBarriers : Bool}
    (returns : valveFlowreorder shuffle useBarriers batch = some ofmsgs)
    (makes : ∀ ofmsg ∈ batch, MakesFlows P ofmsg) : ∀ ofmsg ∈ ofmsgs, MakesFlows P ofmsg := by
  intro ofmsg member
  rcases mem_of_reordered returns member with within | rfl
  · exact makes ofmsg within
  · exact makesFlows_of_not_flowMod (by rintro mod ⟨⟩)

theorem makesGroups_of_reordered {shuffle : Shuffle} {useBarriers : Bool}
    (returns : valveFlowreorder shuffle useBarriers batch = some ofmsgs)
    (makes : ∀ ofmsg ∈ batch, MakesGroups Q ofmsg) : ∀ ofmsg ∈ ofmsgs, MakesGroups Q ofmsg := by
  intro ofmsg member
  rcases mem_of_reordered returns member with within | rfl
  · exact makes ofmsg within
  · rintro groupId group ⟨⟩

/-- **The kinds of flows that a batch keeps.** -/
theorem flows_of_gets (gets : switch.Gets batch next) (flows : switch.Flows P)
    (makes : ∀ ofmsg ∈ batch, MakesFlows P ofmsg) : next.Flows P := by
  obtain ⟨shuffle, useBarriers, delivers⟩ := gets
  obtain ⟨output, returns, rfl⟩ := Option.map_eq_some_iff.mp delivers
  exact flows.handleAll (makesFlows_of_reordered returns makes)

/-- **The kinds of groups that a batch keeps.** -/
theorem groups_of_gets (gets : switch.Gets batch next) (groups : switch.Groups Q)
    (makes : ∀ ofmsg ∈ batch, MakesGroups Q ofmsg) : next.Groups Q := by
  obtain ⟨shuffle, useBarriers, delivers⟩ := gets
  obtain ⟨output, returns, rfl⟩ := Option.map_eq_some_iff.mp delivers
  exact groups.handleAll (makesGroups_of_reordered returns makes)

/-- The message deletes all flows. -/
def WipesFlows (ofmsg : Ofmsg) : Prop := ∃ mod, ofmsg = .flowMod mod ∧ mod.command = .delete ∧
  mod.tableId = ofpttAll ∧ mod.matchFields = .any ∧ mod.outPort = none

theorem msgKind_of_wipesFlows (wipes : WipesFlows ofmsg) : msgKind ofmsg = .deleteglobal := by
  obtain ⟨mod, rfl, command, table, fields, _⟩ := wipes
  simp [msgKind, FlowMod.isGlobalFlowdel, FlowMod.isFlowdel, command, table, fields, Match.any]

theorem flows_handle_wipes (wipes : WipesFlows ofmsg) : (switch.handle ofmsg).Flows P := by
  obtain ⟨mod, rfl, command, table, fields, anyPort⟩ := wipes
  intro flow entry present
  change mod.step flow (switch.flows flow) = some entry at present
  rw [FlowMod.step, command] at present
  obtain ⟨_, stays⟩ := Option.filter_eq_some_iff.mp present
  simp [FlowMod.removes, FlowMod.reaches, FlowMod.outPortMatches, command, table, fields, anyPort,
    Match.covers, Match.any] at stays

/-- **A batch that deletes all flows** leaves only flows of its own. -/
theorem flows_of_wiped (gets : switch.Gets batch next) (wiped : ∃ ofmsg ∈ batch, WipesFlows ofmsg)
    (makes : ∀ ofmsg ∈ batch, MakesFlows P ofmsg) : next.Flows P := by
  obtain ⟨shuffle, useBarriers, delivers⟩ := gets
  obtain ⟨output, returns, rfl⟩ := Option.map_eq_some_iff.mp delivers
  obtain ⟨ofmsg, member, wipes⟩ := wiped
  obtain ⟨first, later, rfl⟩ := List.append_of_mem
    (reordered_of_global returns member (msgKind_of_wipesFlows wipes))
  have kept := makesFlows_of_reordered returns makes
  rw [Switch.handleAll, List.foldl_append, List.foldl_cons]
  exact (flows_handle_wipes wipes).handleAll fun other within =>
    kept other (List.mem_append_right _ (List.mem_cons_of_mem _ within))

/-- **A batch that deletes all groups** leaves only groups of its own. -/
theorem groups_of_wiped (gets : switch.Gets batch next)
    (wiped : .groupMod (.delete ofpgAll) ∈ batch)
    (makes : ∀ ofmsg ∈ batch, MakesGroups Q ofmsg) : next.Groups Q := by
  obtain ⟨shuffle, useBarriers, delivers⟩ := gets
  obtain ⟨output, returns, rfl⟩ := Option.map_eq_some_iff.mp delivers
  have global : msgKind (.groupMod (.delete ofpgAll)) = .deleteglobal := by decide
  obtain ⟨first, later, rfl⟩ := List.append_of_mem (reordered_of_global returns wiped global)
  have kept := makesGroups_of_reordered returns makes
  rw [Switch.handleAll, List.foldl_append, List.foldl_cons]
  refine Switch.Groups.handleAll (fun groupId group present => ?_) fun other within =>
    kept other (List.mem_append_right _ (List.mem_cons_of_mem _ within))
  rw [Switch.handle] at present
  simp [Switch.apply, EntryMod.step] at present

end Faucet.OpenFlow
