import Faucet.Lacp.PortRules
import Faucet.Library.KeyedChanges

/-!
# A port without LACP has its rules

A port that has no LACP and is neither a stack port nor a coprocessor port (`Plain`) has in the
`vlan` table the rules that its configuration asks for while it is running, and no others, in every
state of a run with the datapath connected (`hasRules_of_orderly`). The port may go up and down,
and be added, changed and deleted by reloads. What a reload takes over as it is has to have the
same rules as before, and a cold start must not leave out a port that is running.
-/

set_option autoImplicit false

namespace Faucet.Lacp

open OpenFlow
open Egress (ignorePort)
open Learning (inPort)
open TransitionSystem (Reaches)

variable {dp : Datapath} {p : PortNo} {mod : FlowMod} {mods : List FlowMod} {port old new : LagPort}
  {nominated : PortNo → Bool} {ports : List LagPort} {numbers : List PortNo}

/-! ## Plain ports -/

/-- A port without LACP that is neither a stack port nor a coprocessor port. Its rules refer to
no group. -/
structure LagPort.Plain (dp : Datapath) (port : LagPort) : Prop where
  lacp : port.lacp = 0
  stack : port.stack = none
  coprocessor : port.coprocessor = none
  noGroups : ∀ rule ∈ dp.managersAddPort port, ∀ groupId, rule.entry.refersTo groupId = false

/-- The rules of a port that may be configured: none while it does not run. -/
def Datapath.portRules (dp : Datapath) : Option LagPort → List FlowMod
  | some port => if port.running then dp.managersAddPort port else []
  | none => []

theorem mem_portRules :
    mod ∈ dp.portRules (some port) ↔ port.running = true ∧ mod ∈ dp.managersAddPort port := by
  rw [Datapath.portRules]
  split
  next running => exact (and_iff_right running).symm
  next stopped => exact iff_of_false List.not_mem_nil fun both => stopped both.1

theorem add_of_portRules {found : Option LagPort} (listed : mod ∈ dp.portRules found) :
    mod.command = .add := by
  cases found with
  | none => cases listed
  | some port => exact (rule_managersAddPort port mod (mem_portRules.mp listed).2).2

theorem portRules_of_stopped (stopped : port.running = false) :
    dp.portRules (some port) = [] := by
  rw [Datapath.portRules, stopped]
  rfl

theorem stopped_of_down : (port.setPhysUp false).running = false := Bool.and_false _

theorem withdraws_flowdel {fields : Match} {priority : ℕ} {instructions : List Instruction} :
    Withdraws (dp.flowdel fields priority false) (dp.flowmod fields priority instructions) :=
  ⟨rfl, rfl, rfl, rfl⟩

section Plain

variable (plain : port.Plain dp)
include plain

theorem LagPort.Plain.setPhysUp (physUp : Bool) : (port.setPhysUp physUp).Plain dp :=
  ⟨plain.lacp, plain.stack, plain.coprocessor, plain.noGroups⟩

theorem LagPort.Plain.delPort_eq (hasVlans : port.hasVlans = true) : dp.delPort port =
    (if port.nativeVlan.isSome || port.countUntagVlanMiss then
      [dp.flowdel (Datapath.nullVlanMatch port.number) Learning.lowPriority false] else []) ++
    port.taggedVlans.map fun vlan =>
      dp.flowdel (Datapath.vlanMatch port.number vlan.1) Learning.lowPriority false := by
  have noLacp : ¬ port.lacp ≠ 0 := fun other => other plain.lacp
  rw [Datapath.delPort, if_pos hasVlans, if_neg noLacp, List.append_nil]

/-- **Every rule of the port is withdrawn** by a message of `del_port`. -/
theorem LagPort.Plain.withdraws : ∀ rule ∈ dp.managersAddPort port,
    ∃ delete ∈ dp.managersDelPort port, Withdraws delete rule := by
  intro rule member
  have ofDelPort : ∀ delete ∈ dp.delPort port, delete ∈ dp.managersDelPort port :=
    fun delete listed => List.mem_append_left _ (List.mem_append_left _ listed)
  simp only [Datapath.managersAddPort, Datapath.addPort, plain.coprocessor, plain.stack,
    plain.lacp, List.append_nil, List.mem_append, List.mem_ite_nil_right, List.mem_map] at member
  rcases member with (⟨hasVlans, (⟨vlan, listed, rfl⟩ | member) | ⟨isLacp, _⟩⟩ |
    ⟨receives, member⟩) | ⟨outputs, member⟩
  · refine ⟨_, ofDelPort _ ?_, withdraws_flowdel⟩
    rw [plain.delPort_eq hasVlans]
    exact List.mem_append_right _ (List.mem_map_of_mem listed)
  · have untagged : (port.nativeVlan.isSome || port.countUntagVlanMiss) = true →
        dp.flowdel (Datapath.nullVlanMatch port.number) Learning.lowPriority false ∈
          dp.managersDelPort port := by
      intro hasRule
      refine ofDelPort _ ?_
      rw [plain.delPort_eq hasVlans, if_pos hasRule]
      exact List.mem_append_left _ (List.mem_singleton_self _)
    split at member
    next vlan native =>
      cases List.mem_singleton.mp member
      exact ⟨_, untagged (by rw [native]; rfl), withdraws_flowdel⟩
    next =>
      obtain ⟨counts, member⟩ := List.mem_ite_nil_right.mp member
      cases List.mem_singleton.mp member
      exact ⟨_, untagged (by rw [counts, Bool.or_true]), withdraws_flowdel⟩
  · exact absurd rfl isLacp
  · cases List.mem_singleton.mp member
    refine ⟨_, List.mem_append_left _ (List.mem_append_right _ ?_), withdraws_flowdel⟩
    rw [if_pos receives]
    exact List.mem_singleton_self _
  · cases List.mem_singleton.mp member
    refine ⟨_, List.mem_append_right _ ?_, withdraws_flowdel⟩
    rw [if_pos outputs]
    exact List.mem_singleton_self _

theorem portUp_plain (coldStart : Bool) : dp.portUp nominated coldStart port =
    (port.setPhysUp true, dp.portRules (some (port.setPhysUp true))) := by
  have lacp : ¬ (port.setPhysUp true).lacp ≠ 0 := fun other => other plain.lacp
  rw [Datapath.portUp, Datapath.portRules]
  dsimp only
  cases running : (port.setPhysUp true).running with
  | false => rfl
  | true =>
      rw [if_neg lacp]
      rfl

theorem portDown_plain : dp.portDown nominated port =
    (port.setPhysUp false, dp.managersDelPort port) := by
  have lacp : ¬ (port.setPhysUp false).lacp ≠ 0 := fun other => other plain.lacp
  rw [Datapath.portDown, if_neg lacp]
  rfl

end Plain

/-! ## Changes of ports -/

/-- The rules of the port follow its change. -/
abbrev RulesFollow (dp : Datapath) (p : PortNo) (ports : List LagPort) (mods : List FlowMod)
    (changed : List LagPort) : Prop :=
  Leaves p (dp.portRules (findPort ports p)) mods (dp.portRules (findPort changed p)) ∨
    Rewrites p (dp.portRules (findPort ports p)) mods (dp.portRules (findPort changed p))

/-- Ports have changed with these messages. -/
structure Follows (dp : Datapath) (p : PortNo) (ports : List LagPort) (mods : List FlowMod)
    (changed : List LagPort) : Prop where
  numbers : (changed.map (·.number)).Nodup
  plain : ∀ port ∈ findPort changed p, port.Plain dp
  about : ∀ mod ∈ mods, ∃ q, AboutPort dp q mod
  rules : RulesFollow dp p ports mods changed

/-- The messages about the port are some deletes, and adds of the rules that are wanted. -/
theorem Rewrites.of_own {rules wanted : List FlowMod} (deletes : List FlowMod)
    (own : ∀ mod, mod ∈ mods ∧ inPort p ∈ mod.matchFields.items ↔ mod ∈ deletes ∨ mod ∈ wanted)
    (areDeletes : ∀ mod ∈ deletes, mod.command = .delete)
    (areAdds : ∀ mod ∈ wanted, mod.command = .add)
    (gone : ∀ rule ∈ rules, rule ∈ wanted ∨ ∃ delete ∈ deletes, Withdraws delete rule) :
    Rewrites p rules mods wanted := by
  refine ⟨fun mod member sends isAdd => ?_, fun mod listed => ?_, fun rule listed => ?_⟩
  · refine ((own mod).mp ⟨member, sends⟩).resolve_left fun deletes => ?_
    cases isAdd.symm.trans (areDeletes mod deletes)
  · exact ⟨((own mod).mpr (.inr listed)).1, areAdds mod listed⟩
  · refine (gone rule listed).imp_right ?_
    rintro ⟨delete, member, withdraws⟩
    exact ⟨delete, ((own delete).mpr (.inl member)).1, withdraws⟩

section Follows

variable (unique : (ports.map (·.number)).Nodup)
include unique

theorem Follows.refl (plain : ∀ port ∈ findPort ports p, port.Plain dp) :
    Follows dp p ports [] ports :=
  ⟨unique, plain, List.forall_mem_nil _, .inl ⟨List.forall_mem_nil _, rfl⟩⟩

/-- Changes of other ports. -/
theorem follows_of_absent (plain : ∀ port ∈ findPort ports p, port.Plain dp)
    {change : LagPort → LagPort × List FlowMod} (onePort : OnePort dp change)
    (absent : findPort ports p = none ∨ p ∉ numbers) :
    Follows dp p ports (eachPort change ports numbers).2 (eachPort change ports numbers).1 := by
  obtain ⟨kept, others⟩ := onePort.eachPort_of_absent absent
  refine ⟨?_, ?_, onePort.about_eachPort, .inl ⟨others, ?_⟩⟩
  · rwa [map_number_eachPort]
  · rwa [kept]
  · rw [kept]

theorem portsAdd_follows (dp : Datapath) (nominated : PortNo → Bool)
    (plain : ∀ port ∈ findPort ports p, port.Plain dp) (valid : ignorePort p = false)
    (portNo : PortNo) : Follows dp p ports (dp.portsAdd nominated false ports [portNo]).2
      (dp.portsAdd nominated false ports [portNo]).1 := by
  have onePort := onePort_portUp dp nominated false
  by_cases absent : findPort ports p = none ∨ p ∉ [portNo]
  · exact follows_of_absent unique plain onePort absent
  · rw [not_or, not_not] at absent
    obtain ⟨port, found⟩ := Option.ne_none_iff_exists'.mp absent.1
    have isPlain := plain port found
    obtain ⟨final, own⟩ :=
      onePort.eachPort_of_mem (List.nodup_singleton portNo) absent.2 valid found
    rw [portUp_plain isPlain] at final own
    refine ⟨?_, ?_, onePort.about_eachPort, .inr ?_⟩
    · rwa [Datapath.portsAdd, map_number_eachPort]
    · rw [Datapath.portsAdd, final]
      rintro _ ⟨⟩
      exact isPlain.setPhysUp true
    · rw [Datapath.portsAdd, final, found]
      refine .of_own [] (fun mod => (own mod).trans (by simp)) (List.forall_mem_nil _)
        (fun mod => add_of_portRules) fun rule listed => .inl ?_
      obtain ⟨running, listed⟩ := mem_portRules.mp listed
      have enabled : port.enabled = true := ((Bool.and_eq_true _ _).mp running).1
      exact mem_portRules.mpr ⟨(Bool.and_true _).trans enabled, listed⟩

theorem portsDelete_follows (dp : Datapath) (nominated : PortNo → Bool)
    (plain : ∀ port ∈ findPort ports p, port.Plain dp) (valid : ignorePort p = false)
    (portNo : PortNo) : Follows dp p ports (dp.portsDelete nominated ports [portNo]).2
      (dp.portsDelete nominated ports [portNo]).1 := by
  have onePort := onePort_portDown dp nominated
  by_cases absent : findPort ports p = none ∨ p ∉ [portNo]
  · exact follows_of_absent unique plain onePort absent
  · rw [not_or, not_not] at absent
    obtain ⟨port, found⟩ := Option.ne_none_iff_exists'.mp absent.1
    have isPlain := plain port found
    obtain ⟨final, own⟩ :=
      onePort.eachPort_of_mem (List.nodup_singleton portNo) absent.2 valid found
    rw [portDown_plain isPlain] at final own
    refine ⟨?_, ?_, onePort.about_eachPort, .inr ?_⟩
    · rwa [Datapath.portsDelete, map_number_eachPort]
    · rw [Datapath.portsDelete, final]
      rintro _ ⟨⟩
      exact isPlain.setPhysUp false
    · rw [Datapath.portsDelete, final, found, portRules_of_stopped stopped_of_down]
      refine .of_own (dp.managersDelPort port) (fun mod => (own mod).trans (by simp))
        (fun mod listed => (delete_managersDelPort _ mod listed).2) (List.forall_mem_nil _)
        fun rule listed => .inr (isPlain.withdraws rule (mem_portRules.mp listed).2)

/-- A port status, of the port or of another one. -/
theorem portStatusHandler_follows (dp : Datapath) (nominated : PortNo → Bool)
    (plain : ∀ port ∈ findPort ports p, port.Plain dp) (valid : ignorePort p = false)
    (portNo : PortNo) (reason : Ports.Reason) (ofState : ℕ) :
    Follows dp p ports (dp.portStatusHandler nominated ports portNo reason ofState).2
      (dp.portStatusHandler nominated ports portNo reason ofState).1 := by
  have unchanged : Follows dp p ports [] ports := .refl unique plain
  have added := portsAdd_follows unique dp nominated plain valid portNo
  have deleted := portsDelete_follows unique dp nominated plain valid portNo
  rw [Datapath.portStatusHandler]
  cases port? ports portNo with
  | none => exact unchanged
  | some other =>
      dsimp only
      split
      next => exact unchanged
      split
      next => exact unchanged
      split
      next =>
        split
        next => exact added
        next => exact deleted
      next =>
        split
        next => exact deleted
        next => exact unchanged

/-- A LACP packet is not one of the port. -/
theorem lacpHandler_follows (dp : Datapath) (nominated : PortNo → Bool)
    (plain : ∀ port ∈ findPort ports p, port.Plain dp) (portNo : PortNo) (synchronization : Bool)
    (now : ℤ) : Follows dp p ports (dp.lacpHandler nominated ports portNo synchronization now).2
      (dp.lacpHandler nominated ports portNo synchronization now).1 := by
  have unchanged : Follows dp p ports [] ports := .refl unique plain
  rw [Datapath.lacpHandler]
  cases there : findPort ports portNo with
  | none => exact unchanged
  | some other =>
      dsimp only
      split
      next => exact unchanged
      next isLacp =>
        have otherNumber := number_of_findPort there
        have different : other.number ≠ p := by
          rintro rfl
          rw [← otherNumber] at there
          exact isLacp (plain other there).lacp
        have about : ∀ mod ∈ (dp.lacpUpdate other synchronization true false
            (nominated other.number) (some now)).2, AboutPort dp other.number mod :=
          aboutPort_lacpUpdate other
        generalize result : dp.lacpUpdate other synchronization true false
          (nominated other.number) (some now) = next at about
        have nextNumber : next.1.number ≠ p := by
          rw [← result, lacpUpdate_number]
          exact different
        have kept : findPort (setPort ports next.1) p = findPort ports p := by
          cases found : findPort ports p with
          | none => exact findPort_setPort_none _ found
          | some port => rw [findPort_setPort _ found, if_neg nextNumber]
        refine ⟨?_, ?_, fun mod member => ⟨_, about mod member⟩, .inl ⟨fun mod member => ?_, ?_⟩⟩
        · rwa [map_number_setPort]
        · rwa [kept]
        · exact fun sends => different (port_of_match (about mod member).sends sends)
        · rw [kept]

/-- Only ports with LACP expire. -/
theorem lacpStateExpire_follows (dp : Datapath) (nominated : PortNo → Bool)
    (plain : ∀ port ∈ findPort ports p, port.Plain dp) {now : ℤ} {aged : List PortNo}
    (expires : aged.Perm (dp.agedPorts now ports)) :
    Follows dp p ports (dp.lacpStateExpire nominated now ports aged).2
      (dp.lacpStateExpire nominated now ports aged).1 := by
  refine follows_of_absent unique plain (onePort_lacpUpdate nominated) (.inr fun member => ?_)
  obtain ⟨port, known, isNumber⟩ := List.mem_map.mp (expires.mem_iff.mp member)
  rw [List.mem_filter, Bool.and_eq_true, Bool.and_eq_true, decide_eq_true_eq] at known
  exact known.2.1.1 (plain port (KeyedChanges.find?_eq_some unique known.1 isNumber)).lacp

end Follows

/-! ## Reloads -/

section Reload

variable {reload : Reload} {left : List LagPort} {dynUpPortNos : Finset PortNo}

theorem LagPort.Plain.cloned (plain : port.Plain dp) :
    (reload.cloned ports left port).Plain dp := by
  rw [Reload.cloned]
  repeat' split
  all_goals exact ⟨plain.lacp, plain.stack, plain.coprocessor, plain.noGroups⟩

theorem managersAddPort_cloned :
    dp.managersAddPort (reload.cloned ports left port) = dp.managersAddPort port := by
  rw [Reload.cloned]
  repeat' split
  all_goals rfl

theorem findPort_map_cloned : findPort (reload.ports.map (reload.cloned ports left)) p =
    (findPort reload.ports p).map (reload.cloned ports left) := by
  cases found : findPort reload.ports p with
  | some port => exact findPort_cloned found
  | none =>
      rw [Option.map_none, findPort, List.find?_eq_none]
      intro clone member
      obtain ⟨port, known, rfl⟩ := List.mem_map.mp member
      rw [cloned_number]
      exact List.find?_eq_none.mp found port known

/-- A reload, seen from one port. -/
structure Seen (dp : Datapath) (nominated : PortNo → Bool) (p : PortNo) (ports : List LagPort)
    (dynUpPortNos : Finset PortNo) (reload : Reload) (left final : List LagPort)
    (mods : List FlowMod) : Prop where
  leftPort : findPort left p = (findPort ports p).map fun port =>
    if p ∈ reload.deleted ∨ p ∈ reload.changed then (dp.portDown nominated port).1 else port
  finalPort : findPort final p = (findPort reload.ports p).map fun port =>
    if p ∈ dynUpPortNos ∧ (p ∈ reload.added ∨ p ∈ reload.changed) then
      (dp.portUp nominated false (reload.cloned ports left port)).1
    else reload.cloned ports left port
  own : ∀ mod, mod ∈ mods ∧ inPort p ∈ mod.matchFields.items ↔
    ((p ∈ reload.deleted ∨ p ∈ reload.changed) ∧
      ∃ port ∈ findPort ports p, mod ∈ (dp.portDown nominated port).2) ∨
    (p ∈ dynUpPortNos ∧ (p ∈ reload.added ∨ p ∈ reload.changed)) ∧
      ∃ port ∈ findPort reload.ports p,
        mod ∈ (dp.portUp nominated false (reload.cloned ports left port)).2

/-- The port is not deleted or added as well as changed. -/
theorem applyConfigChanges_seen (dp : Datapath) (nominated : PortNo → Bool)
    (ports : List LagPort) (dynUpPortNos : Finset PortNo)
    (valid : ignorePort p = false) (onceDeleted : reload.deleted.Nodup)
    (onceAdded : reload.added.Nodup) (onceChanged : reload.changed.Nodup)
    (notDeleted : p ∈ reload.changed → p ∉ reload.deleted)
    (notAdded : p ∈ reload.changed → p ∉ reload.added) :
    ∃ left, Seen dp nominated p ports dynUpPortNos reload left
      (dp.applyConfigChanges nominated ports dynUpPortNos reload).1
      (dp.applyConfigChanges nominated ports dynUpPortNos reload).2 := by
  have down := onePort_portDown dp nominated
  have up := onePort_portUp dp nominated false
  rw [Datapath.applyConfigChanges]
  dsimp only
  obtain ⟨find₁, own₁⟩ := down.eachPort_own ports onceDeleted valid
  rw [Datapath.portsDelete, Datapath.portsAdd]
  generalize eachPort (dp.portDown nominated) ports reload.deleted = afterDeleted at find₁ own₁ ⊢
  obtain ⟨find₂, own₂⟩ := down.eachPort_own afterDeleted.1 onceChanged valid
  generalize eachPort (dp.portDown nominated) afterDeleted.1 reload.changed = left at find₂ own₂ ⊢
  obtain ⟨find₃, own₃⟩ := up.eachPort_own (reload.ports.map (reload.cloned ports left.1))
    (onceAdded.filter (· ∈ dynUpPortNos)) valid
  generalize eachPort (dp.portUp nominated false) (reload.ports.map (reload.cloned ports left.1))
    (reload.added.filter (· ∈ dynUpPortNos)) = afterAdded at find₃ own₃ ⊢
  obtain ⟨find₄, own₄⟩ := up.eachPort_own afterAdded.1
    (onceChanged.filter (· ∈ dynUpPortNos)) valid
  rw [find₁] at find₂ own₂
  rw [findPort_map_cloned] at find₃ own₃
  rw [find₃] at find₄ own₄
  refine ⟨left.1, ?_, ?_, fun mod => ?_⟩
  · rw [find₂, Option.map_map]
    refine congrArg (Option.map · _) (funext fun port => ?_)
    by_cases changed : p ∈ reload.changed <;> simp [changed, notDeleted]
  · rw [find₄, Option.map_map, Option.map_map]
    refine congrArg (Option.map · _) (funext fun port => ?_)
    by_cases changed : p ∈ reload.changed <;> simp [changed, notAdded, and_comm]
  · simp only [List.mem_append, or_and_right, own₁ mod, own₂ mod, own₃ mod, own₄ mod]
    by_cases changed : p ∈ reload.changed
    · simp [changed, notDeleted changed, notAdded changed]
    · simp [changed, and_comm]

theorem about_applyConfigChanges (dp : Datapath) (nominated : PortNo → Bool) :
    ∀ mod ∈ (dp.applyConfigChanges nominated ports dynUpPortNos reload).2,
      ∃ q, AboutPort dp q mod := by
  have down := onePort_portDown dp nominated
  have up := onePort_portUp dp nominated false
  intro mod member
  rw [Datapath.applyConfigChanges] at member
  dsimp only at member
  simp only [List.mem_append] at member
  rcases member with ((deleted | changed) | added) | readded
  · exact down.about_eachPort mod deleted
  · exact down.about_eachPort mod changed
  · exact up.about_eachPort mod added
  · exact up.about_eachPort mod readded

theorem map_number_applyConfigChanges (dp : Datapath) (nominated : PortNo → Bool) :
    (dp.applyConfigChanges nominated ports dynUpPortNos reload).1.map (·.number) =
      reload.ports.map (·.number) := by
  rw [Datapath.applyConfigChanges]
  dsimp only
  rw [Datapath.portsAdd, map_number_eachPort, map_number_eachPort, List.map_map]
  exact List.map_congr_left fun port _ => cloned_number

/-- A new port does not run yet. -/
theorem stopped_of_new (foundOld : findPort ports port.number = none)
    (foundLeft : findPort left port.number = none) :
    (reload.cloned ports left port).running = false := by
  rw [Reload.cloned, foundOld, foundLeft]
  exact Bool.and_false _

/-- A port that has been changed does not run any more. -/
theorem stopped_of_changed (foundLeft : findPort left port.number = some (old.setPhysUp false)) :
    (reload.cloned ports left port).running = false := by
  rw [Reload.cloned, foundLeft]
  exact Bool.and_false _

/-- The rules of a port that does not run are none before it is up. -/
theorem portRules_of_reload (stopped : port.running = false) (up : Prop) [Decidable up] :
    dp.portRules (some (if up then port.setPhysUp true else port)) =
      if up then dp.portRules (some (port.setPhysUp true)) else [] := by
  split
  next => rfl
  next => exact portRules_of_stopped stopped

/-- What a reload that is not a cold start takes over as it is has the same rules. -/
def SameRules (dp : Datapath) (p : PortNo) (ports : List LagPort) (reload : Reload) : Prop :=
  p ∉ reload.changed → ∀ old ∈ findPort ports p, ∀ new ∈ findPort reload.ports p,
    dp.managersAddPort new = dp.managersAddPort old

/-! ## One port in a reload -/

section Seen

variable {final : List LagPort}
  (seen : Seen dp nominated p ports dynUpPortNos reload left final mods)
include seen

theorem Seen.plain (plainNew : ∀ port ∈ findPort reload.ports p, port.Plain dp) :
    ∀ port ∈ findPort final p, port.Plain dp := by
  rw [seen.finalPort]
  intro port isFinal
  obtain ⟨new, foundNew, rfl⟩ := Option.mem_map.mp isFinal
  have isPlain : (reload.cloned ports left new).Plain dp := (plainNew new foundNew).cloned
  rw [portUp_plain isPlain]
  split
  next => exact isPlain.setPhysUp true
  next => exact isPlain

/-- A port that is in neither configuration. -/
theorem Seen.rules_of_absent (foundOld : findPort ports p = none)
    (foundNew : findPort reload.ports p = none) : RulesFollow dp p ports mods final := by
  have own := seen.own
  rw [foundOld, foundNew] at own
  rw [RulesFollow, seen.finalPort, foundOld, foundNew]
  refine .inl ⟨fun mod member sends => ?_, rfl⟩
  rcases (own mod).mp ⟨member, sends⟩ with ⟨_, port, none, _⟩ | ⟨_, port, none, _⟩
  · cases none
  · cases none

theorem Seen.rules_of_added (isAdded : p ∈ reload.added) (foundOld : findPort ports p = none)
    (foundNew : findPort reload.ports p = some new) (plain : new.Plain dp) :
    RulesFollow dp p ports mods final := by
  have own := seen.own
  have foundLeft := seen.leftPort
  have isPlain : (reload.cloned ports left new).Plain dp := plain.cloned
  rw [RulesFollow, seen.finalPort]
  rw [foundOld] at foundLeft
  rw [foundOld, foundNew] at own ⊢
  obtain rfl := number_of_findPort foundNew
  have stopped : (reload.cloned ports left new).running = false := stopped_of_new foundOld foundLeft
  rw [Option.map_some, portUp_plain isPlain, portRules_of_reload stopped]
  by_cases up : new.number ∈ dynUpPortNos
  · rw [if_pos ⟨up, .inl isAdded⟩]
    refine .inr (.of_own [] (fun mod => (own mod).trans ?_) (List.forall_mem_nil _)
      (fun mod => add_of_portRules) (List.forall_mem_nil _))
    simp [up, isAdded, portUp_plain isPlain]
  · rw [if_neg fun both => up both.1]
    refine .inl ⟨fun mod member sends => ?_, rfl⟩
    rcases (own mod).mp ⟨member, sends⟩ with ⟨_, port, none, _⟩ | ⟨both, _⟩
    · cases none
    · exact up both.1

theorem Seen.rules_of_deleted (isDeleted : p ∈ reload.deleted)
    (foundOld : findPort ports p = some old) (foundNew : findPort reload.ports p = none)
    (isOld : old.Plain dp) : RulesFollow dp p ports mods final := by
  have own := seen.own
  rw [RulesFollow, seen.finalPort]
  rw [foundOld, foundNew] at own ⊢
  refine .inr (.of_own (dp.managersDelPort old) (fun mod => (own mod).trans ?_)
    (fun mod listed => (delete_managersDelPort _ mod listed).2) (List.forall_mem_nil _)
    fun rule listed => .inr (isOld.withdraws rule (mem_portRules.mp listed).2))
  simp [isDeleted, portDown_plain isOld, Datapath.portRules]

theorem Seen.rules_of_changed (changed : p ∈ reload.changed)
    (foundOld : findPort ports p = some old) (foundNew : findPort reload.ports p = some new)
    (isOld : old.Plain dp) (plain : new.Plain dp) : RulesFollow dp p ports mods final := by
  have own := seen.own
  have foundLeft := seen.leftPort
  have isPlain : (reload.cloned ports left new).Plain dp := plain.cloned
  rw [RulesFollow, seen.finalPort]
  rw [foundOld] at foundLeft
  rw [foundOld, foundNew] at own ⊢
  obtain rfl := number_of_findPort foundNew
  rw [Option.map_some, if_pos (.inr changed), portDown_plain isOld] at foundLeft
  rw [Option.map_some, portUp_plain isPlain, portRules_of_reload (stopped_of_changed foundLeft)]
  refine .inr (.of_own (dp.managersDelPort old) (fun mod => (own mod).trans ?_)
    (fun mod listed => (delete_managersDelPort _ mod listed).2) (fun mod listed => ?_)
    fun rule listed => .inr (isOld.withdraws rule (mem_portRules.mp listed).2))
  · simp [changed, portDown_plain isOld, portUp_plain isPlain]
  · exact add_of_portRules (List.mem_ite_nil_right.mp listed).2

/-- A port that is taken over as it is. -/
theorem Seen.rules_of_same (finds : reload.Finds ports p old new) (changed : p ∉ reload.changed)
    (foundOld : findPort ports p = some old) (foundNew : findPort reload.ports p = some new)
    (sameRules : dp.managersAddPort new = dp.managersAddPort old) :
    RulesFollow dp p ports mods final := by
  have foundLeft := seen.leftPort
  have neither : ¬ (p ∈ reload.added ∨ p ∈ reload.changed) := not_or.mpr ⟨finds.notAdded, changed⟩
  have untouched : ¬ (p ∈ reload.deleted ∨ p ∈ reload.changed) :=
    not_or.mpr ⟨finds.notDeleted, changed⟩
  rw [foundOld, Option.map_some, if_neg untouched] at foundLeft
  rw [RulesFollow, seen.finalPort, foundOld, foundNew, Option.map_some,
    if_neg fun both => neither both.2]
  refine .inl ⟨fun mod member sends => ?_, ?_⟩
  · rcases (seen.own mod).mp ⟨member, sends⟩ with ⟨either, _⟩ | ⟨both, _⟩
    · exact untouched either
    · exact neither both.2
  · obtain rfl := number_of_findPort foundNew
    have same := finds.sameOrChanged.resolve_right changed
    have running : (reload.cloned ports left new).running = old.running := by
      rw [cloned_of_same same foundOld foundLeft, Port.running, Port.running, finds.enabled same]
      rfl
    rw [Datapath.portRules, Datapath.portRules, running, managersAddPort_cloned, sameRules]

end Seen

/-- **A reload** adds, changes or deletes the port, or leaves it. -/
theorem applyConfigChanges_follows (dp : Datapath) (nominated : PortNo → Bool)
    (dynUpPortNos : Finset PortNo)
    (unique : (ports.map (·.number)).Nodup) (plain : ∀ port ∈ findPort ports p, port.Plain dp)
    (plainNew : ∀ port ∈ findPort reload.ports p, port.Plain dp)
    (sameRules : SameRules dp p ports reload) (valid : ignorePort p = false)
    (fits : reload.fits ports = true) :
    Follows dp p ports (dp.applyConfigChanges nominated ports dynUpPortNos reload).2
      (dp.applyConfigChanges nominated ports dynUpPortNos reload).1 := by
  have finds : ∀ old new, findPort ports p = some old → findPort reload.ports p = some new →
      reload.Finds ports p old new := fun old new => finds_of_fits fits
  rw [Reload.fits, decide_eq_true_eq] at fits
  obtain ⟨uniqueNew, deleted, added, _, onceChanged, known, _⟩ := fits
  have inDeleted : p ∈ reload.deleted ↔
      (findPort ports p).isSome ∧ ¬ (findPort reload.ports p).isSome := by
    rw [deleted.mem_iff, List.mem_filter, decide_eq_true_eq, findPort_isSome_iff,
      findPort_isSome_iff]
  have inAdded : p ∈ reload.added ↔
      (findPort reload.ports p).isSome ∧ ¬ (findPort ports p).isSome := by
    rw [added.mem_iff, List.mem_filter, decide_eq_true_eq, findPort_isSome_iff,
      findPort_isSome_iff]
  have inChanged : p ∈ reload.changed →
      (findPort ports p).isSome ∧ (findPort reload.ports p).isSome := by
    rw [findPort_isSome_iff, findPort_isSome_iff]
    exact known p
  obtain ⟨left, seen⟩ := applyConfigChanges_seen dp nominated ports dynUpPortNos
    valid (deleted.nodup_iff.mpr (unique.filter _))
    (added.nodup_iff.mpr (uniqueNew.filter _)) onceChanged
    (fun changed inside => (inDeleted.mp inside).2 (inChanged changed).2)
    (fun changed inside => (inAdded.mp inside).2 (inChanged changed).1)
  refine ⟨?_, seen.plain plainNew, about_applyConfigChanges dp nominated, ?_⟩
  · rwa [map_number_applyConfigChanges]
  cases foundOld : findPort ports p with
  | none =>
      rw [foundOld] at inAdded
      cases foundNew : findPort reload.ports p with
      | none => exact seen.rules_of_absent foundOld foundNew
      | some new =>
          rw [foundNew] at inAdded
          exact seen.rules_of_added (inAdded.mpr ⟨rfl, Bool.false_ne_true⟩) foundOld foundNew
            (plainNew new foundNew)
  | some old =>
      have isOld := plain old foundOld
      rw [foundOld] at inDeleted
      cases foundNew : findPort reload.ports p with
      | none =>
          rw [foundNew] at inDeleted
          exact seen.rules_of_deleted (inDeleted.mpr ⟨rfl, Bool.false_ne_true⟩) foundOld foundNew
            isOld
      | some new =>
          by_cases changed : p ∈ reload.changed
          · exact seen.rules_of_changed changed foundOld foundNew isOld (plainNew new foundNew)
          · exact seen.rules_of_same (finds old new foundOld foundNew) changed foundOld foundNew
              (sameRules changed old foundOld new foundNew)

end Reload

/-! ## Steps -/

/-- The port is plain and, while the datapath is connected, has the rules that are wanted. -/
structure Provided (dp : Datapath) (p : PortNo) (s : State) : Prop where
  numbers : (s.ports.map (·.number)).Nodup
  plain : ∀ port ∈ findPort s.ports p, port.Plain dp
  rules : s.dynRunning = true → HasRules dp p (dp.portRules (findPort s.ports p)) s.switch

/-- The port stays plain, a reload that takes it over finds the same rules, and a cold start does
not leave it out while it is running. -/
def KeepsPlain (dp : Datapath) (p : PortNo) (s : State) : Event → Prop
  | .reload reload _ _ =>
      (∀ port ∈ findPort reload.ports p, port.Plain dp) ∧ SameRules dp p s.ports reload
  | .datapathConnect _ upPorts _ _ =>
      p ∈ upPorts ∨ ∀ port ∈ findPort s.ports p, port.running = false
  | _ => True

section Steps

variable {shuffle : Shuffle} {useBarriers : Bool} {s sNext : State} {batch : List Ofmsg}

theorem noGroups_of_portRules (plain : ∀ port ∈ findPort ports p, port.Plain dp) :
    ∀ rule ∈ dp.portRules (findPort ports p), ∀ groupId, rule.entry.refersTo groupId = false := by
  intro rule listed
  cases found : findPort ports p with
  | none =>
      rw [found] at listed
      cases listed
  | some port =>
      rw [found] at listed
      exact (plain port found).noGroups rule (mem_portRules.mp listed).2

theorem plain_of_map {change : LagPort → LagPort × List FlowMod} {changed : Prop}
    [Decidable changed] {found : Option LagPort} (plain : ∀ port ∈ found, port.Plain dp)
    (keeps : ∀ port : LagPort, port.Plain dp → (change port).1.Plain dp) :
    ∀ port ∈ found.map (fun port => if changed then (change port).1 else port), port.Plain dp := by
  intro port member
  obtain ⟨earlier, known, rfl⟩ := Option.mem_map.mp member
  split
  next => exact keeps earlier (plain earlier known)
  next => exact plain earlier known

theorem Provided.withUp (provided : Provided dp p s) (dynUpPortNos : Finset PortNo) :
    Provided dp p { s with dynUpPortNos } :=
  ⟨provided.numbers, provided.plain, provided.rules⟩

/-- Ports of a connected datapath that change, with the messages sent. -/
theorem Provided.after {changed : List LagPort × List FlowMod} (provided : Provided dp p s)
    (running : s.dynRunning = true) (follows : Follows dp p s.ports changed.2 changed.1)
    (stepped : dp.after shuffle useBarriers s changed batch = some sNext) :
    Provided dp p sNext := by
  obtain ⟨switch, batches, delivers, rfl⟩ := after_eq_some stepped
  have before := provided.rules running
  refine ⟨follows.numbers, follows.plain, fun _ => ?_⟩
  rcases follows.rules with leaves | rewrites
  · exact leaves.hasRules follows.about batches delivers
      (noGroups_of_portRules provided.plain) before
  · exact rewrites.hasRules follows.about batches delivers before

/-- A cold start. -/
theorem Provided.datapathConnect {discoveredUp upPorts : List PortNo} (provided : Provided dp p s)
    (valid : ignorePort p = false)
    (keeps : KeepsPlain dp p s (.datapathConnect discoveredUp upPorts nominated batch))
    (stepped : dp.step shuffle useBarriers s
      (.datapathConnect discoveredUp upPorts nominated batch) = some sNext) :
    Provided dp p sNext := by
  have onePort := onePort_portUp dp nominated true
  rw [Datapath.step] at stepped
  split at stepped
  next isUp =>
    obtain ⟨switch, sends, rfl⟩ := Option.map_eq_some_iff.mp stepped
    obtain ⟨batches, delivers⟩ := send_eq_some sends
    have once : upPorts.Nodup := isUp.nodup_iff.mpr
      (provided.numbers.sublist ((List.filter_sublist.trans List.filter_sublist).map _))
    obtain ⟨final, own⟩ := onePort.eachPort_own s.ports once valid
    have plain : ∀ port ∈ findPort (dp.portsAdd nominated true s.ports upPorts).1 p,
        port.Plain dp := by
      rw [Datapath.portsAdd, final]
      exact plain_of_map provided.plain fun port isPlain => by
        rw [portUp_plain isPlain]
        exact isPlain.setPhysUp true
    have listed : ∀ mod, mod ∈ (dp.portsAdd nominated true s.ports upPorts).2 ∧
        inPort p ∈ mod.matchFields.items ↔
        mod ∈ dp.portRules (findPort (dp.portsAdd nominated true s.ports upPorts).1 p) := by
      intro mod
      refine (own mod).trans ?_
      rw [Datapath.portsAdd, final]
      cases found : findPort s.ports p with
      | none => simp [Datapath.portRules]
      | some port =>
          have isPlain := provided.plain port found
          rw [Option.map_some, portUp_plain isPlain]
          by_cases member : p ∈ upPorts
          · simp [member, portUp_plain isPlain]
          · have stopped := keeps.resolve_left member port found
            rw [if_neg member, portRules_of_stopped stopped]
            simp [member]
    refine ⟨?_, plain, fun _ => hasRules_of_cold onePort.about_eachPort batches delivers
      (fun mod member sends _ => (listed mod).mp ⟨member, sends⟩)
      fun mod wanted => ⟨((listed mod).mpr wanted).1, add_of_portRules wanted⟩⟩
    rw [Datapath.portsAdd, map_number_eachPort]
    exact provided.numbers
  next => cases stepped

/-- **Every step keeps the rules** as they are wanted. -/
theorem Provided.step {event : Event} (provided : Provided dp p s) (valid : ignorePort p = false)
    (keeps : KeepsPlain dp p s event)
    (stepped : dp.step shuffle useBarriers s event = some sNext) : Provided dp p sNext := by
  cases event with
  | datapathConnect discoveredUp upPorts nominated batch =>
      exact provided.datapathConnect valid keeps stepped
  | datapathDisconnect nominated =>
      cases stepped
      have onePort := onePort_portDown dp nominated
      obtain ⟨final, _⟩ := onePort.eachPort_own s.ports provided.numbers valid
      refine ⟨?_, ?_, fun running => absurd running Bool.false_ne_true⟩
      · rw [Datapath.portsDelete, map_number_eachPort]
        exact provided.numbers
      · rw [Datapath.portsDelete, final]
        exact plain_of_map provided.plain fun port isPlain => by
          rw [portDown_plain isPlain]
          exact isPlain.setPhysUp false
  | portStatus portNo reason ofState nominated batch =>
      rw [Datapath.step] at stepped
      split at stepped
      next running =>
        have follows := portStatusHandler_follows provided.numbers dp nominated provided.plain valid
          portNo reason ofState
        have learned := provided.withUp (if Ports.portStatusFromState ofState then
          insert portNo s.dynUpPortNos else s.dynUpPortNos.erase portNo)
        exact learned.after running follows stepped
      next => cases stepped
  | lacpPacket portNo synchronization now nominated batch =>
      rw [Datapath.step] at stepped
      split at stepped
      next running =>
        exact provided.after running (lacpHandler_follows provided.numbers dp nominated
          provided.plain portNo synchronization now) stepped
      next => cases stepped
  | stateExpire now aged nominated batch =>
      rw [Datapath.step] at stepped
      split at stepped
      next expires =>
        exact provided.after expires.1 (lacpStateExpire_follows provided.numbers dp nominated
          provided.plain expires.2) stepped
      next => cases stepped
  | reload reload nominated batch =>
      obtain ⟨plainNew, sameRules⟩ := keeps
      rw [Datapath.step] at stepped
      split at stepped
      next fits =>
        have follows := applyConfigChanges_follows dp nominated s.dynUpPortNos
          provided.numbers provided.plain plainNew sameRules valid fits
        dsimp only at stepped
        split at stepped
        next running => exact provided.after running follows stepped
        next stopped =>
          cases stepped
          exact ⟨follows.numbers, follows.plain, fun running => absurd running stopped⟩
      next => cases stepped

end Steps

/-! ## Runs -/

/-- **The rules of a plain port.** In every state of a run with the datapath connected, the `vlan`
table has exactly the rules for packets of the port that its configuration asks for: those of the
managers while it is running, and none while it is not, or is not configured. In the run the port
stays plain, a reload that takes it over as it is finds the same rules, and no cold start
leaves it out while it is running. -/
theorem hasRules_of_keepsPlain {shuffle : Shuffle} {useBarriers : Bool} {start s : State}
    (numbers : (start.ports.map (·.number)).Nodup)
    (plain : ∀ port ∈ findPort start.ports p, port.Plain dp)
    (offline : start.dynRunning = false) (valid : ignorePort p = false)
    (reaches : Reaches (dp.step shuffle useBarriers) (KeepsPlain dp p) start s)
    (running : s.dynRunning = true) :
    HasRules dp p (dp.portRules (findPort s.ports p)) s.switch := by
  have starts : Provided dp p start := by
    refine ⟨numbers, plain, fun running => ?_⟩
    cases offline.symm.trans running
  have provided : Provided dp p s := reaches.invariant (Provided dp p) starts
    fun inv keeps stepped => inv.step valid keeps stepped
  exact provided.rules running

/-! ## A cold start -/

/-- Port 1 without a bundle. -/
def labPlain : LagPort := { labLagPort with lacp := 0 }

theorem labPlain_plain : labPlain.Plain labDatapath := by
  refine ⟨rfl, rfl, rfl, fun rule listed groupId => ?_⟩
  have noActions : ∀ rule ∈ labDatapath.managersAddPort labPlain, rule.instructions = [] := by
    decide
  rw [FlowEntry.refersTo, FlowMod.entry, noActions rule listed]
  rfl

/-- The port comes up, and has one rule for its packets without a VLAN. -/
theorem hasRules_labPlain : ∃ s : State, s.ports = [labPlain.setPhysUp true] ∧
    HasRules labDatapath 1
      [labDatapath.flowmod (Datapath.nullVlanMatch 1) Learning.lowPriority []] s.switch := by
  let shuffle : Shuffle := ⟨id, fun _ => .refl _⟩
  let start : State := { labState with ports := [labPlain] }
  have sends : ∃ sent, start.switch.deliver shuffle true (labBatch [labPlain] [1]) = some sent :=
    exists_deliver_of_no_deletes (by decide)
  obtain ⟨switch, delivers⟩ := sends
  have batch : (labBatch [labPlain] [1]).filter (concernsTable labDatapath.vlanTable) =
      labBatch [labPlain] [1] := by decide
  have stepped : labDatapath.step shuffle true start (labConnect [labPlain] [1]) =
      some ⟨[labPlain.setPhysUp true], {1}, true, switch⟩ := by
    rw [labConnect, Datapath.step, if_pos (by decide)]
    dsimp only
    rw [Datapath.send, if_pos (by exact batch), delivers]
    rfl
  have numbers : (start.ports.map (·.number)).Nodup := List.nodup_singleton 1
  have plain : ∀ port ∈ findPort start.ports 1, port.Plain labDatapath := by
    rintro _ ⟨⟩
    exact labPlain_plain
  have keeps : KeepsPlain labDatapath 1 start (labConnect [labPlain] [1]) :=
    Or.inl (List.mem_singleton_self 1)
  exact ⟨_, rfl, hasRules_of_keepsPlain numbers plain rfl (by decide)
    (.single keeps stepped) rfl⟩

end Faucet.Lacp
