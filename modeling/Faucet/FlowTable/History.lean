import Faucet.FlowTable.Builders

/-!
# When instructions do not depend on history

Two calls of `flowmod` for the same actions share one instruction. When one of them has
no goto it trims the instruction in place, also for the other one. So the messages are
independent of history exactly when no call without a goto trims actions that a call
with a goto has been made for (`historyFree_iff`).
-/

set_option autoImplicit false

namespace Faucet.FlowTable

open TransitionSystem

variable {table : ValveTable} {gotoPresent : Bool} {holders : Nat → Holder} {inst : InstSet}
  {items : List InstRef} {obj : Nat} {builders next : Builders} {built other : Built}

/-! ## Independence of history -/

/-- The actions that an object was made for, and those that it holds. -/
def Builders.made (builders : Builders) (obj : Nat) : List Action := (builders.holders obj).made

/-- The actions of an object, as it is now. -/
def Builders.actions (builders : Builders) (obj : Nat) : List Action :=
  (builders.holders obj).actions

namespace Built

/-- The instructions of the message, as they stand in a state of the builders. -/
def sent (built : Built) (builders : Builders) : List Instr :=
  built.message.inst.map (InstRef.resolve builders.actions)

/-- The instructions that the call asked for. -/
def requested (built : Built) (builders : Builders) : List Instr :=
  built.inst.items.map (InstRef.resolve builders.made)

end Built

/-- Every message has what trimming makes of the instructions of its own call, and
processes every packet as these do. -/
def HistoryFree (builders : Builders) : Prop :=
  ∀ built ∈ builders.built, built.args.verified = true →
    built.table.trimInst (built.requested builders) = some (built.sent builders) ∧
      ∀ (π : Type) (rewrite : ActionKind → π → π) (packet : π),
        behaviour rewrite (built.sent builders) packet =
          behaviour rewrite (built.requested builders) packet

/-- Actions that a call without a goto trims are not those of a call with a goto. -/
def NoConflict (builders : Builders) : Prop :=
  ∀ plain ∈ builders.built, ∀ goes ∈ builders.built, goes.args.verified = true →
    plain.inst.gotoPresent = false → goes.inst.gotoPresent = true →
    ∀ obj, plain.inst.requests obj → goes.inst.requests obj →
      (builders.made obj).any Action.isCt = false →
      trimLoop [] [] (builders.made obj) = builders.made obj

/-! ## What trimming does to the objects -/

/-- What is kept of the instructions when some of the objects are empty. -/
def InstRef.isKept (gone : Nat → Bool) : InstRef → Bool
  | .applyActions obj => !gone obj
  | _ => true

/-- An instruction object that a call without a goto has trimmed may be trimmed again. -/
theorem trimApply_spec {actions left : List Action}
    (trimmed : table.trimApply gotoPresent actions = some left) :
    left = if ValveTable.trims gotoPresent actions then trimLoop [] [] actions else actions :=
  ValveTable.trimApply_eq trimmed

theorem trimApply_of_allowed {actions : List Action}
    (allowed : table.allows (trimLoop [] [] actions) = true) :
    table.trimApply gotoPresent actions =
      some (if ValveTable.trims gotoPresent actions then trimLoop [] [] actions else actions) := by
  rw [ValveTable.trimApply]
  split
  · rw [ValveTable.trimActions, if_pos allowed]
  · rfl

theorem trimApply_of_keeps {actions : List Action}
    (keeps : ValveTable.trims gotoPresent actions = false) :
    table.trimApply gotoPresent actions = some actions := by
  rw [ValveTable.trimApply, if_neg (Bool.eq_false_iff.mp keeps)]

theorem allows_of_trimApply {actions left : List Action}
    (trims : ValveTable.trims gotoPresent actions = true)
    (trimmed : table.trimApply gotoPresent actions = some left) :
    table.allows (trimLoop [] [] actions) = true := by
  rw [ValveTable.trimApply, if_pos trims, ValveTable.trimActions] at trimmed
  split at trimmed
  next allowed => exact allowed
  next => cases trimmed

/-- Trimming of values, when it is known what becomes of the actions of each object. -/
theorem trimEach_map {before after : Nat → List Action} {gone : Nat → Bool}
    (trimmed : ∀ obj, .applyActions obj ∈ items →
      table.trimApply gotoPresent (before obj) = some (after obj))
    (empty : ∀ obj, .applyActions obj ∈ items → gone obj = (after obj).isEmpty) :
    table.trimEach gotoPresent (items.map (InstRef.resolve before)) =
      some ((items.filter (InstRef.isKept gone)).map (InstRef.resolve after)) := by
  induction items with
  | nil => rfl
  | cons instr rest ih =>
      have ih := ih (fun obj member => trimmed obj (List.mem_cons_of_mem _ member))
        fun obj member => empty obj (List.mem_cons_of_mem _ member)
      cases instr with
      | applyActions obj =>
          rw [List.map_cons, InstRef.resolve, ValveTable.trimEach,
            trimmed obj List.mem_cons_self, ih, List.filter_cons, InstRef.isKept,
            empty obj List.mem_cons_self]
          simp only [Option.bind_eq_bind, Option.bind_some]
          cases (after obj).isEmpty <;> rfl
      | gotoTable ref tableId | other ref code =>
          simp only [List.map_cons, InstRef.resolve, ValveTable.trimEach, ih,
            Option.bind_eq_bind, Option.bind_some]
          rfl

theorem trimInst_eq (inst : List Instr) :
    table.trimInst inst = table.trimEach (inst.any Instr.isGoto) inst := by
  rw [ValveTable.trimInst]
  split
  next => rfl
  next none =>
    generalize inst.any Instr.isGoto = gotoPresent
    induction inst with
    | nil => rfl
    | cons instr rest ih =>
        rw [List.any_cons, Bool.not_eq_true, Bool.or_eq_false_iff] at none
        have later := ih (by rw [none.2]; simp)
        cases instr with
        | applyActions => cases none.1
        | gotoTable | other =>
            simp only [ValveTable.trimEach, ← later, Option.bind_eq_bind, Option.bind_some]

theorem any_isGoto_resolve (actions : Nat → List Action) :
    (items.map (InstRef.resolve actions)).any Instr.isGoto = items.any InstRef.isGoto := by
  rw [List.any_map]
  congr 1
  funext instr
  cases instr <;> rfl

/-- **The effect of trimming on the objects**: of the object that is asked for, the
actions that are left; the others do not change. -/
structure Trimmed (table : ValveTable) (inst : InstSet) (before after : Nat → Holder)
    (left : List InstRef) : Prop where
  made : ∀ obj, (after obj).made = (before obj).made
  apart : ∀ obj, ¬ inst.requests obj → after obj = before obj
  actions : ∀ obj, inst.requests obj →
    table.trimApply inst.gotoPresent (before obj).actions = some (after obj).actions
  kept : left = inst.items.filter (InstRef.isKept fun obj => (after obj).actions.isEmpty)

theorem trimRefs_of_none (none : ∀ instr ∈ items, instr.isApply = false) :
    table.trimRefs gotoPresent holders items = (holders, some items) := by
  induction items with
  | nil => rfl
  | cons instr rest ih =>
      have first := none instr List.mem_cons_self
      have ih := ih fun other member => none other (List.mem_cons_of_mem _ member)
      cases instr with
      | applyActions => cases first
      | gotoTable | other => simp [ValveTable.trimRefs, ih]

/-- With one list of actions the loop comes to it once. -/
theorem trimRefs_of_one {front back : List InstRef} (before : ∀ instr ∈ front, instr.isApply = false)
    (after : ∀ instr ∈ back, instr.isApply = false) :
    table.trimRefs gotoPresent holders (front ++ .applyActions obj :: back) =
      match table.trimApply gotoPresent (holders obj).actions with
      | none => (holders, none)
      | some actions => (Function.update holders obj { holders obj with actions },
          some (front ++ if actions.isEmpty then back else .applyActions obj :: back)) := by
  induction front with
  | nil =>
      rw [List.nil_append, ValveTable.trimRefs]
      cases table.trimApply gotoPresent (holders obj).actions with
      | none => rfl
      | some actions => simp [trimRefs_of_none after]
  | cons instr rest ih =>
      have first := before instr List.mem_cons_self
      have ih := ih fun other member => before other (List.mem_cons_of_mem _ member)
      cases instr with
      | applyActions => cases first
      | gotoTable | other =>
          simp only [List.cons_append, ValveTable.trimRefs, ih]
          cases table.trimApply gotoPresent (holders obj).actions <;> rfl

theorem InstSet.split (inst : InstSet) : (∀ instr ∈ inst.items, instr.isApply = false) ∨
    ∃ front obj back, inst.items = front ++ .applyActions obj :: back ∧
      (∀ instr ∈ front, instr.isApply = false) ∧ ∀ instr ∈ back, instr.isApply = false := by
  obtain ⟨items, single⟩ := inst
  induction items with
  | nil => exact .inl nofun
  | cons instr rest ih =>
      rw [List.filter_cons] at single
      cases instr with
      | applyActions obj =>
          have none : rest.filter InstRef.isApply = [] := by
            simp only [InstRef.isApply, if_true, List.length_cons] at single
            exact List.eq_nil_of_length_eq_zero (by omega)
          refine .inr ⟨[], obj, rest, rfl, nofun, fun instr member => ?_⟩
          exact Bool.eq_false_iff.mpr (List.filter_eq_nil_iff.mp none instr member)
      | gotoTable | other =>
          rcases ih single with none | ⟨front, obj, back, parts, before, after⟩
          · refine .inl fun instr member => ?_
            rcases List.mem_cons.mp member with same | later
            · exact same ▸ rfl
            · exact none instr later
          · refine .inr ⟨_ :: front, obj, back, congrArg (_ :: ·) parts, ?_, after⟩
            intro instr member
            rcases List.mem_cons.mp member with same | later
            · exact same ▸ rfl
            · exact before instr later

theorem InstSet.requests_unique {inst : InstSet} {first second : Nat}
    (present : inst.requests first) (present' : inst.requests second) : first = second := by
  rcases inst.split with none | ⟨front, obj, back, parts, before, after⟩
  · cases none _ present
  · have only : ∀ obj', inst.requests obj' → obj' = obj := by
      intro obj' requested
      rw [requests, parts] at requested
      rcases List.mem_append.mp requested with early | here
      · cases before _ early
      · rcases List.mem_cons.mp here with same | late
        · exact InstRef.applyActions.inj same
        · cases after _ late
    exact (only first present).trans (only second present').symm

theorem filter_isKept_of_none {gone : Nat → Bool} (none : ∀ instr ∈ items, instr.isApply = false) :
    items.filter (InstRef.isKept gone) = items := by
  refine List.filter_eq_self.mpr fun instr member => ?_
  have other := none instr member
  cases instr <;> first | rfl | cases other

theorem trimRefs_spec {after : Nat → Holder} {left : List InstRef}
    (trimmed : table.trimRefs inst.gotoPresent holders inst.items = (after, some left)) :
    Trimmed table inst holders after left := by
  rcases inst.split with none | ⟨front, obj, back, parts, free, free'⟩
  · rw [trimRefs_of_none none] at trimmed
    cases trimmed
    refine ⟨fun _ => rfl, fun _ _ => rfl, fun obj requested => ?_, ?_⟩
    · cases none _ requested
    · exact (filter_isKept_of_none none).symm
  · rw [parts, trimRefs_of_one free free'] at trimmed
    have requested : inst.requests obj := by
      rw [InstSet.requests, parts]
      exact List.mem_append_right _ List.mem_cons_self
    cases actionsEq : table.trimApply inst.gotoPresent (holders obj).actions with
    | none =>
        rw [actionsEq] at trimmed
        cases trimmed
    | some actions =>
        rw [actionsEq] at trimmed
        cases trimmed
        refine ⟨fun other => ?_, fun other apart => ?_, fun other requested' => ?_, ?_⟩
        · by_cases same : other = obj
          · subst same
            rw [Function.update_self]
          · rw [Function.update_of_ne same]
        · have different : other ≠ obj := fun same => apart (same ▸ requested)
          rw [Function.update_of_ne different]
        · rw [inst.requests_unique requested' requested, actionsEq, Function.update_self]
        · rw [parts, List.filter_append, List.filter_cons, filter_isKept_of_none free,
            filter_isKept_of_none free', InstRef.isKept, Function.update_self]
          cases actions.isEmpty <;> rfl

/-- When an assertion fails, nothing has been changed yet. -/
theorem trimRefs_failed {after : Nat → Holder}
    (failed : table.trimRefs inst.gotoPresent holders inst.items = (after, none)) :
    after = holders := by
  rcases inst.split with none | ⟨front, obj, back, parts, free, free'⟩
  · rw [trimRefs_of_none none] at failed
    cases failed
  · rw [parts, trimRefs_of_one free free'] at failed
    cases actionsEq : table.trimApply inst.gotoPresent (holders obj).actions with
    | none =>
        rw [actionsEq] at failed
        cases failed
        rfl
    | some actions =>
        rw [actionsEq] at failed
        cases failed

/-! ## The invariant -/

/-- What an object holds is what it was made for, or what a call without a goto has left
of it; the caches hold what the builders have returned. -/
structure Consistent (builders : Builders) : Prop where
  below : ∀ built ∈ builders.built, ∀ obj, built.inst.requests obj → obj < builders.count
  holds : ∀ obj, builders.actions obj = builders.made obj ∨
    (builders.made obj).any Action.isCt = false ∧
      builders.actions obj = trimLoop [] [] (builders.made obj) ∧
      ∃ built ∈ builders.built, built.inst.gotoPresent = false ∧ built.inst.requests obj
  plain : ∀ built ∈ builders.built, built.inst.gotoPresent = false → ∀ obj,
    built.inst.requests obj → (builders.made obj).any Action.isCt = false →
    builders.actions obj = trimLoop [] [] (builders.made obj) ∧
      built.table.allows (trimLoop [] [] (builders.made obj)) = true
  kept : ∀ built ∈ builders.built, ∃ gone : Nat → Bool,
    built.message.inst = built.inst.items.filter (InstRef.isKept gone) ∧
      ∀ obj, built.inst.requests obj →
        (gone obj = true → builders.actions obj = []) ∧
        (gone obj = false → builders.made obj ≠ [] ∧ (built.inst.gotoPresent = false →
          (builders.made obj).any Action.isCt = false → trimLoop [] [] (builders.made obj) ≠ []))
  applyCache : ∀ entry ∈ builders.applyCache.entries,
    entry.2 < builders.count ∧ builders.made entry.2 = entry.1
  trimCache : ∀ entry ∈ builders.trimCache.entries, ∃ built ∈ builders.built,
    built.table = entry.1.1 ∧ built.inst.items = entry.1.2 ∧ built.message.inst = entry.2
  flowmodCache : ∀ entry ∈ builders.flowmodCache.entries, entry.2 = ⟨entry.1.1, entry.1.2⟩

theorem consistent_start : Consistent Builders.start := by
  constructor <;> intros <;> first | exact .inl rfl | contradiction

namespace Consistent

variable (consistent : Consistent builders)
include consistent

/-- A call with a goto, or with connection tracking, has its actions as they were made,
unless they have been trimmed for another call. -/
theorem actions_eq_made (noConflict : NoConflict builders) (member : built ∈ builders.built)
    (verified : built.args.verified = true) (requested : built.inst.requests obj)
    (keeps : ValveTable.trims built.inst.gotoPresent (builders.made obj) = false) :
    builders.actions obj = builders.made obj := by
  rcases consistent.holds obj with same | ⟨noCt, trimmed, plain, member', noGoto, requested'⟩
  · exact same
  · rw [ValveTable.trims, noCt, Bool.not_false, Bool.and_true, Bool.not_eq_false'] at keeps
    rw [trimmed]
    exact noConflict plain member' built member verified noGoto keeps obj requested' requested noCt

/-- Without a conflict the messages do not depend on history. -/
theorem historyFree (noConflict : NoConflict builders) : HistoryFree builders := by
  intro built member verified
  have trimmed : built.table.trimInst (built.requested builders) = some (built.sent builders) := by
    obtain ⟨gone, kept, ends⟩ := consistent.kept built member
    rw [trimInst_eq, Built.requested, any_isGoto_resolve, Built.sent, kept]
    refine trimEach_map (fun obj requested => ?_) fun obj requested => ?_
    · cases trims : ValveTable.trims built.inst.gotoPresent (builders.made obj) with
      | true =>
          have both := trims
          rw [ValveTable.trims, Bool.and_eq_true, Bool.not_eq_true', Bool.not_eq_true'] at both
          obtain ⟨actions, allowed⟩ := consistent.plain built member both.1 obj requested both.2
          rw [trimApply_of_allowed allowed, actions]
          exact congrArg some (if_pos trims)
      | false =>
          have actions := consistent.actions_eq_made noConflict member verified requested trims
          rw [actions]
          exact trimApply_of_keeps trims
    · obtain ⟨isGone, isKept⟩ := ends obj requested
      cases goneEq : gone obj with
      | true => exact (List.isEmpty_iff.mpr (isGone goneEq)).symm
      | false =>
          obtain ⟨some_made, some_left⟩ := isKept goneEq
          symm
          rw [List.isEmpty_eq_false_iff]
          cases trims : ValveTable.trims built.inst.gotoPresent (builders.made obj) with
          | true =>
              rw [ValveTable.trims, Bool.and_eq_true, Bool.not_eq_true', Bool.not_eq_true'] at trims
              rw [(consistent.plain built member trims.1 obj requested trims.2).1]
              exact some_left trims.1 trims.2
          | false =>
              rw [consistent.actions_eq_made noConflict member verified requested trims]
              exact some_made
  refine ⟨trimmed, fun π rewrite packet => ?_⟩
  refine ValveTable.behaviour_trimInst rewrite packet ?_ trimmed
  have single := built.inst.single
  rw [Built.requested, List.filter_map, List.length_map]
  refine Nat.le_trans (Nat.le_of_eq (congrArg List.length (List.filter_congr fun instr _ => ?_))) single
  cases instr <;> rfl

/-- A conflict shows in a message. -/
theorem noConflict (free : HistoryFree builders) : NoConflict builders := by
  intro plain member goes member' verified noGoto isGoto obj requested requested' noCt
  obtain ⟨trimmed, _⟩ := consistent.plain plain member noGoto obj requested noCt
  obtain ⟨sent, _⟩ := free goes member' verified
  -- a call with a goto is meant to keep its actions
  have keeps : ∀ actions, ValveTable.trims goes.inst.gotoPresent actions = false := by
    intro actions
    rw [isGoto]
    rfl
  have meant : goes.table.trimEach goes.inst.gotoPresent (goes.requested builders) =
      some ((goes.inst.items.filter (InstRef.isKept fun obj => (builders.made obj).isEmpty)).map
        (InstRef.resolve builders.made)) :=
    trimEach_map (fun obj _ => trimApply_of_keeps (keeps _)) fun _ _ => rfl
  rw [trimInst_eq, Built.requested, any_isGoto_resolve] at sent
  have sent := Option.some.inj (meant.symm.trans sent)
  by_cases empty : builders.made obj = []
  · rw [empty]
    rfl
  · have listed : Instr.applyActions (builders.made obj) ∈ goes.sent builders := by
      rw [← sent]
      refine List.mem_map.mpr ⟨.applyActions obj, List.mem_filter.mpr ⟨requested', ?_⟩, rfl⟩
      rw [InstRef.isKept, Bool.not_eq_true', List.isEmpty_eq_false_iff]
      exact empty
    obtain ⟨instr, present, resolved⟩ := List.mem_map.mp listed
    obtain ⟨gone, kept, _⟩ := consistent.kept goes member'
    rw [kept] at present
    cases instr with
    | applyActions other =>
        have same := goes.inst.requests_unique (List.mem_filter.mp present).1 requested'
        subst same
        exact trimmed.symm.trans (Instr.applyActions.inj resolved)
    | gotoTable | other => cases resolved

/-! ## Calls -/

/-- A new instruction object, or one that has been made for these actions. -/
theorem applyActions_consistent (actions : List Action) :
    Consistent (builders.applyActions actions).1 ∧
      (builders.applyActions actions).1.made (builders.applyActions actions).2 = actions := by
  rw [Builders.applyActions]
  cases found : builders.applyCache.find actions with
  | some obj =>
      have entry := consistent.applyCache _ (LruCache.mem_of_find found)
      refine ⟨⟨consistent.below, consistent.holds, consistent.plain, consistent.kept, ?_,
        consistent.trimCache, consistent.flowmodCache⟩, entry.2⟩
      exact fun entry member => consistent.applyCache entry (LruCache.mem_touch.mp member)
  | none =>
      -- no call has asked for the new object
      have old : ∀ built ∈ builders.built, ∀ obj, built.inst.requests obj → obj ≠ builders.count :=
        fun built member obj requested =>
          Nat.ne_of_lt (consistent.below built member obj requested)
      dsimp only
      refine ⟨⟨?_, ?_, ?_, ?_, ?_, consistent.trimCache, consistent.flowmodCache⟩, ?_⟩
      · exact fun built member obj requested =>
          Nat.lt_succ_of_lt (consistent.below built member obj requested)
      · intro obj
        by_cases same : obj = builders.count
        · subst same
          refine .inl ?_
          simp [Builders.actions, Builders.made]
        · simpa only [Builders.actions, Builders.made, Function.update_of_ne same] using
            consistent.holds obj
      · intro built member noGoto obj requested
        have same := old built member obj requested
        simpa only [Builders.actions, Builders.made, Function.update_of_ne same] using
          consistent.plain built member noGoto obj requested
      · intro built member
        obtain ⟨gone, kept, ends⟩ := consistent.kept built member
        refine ⟨gone, kept, fun obj requested => ?_⟩
        have same := old built member obj requested
        simpa only [Builders.actions, Builders.made, Function.update_of_ne same] using
          ends obj requested
      · intro entry member
        rcases LruCache.mem_of_mem_insert member with new | earlier
        · subst new
          exact ⟨Nat.lt_succ_self _, by simp [Builders.made]⟩
        · obtain ⟨below, made⟩ := consistent.applyCache entry earlier
          refine ⟨Nat.lt_succ_of_lt below, ?_⟩
          have same := Nat.ne_of_lt below
          simpa only [Builders.made, Function.update_of_ne same] using made
      · simp [Builders.made]

/-- A call whose instructions are known from an earlier call. -/
theorem built_again (member : built ∈ builders.built) (sameTable : other.table = built.table)
    (sameInst : other.inst = built.inst) (sameLeft : other.message.inst = built.message.inst)
    {trimCache : LruCache (ValveTable × List InstRef) (List InstRef)}
    {flowmodCache : LruCache (Header × List InstRef) Message}
    (trims : ∀ entry ∈ trimCache.entries, entry ∈ builders.trimCache.entries)
    (messages : ∀ entry ∈ flowmodCache.entries, entry.2 = ⟨entry.1.1, entry.1.2⟩) :
    Consistent { builders with trimCache, flowmodCache, built := builders.built ++ [other] } := by
  have cases : ∀ new ∈ builders.built ++ [other], ∃ old ∈ builders.built,
      new.table = old.table ∧ new.inst = old.inst ∧ new.message.inst = old.message.inst := by
    intro new present
    rcases List.mem_append.mp present with earlier | last
    · exact ⟨new, earlier, rfl, rfl, rfl⟩
    · cases List.mem_singleton.mp last
      exact ⟨built, member, sameTable, sameInst, sameLeft⟩
  refine ⟨?_, ?_, ?_, ?_, consistent.applyCache, ?_, messages⟩
  · intro new present obj requested
    obtain ⟨old, earlier, _, inst, _⟩ := cases new present
    exact consistent.below old earlier obj (inst ▸ requested)
  · intro obj
    refine (consistent.holds obj).imp_right fun ⟨noCt, left, old, earlier, rest⟩ => ?_
    exact ⟨noCt, left, old, List.mem_append_left _ earlier, rest⟩
  · intro new present noGoto obj requested noCt
    obtain ⟨old, earlier, table, inst, _⟩ := cases new present
    rw [table]
    exact consistent.plain old earlier (inst ▸ noGoto) obj (inst ▸ requested) noCt
  · intro new present
    obtain ⟨old, earlier, _, inst, message⟩ := cases new present
    rw [inst, message]
    exact consistent.kept old earlier
  · intro entry present
    obtain ⟨old, earlier, rest⟩ := consistent.trimCache entry (trims entry present)
    exact ⟨old, List.mem_append_left _ earlier, rest⟩

/-- The actions that are left of an object, whichever of the two lists it holds. -/
theorem trims_actions : ValveTable.trims gotoPresent (builders.actions obj) =
    ValveTable.trims gotoPresent (builders.made obj) := by
  rcases consistent.holds obj with same | ⟨noCt, left, _⟩
  · rw [same]
  · rw [ValveTable.trims, ValveTable.trims, left, noCt, any_ct_trimLoop noCt]

theorem trimLoop_actions :
    trimLoop [] [] (builders.actions obj) = trimLoop [] [] (builders.made obj) := by
  rcases consistent.holds obj with same | ⟨noCt, left, _⟩
  · rw [same]
  · rw [left, trimLoop_idem]

/-- What trimming for one call does to the objects. -/
theorem trimmed_actions {left : List InstRef}
    (trimmed : Trimmed table inst builders.holders next.holders left) (obj : Nat) :
    next.made obj = builders.made obj ∧
      next.actions obj = if inst.requests obj ∧
          ValveTable.trims inst.gotoPresent (builders.made obj) = true
        then trimLoop [] [] (builders.made obj) else builders.actions obj := by
  refine ⟨trimmed.made obj, ?_⟩
  by_cases requested : inst.requests obj
  · have applied : next.actions obj = _ := trimApply_spec (trimmed.actions obj requested)
    have trims : ValveTable.trims inst.gotoPresent (builders.holders obj).actions =
        ValveTable.trims inst.gotoPresent (builders.made obj) := consistent.trims_actions
    have looped : trimLoop [] [] (builders.holders obj).actions =
        trimLoop [] [] (builders.made obj) := consistent.trimLoop_actions
    rw [applied, trims, looped]
    simp only [requested, true_and]
    rfl
  · rw [Builders.actions, trimmed.apart obj requested, if_neg fun both => requested both.1]
    rfl

/-- A call whose instructions are trimmed now. -/
theorem built_new {left : List InstRef}
    (trimmed : Trimmed table inst builders.holders next.holders left)
    (below : ∀ obj, inst.requests obj → obj < builders.count)
    (sameTable : other.table = table) (sameInst : other.inst = inst)
    (sameLeft : other.message.inst = left) (count : next.count = builders.count)
    (applyCache : next.applyCache = builders.applyCache)
    (trims : ∀ entry ∈ next.trimCache.entries,
      entry = ((table, inst.items), left) ∨ entry ∈ builders.trimCache.entries)
    (messages : ∀ entry ∈ next.flowmodCache.entries, entry.2 = ⟨entry.1.1, entry.1.2⟩)
    (calls : next.built = builders.built ++ [other]) : Consistent next := by
  have made : ∀ obj, next.made obj = builders.made obj :=
    fun obj => (consistent.trimmed_actions trimmed obj).1
  have actions := fun obj => (consistent.trimmed_actions trimmed obj).2
  have trims_of_plain : inst.gotoPresent = false → ∀ obj,
      (builders.made obj).any Action.isCt = false →
      ValveTable.trims inst.gotoPresent (builders.made obj) = true := by
    intro noGoto obj noCt
    rw [ValveTable.trims, noGoto, noCt]
    rfl
  refine ⟨?_, ?_, ?_, ?_, ?_, ?_, messages⟩
  · intro built present obj requested
    rw [calls] at present
    rw [count]
    rcases List.mem_append.mp present with earlier | last
    · exact consistent.below built earlier obj requested
    · cases List.mem_singleton.mp last
      exact below obj (sameInst ▸ requested)
  · intro obj
    rw [made, actions, calls]
    split
    next both =>
      have plain := both.2
      rw [ValveTable.trims, Bool.and_eq_true, Bool.not_eq_true', Bool.not_eq_true'] at plain
      exact .inr ⟨plain.2, rfl, other, List.mem_append_right _ (List.mem_singleton_self _),
        sameInst ▸ plain.1, sameInst ▸ both.1⟩
    next =>
      refine (consistent.holds obj).imp_right ?_
      rintro ⟨noCt, left, old, earlier, rest⟩
      exact ⟨noCt, left, old, List.mem_append_left _ earlier, rest⟩
  · intro built present noGoto obj requested noCt
    rw [calls] at present
    rw [made] at noCt
    rw [made, actions]
    rcases List.mem_append.mp present with earlier | last
    · obtain ⟨left, allowed⟩ := consistent.plain built earlier noGoto obj requested noCt
      -- an object that has been trimmed once stays so
      refine ⟨?_, allowed⟩
      split
      · rfl
      · exact left
    · cases List.mem_singleton.mp last
      rw [sameInst] at noGoto requested
      have isTrimmed := trims_of_plain noGoto obj noCt
      have allowed := allows_of_trimApply (consistent.trims_actions.trans isTrimmed)
        (trimmed.actions obj requested)
      rw [if_pos ⟨requested, isTrimmed⟩, sameTable]
      exact ⟨rfl, consistent.trimLoop_actions ▸ allowed⟩
  · intro built present
    rw [calls] at present
    rcases List.mem_append.mp present with earlier | last
    · obtain ⟨gone, kept, ends⟩ := consistent.kept built earlier
      refine ⟨gone, kept, fun obj requested => ⟨fun isGone => ?_, fun isKept => ?_⟩⟩
      · have empty := (ends obj requested).1 isGone
        rw [actions, ← consistent.trimLoop_actions, empty]
        simp [trimLoop]
      · rw [made]
        exact (ends obj requested).2 isKept
    · cases List.mem_singleton.mp last
      refine ⟨fun obj => (next.actions obj).isEmpty, ?_, fun obj requested => ?_⟩
      · rw [sameLeft, sameInst]
        exact trimmed.kept
      · rw [sameInst] at requested ⊢
        refine ⟨fun isGone => List.isEmpty_iff.mp isGone, fun isKept => ?_⟩
        rw [List.isEmpty_eq_false_iff, actions] at isKept
        rw [made]
        constructor
        · intro none
          refine isKept ?_
          rcases consistent.holds obj with same | ⟨_, left, _⟩
          · simp [same, none, trimLoop]
          · simp [left, none, trimLoop]
        · intro noGoto noCt empty
          refine isKept ?_
          rw [if_pos ⟨requested, trims_of_plain noGoto obj noCt⟩, empty]
  · intro entry present
    rw [applyCache] at present
    rw [made, count]
    exact consistent.applyCache entry present
  · intro entry present
    rw [calls]
    rcases trims entry present with new | old
    · subst new
      exact ⟨other, List.mem_append_right _ (List.mem_singleton_self _), sameTable,
        congrArg InstSet.items sameInst, sameLeft⟩
    · obtain ⟨built, earlier, rest⟩ := consistent.trimCache entry old
      exact ⟨built, List.mem_append_left _ earlier, rest⟩

end Consistent

end Faucet.FlowTable
