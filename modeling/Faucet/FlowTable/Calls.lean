import Faucet.FlowTable.History

/-!
# The instructions of every run of calls

Each call keeps the invariant of the builders, so it holds after every run of calls, and
there the messages are independent of history exactly when no call without a goto has
trimmed the actions of a call with one.
-/

set_option autoImplicit false

namespace Faucet.FlowTable

open TransitionSystem

variable {table : ValveTable} {inst : InstSet} {builders next : Builders}

/-! ## One call -/

/-- A message has the instructions that it was asked for, in the cache or not. -/
theorem ofFlowmod_spec (builders : Builders)
    (earlier : ∀ entry ∈ builders.flowmodCache.entries, entry.2 = ⟨entry.1.1, entry.1.2⟩) (header : Header) (left : List InstRef) :
    ∃ flowmodCache : LruCache (Header × List InstRef) Message,
      builders.ofFlowmod header left = ({ builders with flowmodCache }, ⟨header, left⟩) ∧
        ∀ entry ∈ flowmodCache.entries, entry.2 = ⟨entry.1.1, entry.1.2⟩ := by
  rw [Builders.ofFlowmod]
  cases found : builders.flowmodCache.find (header, left) with
  | some message =>
      have same := earlier _ (LruCache.mem_of_find found)
      exact ⟨_, by rw [← same], fun entry member => earlier entry (LruCache.mem_touch.mp member)⟩
  | none =>
      refine ⟨_, rfl, fun entry member => ?_⟩
      rcases LruCache.mem_of_mem_insert member with new | old
      · exact new ▸ rfl
      · exact earlier entry old

namespace Consistent

variable (consistent : Consistent builders)
include consistent

/-- Trimming fails and changes nothing, finds what is left of the instructions from an
earlier call, or trims them now. -/
theorem trimInst_cases (table : ValveTable) (inst : InstSet) :
    builders.trimInst table inst = (builders, none) ∨
    (∃ built ∈ builders.built, built.table = table ∧ built.inst = inst ∧
      builders.trimInst table inst =
        ({ builders with trimCache := builders.trimCache.touch (table, inst.items) },
          some built.message.inst)) ∨
    ∃ holders left, Trimmed table inst builders.holders holders left ∧
      builders.trimInst table inst =
        ({ builders with
            holders
            trimCache := builders.trimCache.insert (table, inst.items) left }, some left) := by
  have noActions : (inst.items.any InstRef.isApply) = false →
      Trimmed table inst builders.holders builders.holders inst.items := by
    intro none
    rw [List.any_eq_false] at none
    have none : ∀ instr ∈ inst.items, instr.isApply = false :=
      fun instr member => Bool.eq_false_iff.mpr (none instr member)
    exact trimRefs_spec (trimRefs_of_none none)
  rw [Builders.trimInst]
  cases found : builders.trimCache.find (table, inst.items) with
  | some left =>
      obtain ⟨built, member, sameTable, sameItems, sameLeft⟩ :=
        consistent.trimCache _ (LruCache.mem_of_find found)
      have sameInst : built.inst = inst := by
        obtain ⟨items, single⟩ := inst
        cases sameItems
        rfl
      exact .inr (.inl ⟨built, member, sameTable, sameInst, by rw [sameLeft]⟩)
  | none =>
      cases applies : inst.items.any InstRef.isApply with
      | false => exact .inr (.inr ⟨builders.holders, inst.items, noActions applies, rfl⟩)
      | true =>
          simp only [if_true]
          cases trimmed : table.trimRefs inst.gotoPresent builders.holders inst.items with
          | mk holders left =>
              cases left with
              | none =>
                  cases trimRefs_failed trimmed
                  exact .inl rfl
              | some left => exact .inr (.inr ⟨holders, left, trimRefs_spec trimmed, rfl⟩)

/-- A call of `flowmod`, with instructions that have been made, keeps the invariant. -/
theorem flowmod_consistent (args : FlowmodArgs)
    (below : ∀ obj, inst.requests obj → obj < builders.count) :
    Consistent (builders.flowmod table args inst) := by
  rw [Builders.flowmod]
  cases empty : inst.items.isEmpty with
  | true =>
      have none : inst.items = [] := List.isEmpty_iff.mp empty
      have noRequest : ∀ obj, ¬ inst.requests obj := by
        intro obj requested
        rw [InstSet.requests, none] at requested
        cases requested
      have nothing : Trimmed table inst builders.holders builders.holders [] :=
        ⟨fun _ => rfl, fun _ _ => rfl, fun obj requested => (noRequest obj requested).elim,
          by rw [none]; rfl⟩
      obtain ⟨flowmodCache, made, messages⟩ :=
        ofFlowmod_spec builders consistent.flowmodCache (table.header args) []
      simp only [if_true, made]
      exact consistent.built_new nothing below rfl rfl rfl rfl rfl
        (fun entry member => .inr member) messages rfl
  | false =>
      simp only [Bool.false_eq_true, if_false]
      rcases consistent.trimInst_cases table inst with
        failed | ⟨built, member, sameTable, sameInst, found⟩ | ⟨holders, left, trimmed, taken⟩
      · rw [failed]
        exact consistent
      · rw [found]
        obtain ⟨flowmodCache, made, messages⟩ := ofFlowmod_spec
          { builders with trimCache := builders.trimCache.touch (table, inst.items) }
          consistent.flowmodCache (table.header args) built.message.inst
        simp only [made]
        refine consistent.built_again member ?_ ?_ ?_
          (fun entry present => LruCache.mem_touch.mp present) messages
        · exact sameTable.symm
        · exact sameInst.symm
        · rfl
      · rw [taken]
        obtain ⟨flowmodCache, made, messages⟩ := ofFlowmod_spec
          { builders with
            holders
            trimCache := builders.trimCache.insert (table, inst.items) left }
          consistent.flowmodCache (table.header args) left
        simp only [made]
        exact consistent.built_new trimmed below rfl rfl rfl rfl rfl
          (fun entry present => LruCache.mem_of_mem_insert present) messages rfl

theorem step_consistent {call : Call} (taken : builders.step call = some next) :
    Consistent next := by
  cases call with
  | applyActions actions =>
      cases taken
      exact (consistent.applyActions_consistent actions).1
  | flowmod table args inst =>
      rw [Builders.step] at taken
      split at taken
      next made =>
        cases taken
        refine consistent.flowmod_consistent args fun obj requested => ?_
        simpa [InstRef.isMade] using List.all_eq_true.mp made _ requested
      next => cases taken

end Consistent

/-! ## Every run -/

/-- The invariant holds after every run of calls. -/
theorem exec_consistent {calls : List Call}
    (executed : exec Builders.step Builders.start calls = some builders) : Consistent builders :=
  (Reaches.of_exec calls (allowed_anyStep calls _) executed).invariant Consistent
    consistent_start fun consistent _ taken => consistent.step_consistent taken

/-- **When instructions are independent of history**: after any calls, every message has
the trimmed instructions of its own call exactly when no call without a goto trims the
actions of a call with one. -/
theorem historyFree_iff {calls : List Call}
    (executed : exec Builders.step Builders.start calls = some builders) :
    HistoryFree builders ↔ NoConflict builders :=
  ⟨(exec_consistent executed).noConflict, (exec_consistent executed).historyFree⟩

/-! ## An output and a rewrite after it -/

/-- An ACL table that may set the destination address. -/
def labTable : ValveTable := ⟨"port_acl", 0, ["eth_dst"], 1, false⟩

/-- The arguments of an add without a match. -/
def labArgs : FlowmodArgs := ⟨0, none, 0, 0, 0, 0, 0, none, true⟩

/-- An output to port 1. -/
def labOutput : Action := ⟨0, .output 1⟩

/-- `eth_dst` is set. -/
def labRewrite : Action := ⟨1, .setField "eth_dst" 2⟩

/-- A rule without a goto, and one with a goto, for the objects. -/
def labPlain (obj : Nat) : InstSet := ⟨[.applyActions obj], Nat.le_refl 1⟩

/-- The instructions with a `goto_table`, and the object. -/
def labGoes (obj : Nat) : InstSet := ⟨[.gotoTable 0 9, .applyActions obj], Nat.le_refl 1⟩

/-- The actions of the two rules are not the same. -/
def labApart : List Call :=
  [.applyActions [labRewrite, labOutput], .applyActions [labOutput, labRewrite],
    .flowmod labTable labArgs (labPlain 0), .flowmod labTable labArgs (labGoes 1)]

/-- Both rules have an output and then the rewrite. -/
def labShared : List Call :=
  [.applyActions [labOutput, labRewrite], .flowmod labTable labArgs (labPlain 0),
    .flowmod labTable labArgs (labGoes 0)]

/-- What the calls leave. -/
def labBuilders (calls : List Call) : Builders :=
  (exec Builders.step Builders.start calls).getD Builders.start

theorem historyFree_lab : HistoryFree (labBuilders labApart) := by
  have executed : exec Builders.step Builders.start labApart = some (labBuilders labApart) := rfl
  refine (historyFree_iff executed).mpr fun plain member goes member' _ noGoto isGoto obj => ?_
  -- the last call is the only one with a goto
  have calls : (labBuilders labApart).built.map Built.inst = [labPlain 0, labGoes 1] := rfl
  have plainInst : plain.inst ∈ [labPlain 0, labGoes 1] := calls ▸ List.mem_map_of_mem member
  have goesInst : goes.inst ∈ [labPlain 0, labGoes 1] := calls ▸ List.mem_map_of_mem member'
  intro requested requested'
  simp only [List.mem_cons, List.not_mem_nil, or_false] at plainInst goesInst
  rcases plainInst with first | second <;> rcases goesInst with first' | second'
  · rw [first'] at isGoto
    cases isGoto
  · rw [first, InstSet.requests, labPlain, List.mem_singleton] at requested
    rw [second'] at requested'
    cases requested
    exact absurd requested' (by decide)
  · rw [second] at noGoto
    cases noGoto
  · rw [second] at noGoto
    cases noGoto

/-- The rule with the goto does not rewrite the address. -/
theorem not_historyFree_of_shared : ¬ ∀ calls builders,
    exec Builders.step Builders.start calls = some builders → HistoryFree builders := by
  intro always
  have free := always labShared (labBuilders labShared) rfl
  have goes : (⟨labTable, labArgs, labGoes 0,
      ⟨labTable.header labArgs, (labGoes 0).items⟩⟩ : Built) ∈ (labBuilders labShared).built :=
    List.mem_of_getElem? (show (labBuilders labShared).built[1]? = _ from rfl)
  have alike := (free _ goes rfl).2 (List ActionKind) (fun kind done => kind :: done) []
  exact absurd (congrArg Behaviour.next alike) (by decide)

end Faucet.FlowTable
