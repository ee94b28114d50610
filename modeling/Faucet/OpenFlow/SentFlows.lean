import Faucet.OpenFlow.SentMessages

/-!
# The flows after the pass

The deletes come first in what is sent and in what is meant, so a flow ends up
the same when the same of its entries are removed and the adds and modifies have
the same outcome. Both are compared entry by entry, which gives the exact
condition on the batch (`preservesMeaning_iff_reorderSafe`).
-/

set_option autoImplicit false

namespace Faucet.OpenFlow

/-! ## Flows -/

section Flows

variable {flow : FlowId} {entry : FlowEntry}

/-- A delete removes the flow. -/
def removesFlow (flow : FlowId) (entry : FlowEntry) : Ofmsg → Bool
  | .flowMod mod => mod.removes flow entry
  | _ => false

theorem FlowMod.isFlowdel_of_reaches {mod : FlowMod} (reaches : mod.reaches flow = true) :
    mod.isFlowdel = true := by
  rw [FlowMod.reaches] at reaches
  rw [FlowMod.isFlowdel]
  cases command : mod.command <;> simp_all

theorem flowEffect_delete {ofmsg : Ofmsg} (isDel : isDelete ofmsg = true)
    (current : Option FlowEntry) :
    flowEffect flow current ofmsg = current.filter fun entry => !removesFlow flow entry ofmsg := by
  cases ofmsg with
  | flowMod mod =>
      rcases msgKind_flowMod mod with ⟨del, _⟩ | ⟨_, kind⟩
      · rw [FlowMod.isFlowdel] at del
        rw [flowEffect, FlowMod.step]
        cases command : mod.command <;> rw [command] at del <;> first | rfl | cases del
      · rw [isDelete, kind] at isDel
        cases isDel
  | _ => cases current <;> rfl

theorem foldl_flowDeletes {ofmsgs : List Ofmsg} (deletes : ∀ ofmsg ∈ ofmsgs, isDelete ofmsg = true)
    (current : Option FlowEntry) :
    ofmsgs.foldl (flowEffect flow) current =
      current.filter fun entry => !ofmsgs.any (removesFlow flow entry) := by
  induction ofmsgs generalizing current with
  | nil => cases current <;> rfl
  | cons ofmsg rest ih =>
      rw [List.foldl_cons, ih fun other member => deletes other (List.mem_cons_of_mem _ member),
        flowEffect_delete (deletes ofmsg List.mem_cons_self)]
      simp

theorem Outcome.run_next {ofmsg : Ofmsg} (isSet : sets flow ofmsg = true) (outcome : Outcome)
    (current : Option FlowEntry) :
    (outcome.next ofmsg).run current = flowEffect flow (outcome.run current) ofmsg := by
  cases ofmsg with
  | flowMod mod =>
      rw [sets, Bool.and_eq_true, FlowMod.isFlowdel] at isSet
      rw [flowEffect, FlowMod.step]
      cases command : mod.command <;> rw [command] at isSet
      case add => cases outcome <;> simp [Outcome.next, Outcome.run, command, isSet.2]
      case modifyStrict =>
        cases outcome <;> simp [Outcome.next, Outcome.run, command, isSet.2, Function.comp_def]
      all_goals cases isSet.1
  | _ => cases isSet

theorem flowEffect_other {ofmsg : Ofmsg} (notDel : isDelete ofmsg = false)
    (notSet : sets flow ofmsg = false) (current : Option FlowEntry) :
    flowEffect flow current ofmsg = current := by
  cases ofmsg with
  | flowMod mod =>
      rcases msgKind_flowMod mod with ⟨_, kind | kind⟩ | ⟨notDel', _⟩
      · rw [isDelete, kind] at notDel
        cases notDel
      · rw [isDelete, kind] at notDel
        cases notDel
      · rw [sets, notDel', Bool.not_false, Bool.true_and] at notSet
        rw [flowEffect, FlowMod.step, notSet]
        rw [FlowMod.isFlowdel] at notDel'
        cases command : mod.command <;> rw [command] at notDel' <;> first | rfl | cases notDel'
  | _ => rfl

theorem foldl_flowSets {ofmsgs : List Ofmsg} (noDeletes : ∀ ofmsg ∈ ofmsgs, isDelete ofmsg = false)
    (current : Option FlowEntry) :
    ofmsgs.foldl (flowEffect flow) current = (outcome (ofmsgs.filter (sets flow))).run current := by
  have start : ∀ begun : Outcome, ofmsgs.foldl (flowEffect flow) (begun.run current) =
      ((ofmsgs.filter (sets flow)).foldl Outcome.next begun).run current := by
    induction ofmsgs with
    | nil => exact fun _ => rfl
    | cons ofmsg rest ih =>
        intro begun
        have ih := ih fun other member => noDeletes other (List.mem_cons_of_mem _ member)
        rw [List.foldl_cons, List.filter_cons]
        cases isSet : sets flow ofmsg with
        | true => rw [← Outcome.run_next isSet, if_pos rfl, List.foldl_cons, ih]
        | false => rw [flowEffect_other (noDeletes ofmsg List.mem_cons_self) isSet, ih, if_neg Bool.false_ne_true]
  exact start .unchanged

theorem Outcome.run_eq_none_iff {outcome : Outcome}
    (notInstalled : ∀ entry, outcome ≠ .installed entry) (current : Option FlowEntry) :
    outcome.run current = none ↔ current = none := by
  cases outcome with
  | unchanged => rfl
  | modified => exact Option.map_eq_none_iff
  | installed entry => exact absurd rfl (notInstalled entry)

/-- Two outcomes that do not install the flow are the same when they make the same of
the entries that output nowhere. -/
theorem Outcome.eq_of_run {first second : Outcome}
    (notInstalled : ∀ entry, first ≠ .installed entry)
    (notInstalled' : ∀ entry, second ≠ .installed entry)
    (same : ∀ entry : FlowEntry, (∀ port, entry.outputsTo port = false) →
      first.run (some entry) = second.run (some entry)) : first = second := by
  have drop := same ⟨0, [], 0, 0, 0⟩ fun _ => rfl
  have goto := same ⟨0, [.gotoTable 0], 0, 0, 0⟩ fun _ => rfl
  cases first with
  | installed entry => exact absurd rfl (notInstalled entry)
  | unchanged =>
      cases second with
      | unchanged => rfl
      | installed entry => exact absurd rfl (notInstalled' entry)
      | modified instructions =>
          simp [Outcome.run] at drop goto
          rw [← drop] at goto
          cases goto
  | modified instructions =>
      cases second with
      | installed entry => exact absurd rfl (notInstalled' entry)
      | unchanged =>
          simp [Outcome.run] at drop goto
          rw [drop] at goto
          cases goto
      | modified instructions' =>
          simp [Outcome.run] at drop
          rw [drop]

/-- The flow is installed exactly when one of the messages adds it. -/
theorem exists_installed_iff {ofmsgs : List Ofmsg} (areSets : ∀ ofmsg ∈ ofmsgs, sets flow ofmsg = true) :
    (∃ entry, outcome ofmsgs = .installed entry) ↔
      ∃ mod, .flowMod mod ∈ ofmsgs ∧ mod.command = .add := by
  induction ofmsgs using List.reverseRecOn with
  | nil => simp [outcome]
  | append_singleton earlier ofmsg ih =>
      have ih := ih fun other member => areSets other (List.mem_append_left _ member)
      have isSet := areSets ofmsg (by simp)
      have unfolded : outcome (earlier ++ [ofmsg]) = (outcome earlier).next ofmsg := by
        rw [outcome, List.foldl_append]
        rfl
      cases ofmsg with
      | flowMod mod =>
          rw [sets, Bool.and_eq_true, FlowMod.isFlowdel] at isSet
          rw [unfolded]
          cases command : mod.command <;> rw [command] at isSet
          case add =>
            refine iff_of_true ⟨mod.entry, ?_⟩ ⟨mod, by simp, command⟩
            cases outcome earlier <;> simp [Outcome.next, command]
          case modifyStrict =>
            have stays : (∃ entry, (outcome earlier).next (.flowMod mod) = .installed entry) ↔
                ∃ entry, outcome earlier = .installed entry := by
              cases outcome earlier <;> simp [Outcome.next, command]
            rw [stays, ih]
            constructor
            · rintro ⟨other, member, isAdd⟩
              exact ⟨other, List.mem_append_left _ member, isAdd⟩
            · rintro ⟨other, member, isAdd⟩
              rcases List.mem_append.mp member with old | new
              · exact ⟨other, old, isAdd⟩
              · cases List.mem_singleton.mp new
                rw [command] at isAdd
                cases isAdd
          all_goals cases isSet.1
      | _ => cases isSet

section Batch

variable {shuffle : Shuffle} {useBarriers : Bool} {input deletes : List Ofmsg}

theorem adds_iff : Adds input flow ↔
    ∃ mod, .flowMod mod ∈ input ∧ mod.command = .add ∧ sets flow (.flowMod mod) = true := by
  constructor
  · rintro ⟨mod, member, isAdd, named⟩
    refine ⟨mod, member, isAdd, ?_⟩
    rw [sets, named, FlowMod.isFlowdel, isAdd]
    rfl
  · rintro ⟨mod, member, isAdd, isSet⟩
    rw [sets, Bool.and_eq_true] at isSet
    exact ⟨mod, member, isAdd, isSet.2⟩

theorem exists_installed_iff_adds :
    (∃ entry, outcome (input.filter (sets flow)) = .installed entry) ↔ Adds input flow := by
  rw [exists_installed_iff fun _ member => (List.mem_filter.mp member).2, adds_iff]
  constructor
  · rintro ⟨mod, member, isAdd⟩
    obtain ⟨member, isSet⟩ := List.mem_filter.mp member
    exact ⟨mod, member, isAdd, isSet⟩
  · rintro ⟨mod, member, isAdd, isSet⟩
    exact ⟨mod, List.mem_filter.mpr ⟨member, isSet⟩, isAdd⟩

/-- `sets` for a message that is not a delete, read off its key. -/
def setsByKey (flow : FlowId) : Option FlowmodKey → Bool
  | some key =>
      key.tableId == flow.tableId && key.priority == flow.priority &&
        key.matchFields == flow.matchFields
  | none => false

theorem msgKind_of_sets {ofmsg : Ofmsg} (isSet : sets flow ofmsg = true) :
    msgKind ofmsg = .flowaddmod := by
  cases ofmsg with
  | flowMod mod =>
      rw [sets, Bool.and_eq_true, Bool.not_eq_true'] at isSet
      rcases msgKind_flowMod mod with ⟨isDel, _⟩ | ⟨_, kind⟩
      · cases isSet.1.symm.trans isDel
      · exact kind
  | _ => cases isSet

theorem sortKey_of_sets {ofmsg : Ofmsg} (isSet : sets flow ofmsg = true) :
    tableId ofmsg = some flow.tableId.val ∧ priority ofmsg = some flow.priority := by
  cases ofmsg with
  | flowMod mod =>
      rw [sets, Bool.and_eq_true, FlowMod.names, Bool.and_eq_true, Bool.and_eq_true, beq_iff_eq,
        beq_iff_eq] at isSet
      exact ⟨congrArg some isSet.2.1.1, congrArg some isSet.2.1.2⟩
  | _ => cases isSet

theorem sortsBefore_trans (first second third : Ofmsg) (before : sortsBefore first second = true)
    (before' : sortsBefore second third = true) : sortsBefore first third = true := by
  simp only [sortsBefore, Bool.or_eq_true, Bool.and_eq_true, decide_eq_true_eq, beq_iff_eq] at *
  omega

theorem sortsBefore_total (first second : Ofmsg) :
    (sortsBefore first second || sortsBefore second first) = true := by
  simp only [sortsBefore, Bool.or_eq_true, Bool.and_eq_true, decide_eq_true_eq, beq_iff_eq]
  omega

/-- The sort is stable: messages of one table and priority keep their order. -/
theorem filter_sortFlows {p : Ofmsg → Bool} {ofmsgs : List Ofmsg}
    (equal : ∀ first second, p first = true → p second = true → sortsBefore first second = true) :
    (sortFlows ofmsgs).filter p = ofmsgs.filter p := by
  have selected : ∀ ofmsg ∈ ofmsgs.filter p, p ofmsg = true :=
    fun ofmsg member => (List.mem_filter.mp member).2
  have ordered : (ofmsgs.filter p).Pairwise fun first second => sortsBefore first second = true :=
    (List.pairwise_of_forall fun _ _ => trivial).imp_of_mem
      fun member member' _ => equal _ _ (selected _ member) (selected _ member')
  have kept : (ofmsgs.filter p).Sublist (sortFlows ofmsgs) :=
    List.sublist_mergeSort sortsBefore_trans sortsBefore_total ordered List.filter_sublist
  have within := kept.filter p
  rw [List.filter_eq_self.mpr selected] at within
  exact (within.eq_of_length ((List.mergeSort_perm _ _).filter p).length_eq.symm).symm

/-- The adds and modifies of a flow that are sent. -/
theorem filter_sets_sent : (sent shuffle input deletes .flowaddmod).filter (sets flow) =
    OrderedDict.values flowmodkey (input.filter (sets flow)) := by
  have byKey : ∀ ofmsg, msgKind ofmsg = .flowaddmod →
      sets flow ofmsg = setsByKey flow (flowmodkey ofmsg) := by
    intro ofmsg kind
    obtain ⟨mod, rfl, notDel⟩ := flowMod_of_flowaddmod kind
    rw [sets, notDel]
    rfl
  have kinds : (input.filter (msgKind · == .flowaddmod)).filter (sets flow) =
      input.filter (sets flow) := by
    rw [List.filter_filter]
    refine List.filter_congr fun ofmsg _ => ?_
    rw [Bool.and_eq_left_iff_imp]
    exact fun isSet => beq_iff_eq.mpr (msgKind_of_sets isSet)
  rw [sent, dedupeOfmsgs, filter_sortFlows, ← kinds]
  · rw [List.filter_congr fun ofmsg member =>
        byKey ofmsg (mem_of_kind.mp (OrderedDict.mem_of_mem_values member)).2,
      List.filter_congr (l := input.filter (msgKind · == .flowaddmod)) fun ofmsg member =>
        byKey ofmsg (mem_of_kind.mp member).2]
    exact OrderedDict.filter_values
  · intro first second isSet isSet'
    obtain ⟨table, priority⟩ := sortKey_of_sets isSet
    obtain ⟨table', priority'⟩ := sortKey_of_sets isSet'
    simp [sortsBefore, table, table', priority, priority']

/-- What is sent does to a flow: the deletes that are not dropped, then the last add or
modify of each cookie. -/
theorem foldl_sent_flows (returned : dedupeOverlapsOfmsgs id (withoutSuppressed input) = some deletes)
    (current : Option FlowEntry) :
    (inOrder useBarriers (sent shuffle input deletes)).foldl (flowEffect flow) current =
      (outcome (OrderedDict.values flowmodkey (input.filter (sets flow)))).run
        (current.filter fun entry =>
          !(sent shuffle input deletes .deleteglobal ++ sent shuffle input deletes .delete).any
            (removesFlow flow entry)) := by
  have neutral : ∀ ofmsg, msgKind ofmsg ≠ .deleteglobal → msgKind ofmsg ≠ .delete →
      msgKind ofmsg ≠ .flowaddmod → ∀ current, flowEffect flow current ofmsg = current := by
    intro ofmsg notGlobal notDel notSet current
    cases ofmsg with
    | flowMod mod =>
        rcases msgKind_flowMod mod with ⟨_, kind | kind⟩ | ⟨_, kind⟩
        · exact absurd kind notGlobal
        · exact absurd kind notDel
        · exact absurd kind notSet
    | _ => rfl
  rw [foldl_sent returned (.inr (.inr rfl)) neutral, foldl_flowSets, foldl_flowDeletes,
    filter_sets_sent]
  · intro ofmsg member
    rcases List.mem_append.mp member with global | delete
    · simp [isDelete, (mem_sent_deleteglobal.mp global).2]
    · simp [isDelete, ((mem_sent_delete returned).mp delete).2.1]
  · intro ofmsg member
    rw [isDelete, msgKind_of_mem_sent returned member]
    rfl

theorem filter_sets_deletesFirst :
    (input.filter (!isDelete ·)).filter (sets flow) = input.filter (sets flow) := by
  rw [List.filter_filter]
  refine List.filter_congr fun ofmsg _ => ?_
  rw [Bool.and_eq_left_iff_imp]
  intro isSet
  rw [isDelete, msgKind_of_sets isSet]
  rfl

/-- The batch does to a flow what it should: its deletes, then its adds and modifies. -/
theorem foldl_deletesFirst_flows (current : Option FlowEntry) :
    (deletesFirst input).foldl (flowEffect flow) current =
      (outcome (input.filter (sets flow))).run
        (current.filter fun entry => !(input.filter isDelete).any (removesFlow flow entry)) := by
  rw [deletesFirst, List.foldl_append, foldl_flowSets, foldl_flowDeletes, filter_sets_deletesFirst]
  · exact fun ofmsg member => (List.mem_filter.mp member).2
  · exact fun ofmsg member => by simpa using (List.mem_filter.mp member).2

theorem msgKind_of_removes {mod : FlowMod} (removes : mod.removes flow entry = true) :
    msgKind (.flowMod mod) = .deleteglobal ∨ msgKind (.flowMod mod) = .delete := by
  rw [FlowMod.removes, Bool.and_eq_true] at removes
  rcases msgKind_flowMod mod with ⟨_, kind⟩ | ⟨notDel, _⟩
  · exact kind
  · cases notDel.symm.trans (FlowMod.isFlowdel_of_reaches removes.1)

theorem removed_iff : (input.filter isDelete).any (removesFlow flow entry) = true ↔
    ∃ mod, .flowMod mod ∈ input ∧ mod.removes flow entry = true := by
  rw [List.any_eq_true]
  constructor
  · rintro ⟨ofmsg, member, removes⟩
    cases ofmsg with
    | flowMod mod => exact ⟨mod, (List.mem_filter.mp member).1, removes⟩
    | _ => cases removes
  · rintro ⟨mod, member, removes⟩
    refine ⟨.flowMod mod, List.mem_filter.mpr ⟨member, ?_⟩, removes⟩
    rcases msgKind_of_removes removes with kind | kind <;> rw [isDelete, kind] <;> rfl

theorem removed_sent_iff
    (returned : dedupeOverlapsOfmsgs id (withoutSuppressed input) = some deletes) :
    (sent shuffle input deletes .deleteglobal ++ sent shuffle input deletes .delete).any
        (removesFlow flow entry) = true ↔
      ∃ mod, .flowMod mod ∈ input ∧ ¬ Dropped input (.flowMod mod) ∧
        mod.removes flow entry = true := by
  rw [List.any_eq_true]
  constructor
  · rintro ⟨ofmsg, member, removes⟩
    cases ofmsg with
    | flowMod mod =>
        rcases List.mem_append.mp member with global | delete
        · obtain ⟨member, kind⟩ := mem_sent_deleteglobal.mp global
          refine ⟨mod, member, ?_, removes⟩
          rintro ⟨isDel, _⟩
          cases kind.symm.trans isDel
        · obtain ⟨member, _, kept⟩ := (mem_sent_delete returned).mp delete
          exact ⟨mod, member, kept, removes⟩
    | _ => cases removes
  · rintro ⟨mod, member, kept, removes⟩
    refine ⟨.flowMod mod, ?_, removes⟩
    rcases msgKind_of_removes removes with kind | kind
    · exact List.mem_append_left _ (mem_sent_deleteglobal.mpr ⟨member, kind⟩)
    · exact List.mem_append_right _ ((mem_sent_delete returned).mpr ⟨member, kind, kept⟩)

/-- A delete that is sent removes the flow from the entry. -/
def RemovedBySent (input : List Ofmsg) (flow : FlowId) (entry : FlowEntry) : Prop :=
  ∃ mod, .flowMod mod ∈ input ∧ ¬ Dropped input (.flowMod mod) ∧ mod.removes flow entry = true

theorem removes_iff {mod : FlowMod} : mod.removes flow entry = true ↔
    mod.reaches flow = true ∧ ∀ port, mod.outPort = some port → entry.outputsTo port = true := by
  rw [FlowMod.removes, Bool.and_eq_true, FlowMod.outPortMatches]
  refine and_congr_right fun _ => ?_
  cases mod.outPort with
  | none => exact iff_of_true rfl (by simp)
  | some port => exact ⟨fun outputs _ same => Option.some.inj same ▸ outputs, fun all => all port rfl⟩

/-- A sent delete that removes an entry that outputs nowhere removes every entry. -/
theorem sentFor_none_of_removed (nowhere : ∀ port, entry.outputsTo port = false)
    (removed : RemovedBySent input flow entry) : SentFor input flow none := by
  obtain ⟨mod, member, kept, removes⟩ := removed
  obtain ⟨reaches, outputs⟩ := removes_iff.mp removes
  refine ⟨mod, member, kept, reaches, .inl ?_⟩
  cases outPort : mod.outPort with
  | none => rfl
  | some port => cases (nowhere port).symm.trans (outputs port outPort)

theorem removed_of_sentFor {outPort : Option PortNo} (sentFor : SentFor input flow outPort)
    (outputs : ∀ port, outPort = some port → entry.outputsTo port = true) :
    RemovedBySent input flow entry := by
  obtain ⟨mod, member, kept, reaches, narrower⟩ := sentFor
  refine ⟨mod, member, kept, removes_iff.mpr ⟨reaches, fun port same => ?_⟩⟩
  rcases narrower with unconditional | sameCondition
  · cases unconditional.symm.trans same
  · exact outputs port (sameCondition.symm.trans same)

/-- The dropped deletes are made up for when what is sent removes all that the batch
removes. -/
theorem madeUp_iff :
    (∀ mod, .flowMod mod ∈ input → Dropped input (.flowMod mod) → mod.reaches flow →
        SentFor input flow mod.outPort) ↔
      ∀ entry mod, .flowMod mod ∈ input → mod.removes flow entry = true →
        RemovedBySent input flow entry := by
  constructor
  · intro madeUp entry mod member removes
    by_cases dropped : Dropped input (.flowMod mod)
    · obtain ⟨reaches, outputs⟩ := removes_iff.mp removes
      exact removed_of_sentFor (madeUp mod member dropped reaches) outputs
    · exact ⟨mod, member, dropped, removes⟩
  · intro removed mod member _ reaches
    -- an entry that outputs just where the delete asks
    let entry : FlowEntry := ⟨0, [.applyActions (mod.outPort.toList.map Act.output)], 0, 0, 0⟩
    have outputs : ∀ port, entry.outputsTo port = true ↔ mod.outPort = some port := by
      intro port
      simp [entry, FlowEntry.outputsTo, Instruction.outputsTo]
    obtain ⟨other, present, kept, removes⟩ := removed entry mod member
      (removes_iff.mpr ⟨reaches, fun port => (outputs port).mpr⟩)
    obtain ⟨reaches', outputs'⟩ := removes_iff.mp removes
    refine ⟨other, present, kept, reaches', ?_⟩
    cases outPort : other.outPort with
    | none => exact .inl rfl
    | some port => exact .inr ((outputs port).mp (outputs' port outPort)).symm

/-- Where the batch installs the flow, nothing else matters. -/
theorem agrees_of_installed {kept whole : Outcome} {gone gone' : FlowEntry → Bool}
    (installed : ∃ entry, whole = .installed entry) :
    (∀ current : Option FlowEntry,
        kept.run (current.filter (!gone' ·)) = whole.run (current.filter (!gone ·))) ↔
      kept = whole := by
  obtain ⟨entry, rfl⟩ := installed
  constructor
  · intro agrees
    have fresh := agrees none
    cases kept with
    | installed entry' => exact congrArg Outcome.installed (Option.some.inj fresh)
    | unchanged => cases fresh
    | modified => cases fresh
  · rintro rfl current
    rfl

/-- Where the batch does not install the flow, the same entries have to go, and unless
all of them do, the same is made of the others. -/
theorem agrees_of_not_installed {kept whole : Outcome} {gone gone' : FlowEntry → Bool}
    (free : ∀ entry, kept ≠ .installed entry) (free' : ∀ entry, whole ≠ .installed entry)
    (fewer : ∀ entry, gone' entry = true → gone entry = true)
    (nowhere : ∀ entry : FlowEntry, (∀ port, entry.outputsTo port = false) →
      gone' entry = true → ∀ entry, gone' entry = true) :
    (∀ current : Option FlowEntry,
        kept.run (current.filter (!gone' ·)) = whole.run (current.filter (!gone ·))) ↔
      (∀ entry, gone entry = true → gone' entry = true) ∧
        (kept = whole ∨ ∀ entry, gone' entry = true) := by
  have runs : ∀ {outcome : Outcome} {gone : FlowEntry → Bool} (entry : FlowEntry),
      outcome.run ((some entry).filter (!gone ·)) =
        if gone entry then outcome.run none else outcome.run (some entry) := by
    intro outcome gone entry
    cases removed : gone entry <;> simp [Option.filter, removed]
  have empty : ∀ {outcome : Outcome}, (∀ entry, outcome ≠ .installed entry) →
      outcome.run none = none :=
    fun free => (Outcome.run_eq_none_iff free none).mpr rfl
  constructor
  · intro agrees
    have same : ∀ entry, gone entry = true → gone' entry = true := by
      intro entry removed
      have both := agrees (some entry)
      rw [runs, runs, if_pos removed, empty free'] at both
      by_contra stays
      rw [if_neg stays, Outcome.run_eq_none_iff free] at both
      cases both
    refine ⟨same, or_iff_not_imp_right.mpr fun some_stay => ?_⟩
    refine Outcome.eq_of_run free free' fun entry outputs => ?_
    have stays : ¬ gone' entry = true := fun removed => some_stay (nowhere entry outputs removed)
    have both := agrees (some entry)
    rwa [runs, runs, if_neg stays, if_neg (fun removed => stays (same entry removed))] at both
  · rintro ⟨same, settled⟩ current
    cases current with
    | none => exact (empty free).trans (empty free').symm
    | some entry =>
        have iff : gone entry = gone' entry := by
          rw [Bool.eq_iff_iff]
          exact ⟨same entry, fewer entry⟩
        rw [runs, runs, iff]
        rcases settled with rfl | all
        · rfl
        · rw [if_pos (all entry), if_pos (all entry), empty free, empty free']

/-- **A flow ends up as it should** exactly when the deletes that are dropped for it are
made up for and its adds and modifies are settled. -/
theorem flow_agrees_iff
    (returned : dedupeOverlapsOfmsgs id (withoutSuppressed input) = some deletes) :
    (∀ current, (inOrder useBarriers (sent shuffle input deletes)).foldl (flowEffect flow) current =
        (deletesFirst input).foldl (flowEffect flow) current) ↔
      (∀ mod, .flowMod mod ∈ input → Dropped input (.flowMod mod) → mod.reaches flow →
        ¬ Adds input flow → SentFor input flow mod.outPort) ∧ Settled input flow := by
  simp only [foldl_sent_flows returned, foldl_deletesFirst_flows]
  by_cases added : Adds input flow
  · rw [agrees_of_installed (exists_installed_iff_adds.mpr added)]
    simp only [Settled, added, not_true_eq_false, false_and, or_false, false_imp_iff, imp_true_iff,
      true_and]
  · have whole : ∀ entry, outcome (input.filter (sets flow)) ≠ .installed entry :=
      fun entry installed => added (exists_installed_iff_adds.mp ⟨entry, installed⟩)
    have kept : ∀ entry, outcome (OrderedDict.values flowmodkey (input.filter (sets flow))) ≠
        .installed entry := by
      intro entry installed
      obtain ⟨mod, member, isAdd⟩ := (exists_installed_iff fun ofmsg member =>
        (List.mem_filter.mp (OrderedDict.mem_of_mem_values member)).2).mp ⟨entry, installed⟩
      obtain ⟨_, installed'⟩ := (exists_installed_iff fun ofmsg member =>
        (List.mem_filter.mp member).2).mpr ⟨mod, OrderedDict.mem_of_mem_values member, isAdd⟩
      exact whole _ installed'
    rw [agrees_of_not_installed kept whole]
    · simp only [removed_iff, removed_sent_iff returned, forall_exists_index, and_imp]
      simp only [added, not_false_eq_true, true_imp_iff, Settled, true_and]
      refine and_congr madeUp_iff.symm (or_congr_right ⟨fun all => ?_, fun sentFor entry => ?_⟩)
      · exact sentFor_none_of_removed (fun _ => rfl) (all ⟨0, [], 0, 0, 0⟩)
      · exact removed_of_sentFor sentFor (by simp)
    · intro entry removed
      rw [removed_sent_iff returned] at removed
      obtain ⟨mod, member, _, removes⟩ := removed
      exact removed_iff.mpr ⟨mod, member, removes⟩
    · intro entry outputs removed other
      rw [removed_sent_iff returned] at removed ⊢
      exact removed_of_sentFor (sentFor_none_of_removed outputs removed) (by simp)

end Batch

end Flows

/-- **The pass does what it is meant to do exactly when the batch is safe.** -/
theorem preservesMeaning_iff_reorderSafe (shuffle : Shuffle) (useBarriers : Bool)
    (input : List Ofmsg) : PreservesMeaning shuffle useBarriers input ↔ ReorderSafe input := by
  unfold PreservesMeaning valveFlowreorder
  cases returned : dedupeOverlapsOfmsgs id (withoutSuppressed input) with
  | none =>
      rw [dedupeOverlapsOfmsgs_eq_none, mixesDeletes_iff] at returned
      refine iff_of_false (by rintro ⟨_, ⟨⟩, _⟩) fun safe => safe.sorts returned
  | some deletes =>
      have sorts : ¬ MixesDeletes input := by
        rw [← mixesDeletes_iff, ← dedupeOverlapsOfmsgs_eq_none, returned]
        nofun
      have groups : ∀ entryId current,
          (inOrder useBarriers (sent shuffle input deletes)).foldl
              (entryEffect Ofmsg.groupMod? ofpgAll entryId) current =
            (deletesFirst input).foldl (entryEffect Ofmsg.groupMod? ofpgAll entryId) current :=
        fun _ current => selects_groupMod.entries_agree returned current
      have meters : ∀ entryId current,
          (inOrder useBarriers (sent shuffle input deletes)).foldl
              (entryEffect Ofmsg.meterMod? ofpmAll entryId) current =
            (deletesFirst input).foldl (entryEffect Ofmsg.meterMod? ofpmAll entryId) current :=
        fun _ current => selects_meterMod.entries_agree returned current
      simp only [Option.map_some, Option.some.injEq, exists_eq_left']
      rw [Switch.applyAll_congr, and_iff_left ⟨groups, meters⟩]
      simp only [flow_agrees_iff returned]
      constructor
      · intro agrees
        exact ⟨sorts, fun mod id => (agrees id).1 mod, fun id => (agrees id).2⟩
      · intro safe id
        exact ⟨fun mod => safe.madeUp mod id, safe.settled id⟩

/-- A delete of a VLAN in all tables, of a port in one table, and of a group. -/
def mixedBatch : List Ofmsg :=
  let flowdel := fun tableId field value => Ofmsg.flowMod
    { command := .delete, tableId, priority := 0, cookie := 0, outPort := none
      matchFields := .single ⟨field, value, none⟩, instructions := []
      hardTimeout := 0, idleTimeout := 0, flags := 0 }
  [flowdel ofpttAll 6 0x1064, flowdel 1 0 1, .groupMod (.delete 5)]

/-- The pass fails on deletes of three kinds. -/
theorem not_preservesMeaning_of_mixed :
    ¬ ∀ shuffle useBarriers input, PreservesMeaning shuffle useBarriers input := by
  intro preserves
  obtain ⟨output, returned, _⟩ := preserves ⟨id, fun _ => .refl _⟩ true mixedBatch
  have free : ∀ ofmsg, ¬ Suppressed mixedBatch ofmsg := by
    rintro ofmsg ⟨wide, member, kind, _⟩
    have kinds : ∀ wide ∈ mixedBatch, msgKind wide = .delete := by decide
    cases kind.symm.trans (kinds wide member)
  have mixes : MixesDeletes mixedBatch :=
    ⟨⟨_, List.mem_cons_self, rfl, free _, rfl, rfl⟩,
      ⟨_, List.mem_cons_of_mem _ List.mem_cons_self, rfl, free _, 1, rfl, nofun⟩,
      ⟨_, List.mem_cons_of_mem _ (List.mem_cons_of_mem _ List.mem_cons_self), rfl, free _, rfl⟩⟩
  rw [valveFlowreorder, dedupeOverlapsOfmsgs_eq_none.mpr (mixesDeletes_iff.mpr mixes)]
    at returned
  cases returned

end Faucet.OpenFlow
