import Faucet.Config.RangeSharing

/-!
# What ports with shared options have in common

In a run that leaves nothing in the beacon of the class, a port is accepted only if it is accepted
alone (`Traced.alone`). The ports that share a beacon end with the same one: when each of them has
what it would have alone, they agree (`agree_of_parsePorts`). So a range means its ports written
out exactly when its ports agree (`DpConf.meant_iff`).
-/

set_option autoImplicit false

namespace Faucet.Config.Interfaces

open OrderedDict Fallible

variable {α V : Type} [DecidableEq α] {env : Env V} {objects : Objects α} {store last : Store α}
  {entry entry' : Entry α} {parsed parsed' : ParsedPort V} {entries : List (Entry α)}
  {ports : List (ParsedPort V)} {object : α} {lldpBeacon : Dict}

/-! ## Runs -/

/-- The ports are parsed one after the other, and the beacon of the class stays empty. -/
inductive Runs (env : Env V) : Store α → List (Entry α) → Store α → Prop
  | nil {store : Store α} : store.defaultBeacon = [] → Runs env store [] store
  | cons {store last : Store α} {entry : Entry α} {rest : List (Entry α)} {parsed : ParsedPort V} :
      store.defaultBeacon = [] → entry.alone env store.objects = .ok parsed →
      Runs env (entry.store parsed.port store) rest last → Runs env store (entry :: rest) last

namespace Runs

theorem default (runs : Runs env store entries last) : store.defaultBeacon = [] := by
  cases runs with
  | nil empty => exact empty
  | cons empty _ _ => exact empty

theorem split {first second : List (Entry α)} (runs : Runs env store (first ++ second) last) :
    ∃ middle, Runs env store first middle ∧ Runs env middle second last := by
  induction first generalizing store with
  | nil => exact ⟨store, .nil runs.default, runs⟩
  | cons entry rest ih =>
      cases runs with
      | cons empty returns later =>
          obtain ⟨middle, rest, second⟩ := ih later
          exact ⟨middle, .cons empty returns rest, second⟩

end Runs

omit [DecidableEq α] in
theorem start_lldpBeacon_of_notDict {defaultBeacon : Dict}
    (has : entry.conf.lookup "lldp_beacon" = some object)
    (notDict : (objects "lldp_beacon" object).isInstance .dict = false) :
    (Port.start defaultBeacon entry.key (entry.load objects)).lldpBeacon = defaultBeacon := by
  rw [Port.start]
  dsimp only
  rw [lookup_load, has, Option.map_some]
  split
  next absent => cases absent
  next found =>
    rw [Option.some.inj found] at notDict
    cases notDict
  next => rfl

theorem enableBeacon_ne_nil {port : Port}
    (nonempty : port.lldpBeacon ≠ [] ∨ (port.option "stack").truthy = true) :
    port.enableBeacon ≠ [] := by
  rw [Port.enableBeacon]
  split
  · exact set_ne_nil
  next enabled =>
    rcases nonempty with nonempty | stack
    · exact nonempty
    · intro isNil
      rw [stack, isNil] at enabled
      exact enabled rfl

/-- A beacon that is left behind stays. -/
theorem defaultBeacon_of_store
    (returns : dpParsePort env store.defaultBeacon entry.key (entry.load store.objects) = .ok parsed)
    (empty : (entry.store parsed.port store).defaultBeacon = []) : store.defaultBeacon = [] := by
  by_contra nonempty
  rw [defaultBeacon_store] at empty
  split at empty
  next isNull =>
    obtain ⟨object, has, notDict⟩ := isNull
    have given : (Port.start store.defaultBeacon entry.key (entry.load store.objects)).lldpBeacon =
        store.defaultBeacon := start_lldpBeacon_of_notDict has notDict
    obtain ⟨_, beacon, _⟩ := dictionaries_of_parsed returns
    refine checkLldpBeacon_ne_nil (enableBeacon_ne_nil (.inl ?_)) beacon empty
    rwa [given]
  next => exact nonempty empty

theorem runs_of_parsePorts (returns : parsePorts env store entries = .ok (ports, last))
    (empty : last.defaultBeacon = []) : Runs env store entries last := by
  induction entries generalizing store ports with
  | nil =>
      cases returns
      exact .nil empty
  | cons entry rest ih =>
      rw [parsePorts] at returns
      obtain ⟨parsed, first, returns⟩ := bind_eq_ok.mp returns
      obtain ⟨⟨others, last'⟩, later, returns⟩ := bind_eq_ok.mp returns
      cases returns
      have runs := ih later
      have emptyStore := defaultBeacon_of_store first runs.default
      rw [emptyStore] at first
      exact .cons emptyStore first runs

/-- In the end a port is as its dictionaries are then. -/
theorem views_of_parsePorts (returns : parsePorts env store entries = .ok (ports, last)) :
    List.Forall₂ (fun entry port => ∃ parsed, port.port = entry.view last parsed) entries ports := by
  induction entries generalizing store ports with
  | nil =>
      cases returns
      exact .nil
  | cons entry rest ih =>
      rw [parsePorts] at returns
      obtain ⟨parsed, _, returns⟩ := bind_eq_ok.mp returns
      obtain ⟨⟨others, last'⟩, later, returns⟩ := bind_eq_ok.mp returns
      cases returns
      exact .cons ⟨parsed.port, rfl⟩ (ih later)

/-! ## One beacon -/

omit [DecidableEq α] in
/-- The beacon of the port before it is checked. -/
theorem start_lldpBeacon (has : entry.conf.lookup "lldp_beacon" = some object)
    (isDict : objects "lldp_beacon" object = .dict lldpBeacon) :
    (Port.start [] entry.key (entry.load objects)).lldpBeacon = lldpBeacon := by
  have start := @nested_start _ objects entry "lldp_beacon" (by decide)
  rwa [has, Option.map_some, isDict] at start

omit [DecidableEq α] in
/-- A port with a beacon has no `stack`. -/
theorem noStack_of_alone (returns : entry.alone env objects = .ok parsed)
    (nonempty : (Port.start [] entry.key (entry.load objects)).lldpBeacon ≠ []) :
    (entry.option objects "stack").truthy = false := by
  obtain ⟨_, _, fits⟩ := dictionaries_of_parsed returns
  by_contra stack
  rw [Bool.not_eq_false] at stack
  have member : "stack" ∈ (Port.start [] entry.key (entry.load objects)).nonVlanPortOptions :=
    Port.mem_nonVlanPortOptions (by simp) stack
  have placed := fits (List.ne_nil_of_mem member)
  rw [Port.misplaced_beacon, Bool.not_eq_false', List.isEmpty_iff] at placed
  exact nonempty placed

omit [DecidableEq α] in
/-- A port with a `stack` gets a beacon. -/
theorem lldpBeacon_of_stack (returns : entry.alone env objects = .ok parsed)
    (stack : (entry.option objects "stack").truthy = true) : parsed.port.lldpBeacon ≠ [] := by
  obtain ⟨_, beacon, _⟩ := dictionaries_of_parsed returns
  exact checkLldpBeacon_ne_nil (enableBeacon_ne_nil (.inr stack)) beacon

omit [DecidableEq α] in
/-- What becomes of a beacon with entries. -/
theorem beacon_of_nonempty (returns : entry.alone env objects = .ok parsed)
    (has : entry.conf.lookup "lldp_beacon" = some object)
    (isDict : objects "lldp_beacon" object = .dict lldpBeacon) (nonempty : lldpBeacon ≠ []) :
    ∃ text, checkLldpBeacon (.str text) lldpBeacon = .ok parsed.port.lldpBeacon := by
  have given := start_lldpBeacon has isDict
  obtain ⟨text, isText⟩ := description_of_alone returns
  refine ⟨text, ?_⟩
  rw [← isText]
  exact beacon_of_alone returns has isDict (noStack_of_alone returns (by rwa [given]))

/-- What is kept whenever the beacon is checked holds of it in the end. -/
theorem Runs.beacon {P : Dict → Prop} (nonempty : ∀ lldpBeacon, P lldpBeacon → lldpBeacon ≠ [])
    (keeps : ∀ text lldpBeacon lldpBeacon', P lldpBeacon →
      checkLldpBeacon (.str text) lldpBeacon = .ok lldpBeacon' → P lldpBeacon')
    (runs : Runs env store entries last)
    (start : ∃ lldpBeacon, store.objects "lldp_beacon" object = .dict lldpBeacon ∧ P lldpBeacon) :
    ∃ lldpBeacon, last.objects "lldp_beacon" object = .dict lldpBeacon ∧ P lldpBeacon := by
  induction runs with
  | nil => exact start
  | @cons store last entry rest parsed empty returns _ ih =>
      obtain ⟨lldpBeacon, isDict, holds⟩ := start
      refine ih ?_
      rw [objects_store]
      split
      next written =>
        obtain ⟨text, beacon⟩ :=
          beacon_of_nonempty returns written.2.1 isDict (nonempty lldpBeacon holds)
        exact ⟨_, rfl, keeps text lldpBeacon _ holds beacon⟩
      next => exact ⟨lldpBeacon, isDict, holds⟩

/-! ## What is accepted is accepted alone -/

/-- What the dictionaries have become. -/
structure Traced (objects objects' : Objects α) : Prop where
  only : OnlyDicts objects objects'
  beacon : ∀ object before now, objects "lldp_beacon" object = .dict before →
    objects' "lldp_beacon" object = .dict now → before ≠ [] → now ≠ [] ∧
      (now = before ∨ ∀ description, ∃ result, checkLldpBeacon description before = .ok result)
  coprocessor : ∀ object before now, objects "coprocessor" object = .dict before →
    objects' "coprocessor" object = .dict now →
      now = before ∨ Port.checkCoprocessor before = .ok now

namespace Traced

variable {objects' : Objects α}

omit [DecidableEq α] in
theorem refl (objects : Objects α) : Traced objects objects := by
  refine ⟨.refl objects, fun object before now isBefore isNow nonempty => ?_,
    fun object before now isBefore isNow => ?_⟩
  · rw [isBefore] at isNow
    cases isNow
    exact ⟨nonempty, .inl rfl⟩
  · rw [isBefore] at isNow
    cases isNow
    exact .inl rfl

omit [DecidableEq α] in
theorem isDict {name : String} {before : Dict} (only : OnlyDicts objects objects')
    (isBefore : objects name object = .dict before) :
    objects' name object = .dict (objects' name object).entries := by
  refine entries_of_isDict ((only.isDict name object).trans ?_)
  rw [isBefore]
  rfl

theorem step (traced : Traced objects store.objects)
    (returns : entry.alone env store.objects = .ok parsed) :
    Traced objects (entry.store parsed.port store).objects := by
  refine ⟨traced.only.store entry parsed.port, fun object before now isBefore isNow nonempty => ?_,
    fun object before now isBefore isNow => ?_⟩
  · have isMiddle := Traced.isDict traced.only isBefore
    obtain ⟨nonempty', accepted⟩ := traced.beacon object before _ isBefore isMiddle nonempty
    rw [objects_store] at isNow
    split at isNow
    next written =>
      cases isNow
      obtain ⟨text, beacon⟩ := beacon_of_nonempty returns written.2.1 isMiddle nonempty'
      refine ⟨checkLldpBeacon_ne_nil nonempty' beacon, .inr ?_⟩
      rcases accepted with same | accepted
      · rw [same] at beacon
        exact checkLldpBeacon_accepts nonempty beacon
      · exact accepted
    next =>
      rw [isMiddle] at isNow
      cases isNow
      exact ⟨nonempty', accepted⟩
  · have isMiddle := Traced.isDict traced.only isBefore
    have accepted := traced.coprocessor object before _ isBefore isMiddle
    rw [objects_store] at isNow
    split at isNow
    next written =>
      cases isNow
      have checked := coprocessor_of_alone returns written.2.1 isMiddle
      rcases accepted with same | accepted
      · rw [same] at checked
        exact .inr checked
      · rw [Port.checkCoprocessor_again accepted] at checked
        have same : store.objects "coprocessor" object = .dict parsed.port.coprocessor := by
          rw [isMiddle, Except.ok.inj checked]
        rw [same] at accepted
        exact .inr accepted
    next =>
      rw [isMiddle] at isNow
      cases isNow
      exact accepted

omit [DecidableEq α] in
/-- The dictionaries of a port. -/
theorem nested (traced : Traced objects objects') {name : String} (listed : name ∈ nestedOptions) :
    (Port.start [] entry.key (entry.load objects')).nested name =
        (Port.start [] entry.key (entry.load objects)).nested name ∨
      ∃ object before now, objects name object = .dict before ∧ objects' name object = .dict now ∧
        (Port.start [] entry.key (entry.load objects)).nested name = before ∧
        (Port.start [] entry.key (entry.load objects')).nested name = now := by
  rw [nested_start listed, nested_start listed]
  cases has : entry.conf.lookup name with
  | none => exact .inl rfl
  | some object =>
      rcases traced.only name object with same | ⟨_, isDict, isDict'⟩
      · rw [Option.map_some, Option.map_some, same]
        exact .inl rfl
      · exact .inr ⟨object, _, _, entries_of_isDict isDict, entries_of_isDict isDict', rfl, rfl⟩

/-- An empty beacon is accepted, also when it is enabled. -/
theorem accepts_enableBeacon {port : Port} (empty : port.lldpBeacon = []) (description : Value) :
    ∃ result, checkLldpBeacon description port.enableBeacon = .ok result := by
  rw [Port.enableBeacon, empty]
  split
  · exact ⟨_, rfl⟩
  · exact ⟨_, rfl⟩

omit [DecidableEq α] in
/-- **A port that is accepted is accepted alone.** -/
theorem alone (traced : Traced objects objects') (returns : entry.alone env objects' = .ok parsed) :
    ∃ port, entry.alone env objects = .ok port := by
  obtain ⟨checked, beacon, fits⟩ := dictionaries_of_parsed returns
  have sameOption := traced.only.option entry
  have coprocessor : (Port.start [] entry.key (entry.load objects')).coprocessor.isEmpty =
        (Port.start [] entry.key (entry.load objects)).coprocessor.isEmpty ∧
      Port.checkCoprocessor (Port.start [] entry.key (entry.load objects)).coprocessor =
        .ok parsed.port.coprocessor := by
    rcases @nested _ _ entry _ traced "coprocessor" (by decide) with
      same | ⟨object, before, now, isBefore, isNow, givenBefore, givenNow⟩
    · have same : (Port.start [] entry.key (entry.load objects')).coprocessor =
          (Port.start [] entry.key (entry.load objects)).coprocessor := same
      rw [same] at checked
      exact ⟨congrArg _ same, checked⟩
    · have givenBefore : (Port.start [] entry.key (entry.load objects)).coprocessor = before :=
        givenBefore
      have givenNow : (Port.start [] entry.key (entry.load objects')).coprocessor = now := givenNow
      rw [givenNow] at checked
      rw [givenBefore, givenNow]
      rcases traced.coprocessor object before now isBefore isNow with rfl | accepted
      · exact ⟨rfl, checked⟩
      · rw [Port.checkCoprocessor_again accepted] at checked
        cases checked
        exact ⟨(Port.isEmpty_coprocessor accepted).symm, accepted⟩
  have lldpBeacon : (Port.start [] entry.key (entry.load objects)).lldpBeacon = [] ∨
      (Port.start [] entry.key (entry.load objects')).lldpBeacon ≠ [] ∧
        ((Port.start [] entry.key (entry.load objects')).lldpBeacon =
            (Port.start [] entry.key (entry.load objects)).lldpBeacon ∨
          ∀ description, ∃ result, checkLldpBeacon description
            (Port.start [] entry.key (entry.load objects)).lldpBeacon = .ok result) := by
    by_cases empty : (Port.start [] entry.key (entry.load objects)).lldpBeacon = []
    · exact .inl empty
    · refine .inr ?_
      rcases @nested _ _ entry _ traced "lldp_beacon" (by decide) with
        same | ⟨object, before, now, isBefore, isNow, givenBefore, givenNow⟩
      · have same : (Port.start [] entry.key (entry.load objects')).lldpBeacon =
            (Port.start [] entry.key (entry.load objects)).lldpBeacon := same
        rw [same]
        exact ⟨empty, .inl rfl⟩
      · have givenBefore : (Port.start [] entry.key (entry.load objects)).lldpBeacon = before :=
          givenBefore
        have givenNow : (Port.start [] entry.key (entry.load objects')).lldpBeacon = now := givenNow
        rw [givenBefore] at empty
        rw [givenBefore, givenNow]
        exact traced.beacon object before now isBefore isNow empty
  have accepted : ∃ result, checkLldpBeacon
      ((Port.start [] entry.key (entry.load objects)).option "description")
      (Port.start [] entry.key (entry.load objects)).enableBeacon = .ok result := by
    rcases lldpBeacon with empty | ⟨nonempty, accepted⟩
    · exact accepts_enableBeacon empty _
    · have noStack' : (entry.option objects' "stack").truthy = false := noStack_of_alone returns nonempty
      have noStack : (entry.option objects "stack").truthy = false := by
        rwa [Entry.option, ← sameOption]
      rw [enableBeacon_of_no_stack noStack]
      rw [enableBeacon_of_no_stack noStack', sameOption] at beacon
      rcases accepted with same | accepted
      · rw [same] at beacon
        exact ⟨_, beacon⟩
      · exact accepted _
  obtain ⟨result, accepted⟩ := accepted
  refine ⟨_, dpParsePort_similar returns (by rw [map_fst_load, map_fst_load])
    (traced.only.symm.typed (dpParsePort_eq_ok.mp returns).2.1) ⟨sameOption, coprocessor.1⟩
    (fun vlanPort => ?_) coprocessor.2 accepted⟩
  rcases lldpBeacon with empty | ⟨nonempty, _⟩
  · exact empty
  · have placed := fits vlanPort
    rw [Port.misplaced_beacon, Bool.not_eq_false', List.isEmpty_iff] at placed
    exact absurd placed nonempty

end Traced

/-! ## What a run says about its ports -/

namespace Runs

theorem traced (runs : Runs env store entries last) (start : Traced objects store.objects) :
    Traced objects last.objects := by
  induction runs with
  | nil => exact start
  | cons _ returns _ ih => exact ih (start.step returns)

/-- Each port is accepted alone, and none has a `stack` and a null beacon. -/
theorem accepted (runs : Runs env store entries last) (start : Traced objects store.objects) :
    ∀ entry ∈ entries, (∃ port, entry.alone env objects = .ok port) ∧
      ¬ StackWithoutBeacon objects entry := by
  induction runs with
  | nil => nofun
  | @cons store last entry rest parsed empty returns later ih =>
      refine List.forall_mem_cons.mpr ⟨⟨start.alone returns, ?_⟩, ih (start.step returns)⟩
      rintro ⟨stack, object, has, isNull⟩
      have stack' : (entry.option store.objects "stack").truthy = true := by
        rwa [Entry.option, start.only.option]
      have notDict : (store.objects "lldp_beacon" object).isInstance .dict = false := by
        rw [start.only.isDict, isNull]
        rfl
      have left := later.default
      rw [defaultBeacon_store, if_pos ⟨object, has, notDict⟩] at left
      exact lldpBeacon_of_stack returns stack' left

/-- Two of the ports, one parsed after the other. -/
theorem pair (runs : Runs env store entries last) (start : Traced objects store.objects)
    (both : [entry, entry'].Sublist entries) :
    ∃ before middle first second parsed parsed', Runs env store first before ∧
      Traced objects before.objects ∧ entry.alone env before.objects = .ok parsed ∧
      Runs env (entry.store parsed.port before) second middle ∧ Traced objects middle.objects ∧
      entry'.alone env middle.objects = .ok parsed' := by
  obtain ⟨left, right, rfl, member, later⟩ := List.cons_sublist_iff.mp both
  obtain ⟨first, second, rfl⟩ := List.append_of_mem member
  obtain ⟨third, fourth, rfl⟩ := List.append_of_mem (List.singleton_sublist.mp later)
  have runs : Runs env store (first ++ entry :: (second ++ third ++ entry' :: fourth)) last := by
    simpa using runs
  obtain ⟨before, runsFirst, runs⟩ := runs.split
  have tracedBefore := runsFirst.traced start
  cases runs with
  | @cons _ _ _ _ parsed empty returns runs =>
      obtain ⟨middle, runsSecond, runs⟩ := runs.split
      have tracedMiddle := runsSecond.traced (tracedBefore.step returns)
      cases runs with
      | @cons _ _ _ _ parsed' empty' returns' runs =>
          exact ⟨before, middle, first, second ++ third, parsed, parsed', runsFirst, tracedBefore,
            returns, runsSecond, tracedMiddle, returns'⟩

end Runs

/-! ## Ports that share a beacon -/

section Sharing

omit [DecidableEq α] in
/-- The beacon of a port with a `stack` is configured empty. -/
theorem isNil_of_stack (returns : entry.alone env objects = .ok parsed)
    (has : entry.conf.lookup "lldp_beacon" = some object)
    (isDict : objects "lldp_beacon" object = .dict lldpBeacon)
    (stack : (entry.option objects "stack").truthy = true) : lldpBeacon = [] := by
  by_contra nonempty
  have given := start_lldpBeacon has isDict
  rw [noStack_of_alone returns (by rwa [given])] at stack
  cases stack

/-- The beacon that the port has written. -/
theorem objects_of_store (has : entry.conf.lookup "lldp_beacon" = some object)
    (isDict : store.objects "lldp_beacon" object = .dict lldpBeacon) :
    (entry.store parsed.port store).objects "lldp_beacon" object =
      .dict parsed.port.lldpBeacon := by
  have written : "lldp_beacon" ∈ nestedOptions ∧ entry.conf.lookup "lldp_beacon" = some object ∧
      (store.objects "lldp_beacon" object).isInstance .dict = true := by
    rw [isDict]
    exact ⟨by decide, has, rfl⟩
  rw [objects_store, if_pos written]
  rfl

/-- Two ports with a `stack` have no beacon in common. -/
theorem Runs.not_both_stacks (runs : Runs env store entries last)
    (start : Traced objects store.objects) (both : [entry, entry'].Sublist entries)
    (has : entry.conf.lookup "lldp_beacon" = some object)
    (has' : entry'.conf.lookup "lldp_beacon" = some object)
    (isDict : objects "lldp_beacon" object = .dict lldpBeacon)
    (stack : (entry.option objects "stack").truthy = true)
    (stack' : (entry'.option objects "stack").truthy = true) : False := by
  obtain ⟨before, middle, _, _, parsed, parsed', _, tracedBefore, returns, runsMiddle, tracedMiddle,
    returns'⟩ := runs.pair start both
  have stackBefore : (entry.option before.objects "stack").truthy = true := by
    rwa [Entry.option, tracedBefore.only.option]
  have stackMiddle : (entry'.option middle.objects "stack").truthy = true := by
    rwa [Entry.option, tracedMiddle.only.option]
  have written := @objects_of_store _ _ _ _ entry parsed _ _ has
    (Traced.isDict tracedBefore.only isDict)
  obtain ⟨now, isNow, nonempty⟩ := runsMiddle.beacon (P := fun lldpBeacon => lldpBeacon ≠ [])
    (fun _ nonempty => nonempty) (fun _ _ _ nonempty => checkLldpBeacon_ne_nil nonempty)
    ⟨_, written, lldpBeacon_of_stack returns stackBefore⟩
  exact nonempty (isNil_of_stack returns' has' isNow stackMiddle)

/-- No port is accepted any more that has the beacon. -/
def Spent (now : Dict) : Prop :=
  now ≠ [] ∧ ∀ text lldpBeacon', checkLldpBeacon (.str text) now ≠ .ok lldpBeacon'

/-- The TLVs of a beacon that is enabled and that two ports have are hexadecimal. -/
theorem Runs.plain (runs : Runs env store entries last) (start : store.objects = objects)
    (both : [entry, entry'].Sublist entries)
    (has : entry.conf.lookup "lldp_beacon" = some object)
    (has' : entry'.conf.lookup "lldp_beacon" = some object)
    (isDict : objects "lldp_beacon" object = .dict lldpBeacon)
    (enabled : lldpBeaconEnabled lldpBeacon = true) :
    ∀ orgTlv ∈ orgTlvsOf lldpBeacon, plainInfo orgTlv = true := by
  by_contra notAll
  have notPlain : ∃ orgTlv ∈ orgTlvsOf lldpBeacon, plainInfo orgTlv = false := by simpa using notAll
  have nonempty : lldpBeacon ≠ [] := by
    rintro rfl
    cases enabled
  have spent : ∀ text now, checkLldpBeacon (.str text) lldpBeacon = .ok now → Spent now := by
    intro text now returns
    exact ⟨checkLldpBeacon_ne_nil nonempty returns,
      fun _ _ => checkLldpBeacon_ne_ok nonempty ⟨text, rfl⟩ enabled returns notPlain _⟩
  -- The beacon is as configured until a port has been parsed that has it.
  have traced : Traced objects store.objects := start ▸ .refl store.objects
  obtain ⟨before, middle, _, _, parsed, parsed', runsBefore, tracedBefore, returns, runsMiddle,
    tracedMiddle, returns'⟩ := runs.pair traced both
  obtain ⟨now, isNow, state⟩ := runsBefore.beacon (P := fun now => now = lldpBeacon ∨ Spent now)
    (fun now state => state.elim (fun same => same ▸ nonempty) And.left)
    (fun text now now' state checked => by
      rcases state with rfl | ⟨_, never⟩
      · exact .inr (spent text now' checked)
      · exact absurd checked (never text now'))
    ⟨lldpBeacon, start ▸ isDict, .inl rfl⟩
  have nonemptyNow : now ≠ [] := state.elim (fun same => same ▸ nonempty) And.left
  obtain ⟨text, checked⟩ := beacon_of_nonempty returns has isNow nonemptyNow
  rcases state with rfl | ⟨_, never⟩
  · obtain ⟨now', isNow', nonempty', never⟩ := runsMiddle.beacon (P := Spent) (fun _ => And.left)
      (fun text now now' state checked => absurd checked (state.2 text now'))
      ⟨_, objects_of_store has isNow, spent text _ checked⟩
    obtain ⟨text', checked'⟩ := beacon_of_nonempty returns' has' isNow' nonempty'
    exact never text' _ checked'
  · exact never text _ checked

/-- A port that is as if it were alone has its beacon as it is in the end. -/
theorem lldpBeacon_last (returns : parsePorts env ⟨objects, []⟩ entries = .ok (ports, last))
    (alone : List.Forall₂ (fun entry port => entry.alone env objects = .ok port) entries ports)
    (traced : Traced objects last.objects)
    (isDict : objects "lldp_beacon" object = .dict lldpBeacon) :
    ∀ entry ∈ entries, ∃ parsed, entry.alone env objects = .ok parsed ∧
      (entry.conf.lookup "lldp_beacon" = some object →
        parsed.port.lldpBeacon = (last.objects "lldp_beacon" object).entries) := by
  have isLast := Traced.isDict traced.only isDict
  have both := List.Forall₂.mp (fun entry port aloneOne view =>
    show (∃ parsed, entry.alone env objects = .ok parsed ∧
        (entry.conf.lookup "lldp_beacon" = some object →
          parsed.port.lldpBeacon = (last.objects "lldp_beacon" object).entries)) ∧ True from
      ⟨⟨port, aloneOne, fun has => by
        obtain ⟨parsed, view⟩ := view
        rw [view, Entry.view, Entry.nestedIn, has]
        dsimp only
        rw [isLast]
        rfl⟩, trivial⟩) alone (views_of_parsePorts returns)
  exact ((List.forall₂_and_left _ _).mp both).1

/-- **Ports that are as if each were alone agree.** -/
theorem agree_of_parsePorts (returns : parsePorts env ⟨objects, []⟩ entries = .ok (ports, last))
    (empty : last.defaultBeacon = [])
    (alone : List.Forall₂ (fun entry port => entry.alone env objects = .ok port) entries ports) :
    entries.Pairwise (Agree objects) := by
  have runs := runs_of_parsePorts returns empty
  have start : Traced objects (⟨objects, []⟩ : Store α).objects := .refl objects
  refine List.pairwise_iff_forall_sublist.mpr fun {entry entry'} both => ?_
  intro object lldpBeacon has has' isDict
  have ends := lldpBeacon_last returns alone (runs.traced start) isDict
  obtain ⟨parsed, aloneOne, last⟩ := ends entry (both.subset (by simp))
  obtain ⟨parsed', aloneOne', last'⟩ := ends entry' (both.subset (by simp))
  have same : parsed.port.lldpBeacon = parsed'.port.lldpBeacon := (last has).trans (last' has').symm
  -- One with a `stack` would give the other one a beacon.
  have emptyStays : ∀ {entry : Entry α} {parsed : ParsedPort V},
      entry.alone env objects = .ok parsed → entry.conf.lookup "lldp_beacon" = some object →
      lldpBeacon = [] → (entry.option objects "stack").truthy = false →
      parsed.port.lldpBeacon = [] := by
    rintro entry parsed aloneOne has rfl noStack
    have beacon := beacon_of_alone aloneOne has isDict noStack
    exact (Except.ok.inj beacon).symm
  have noStacks : (entry.option objects "stack").truthy = false ∧
      (entry'.option objects "stack").truthy = false := by
    cases stack : (entry.option objects "stack").truthy with
    | true =>
        have isNil := isNil_of_stack aloneOne has isDict stack
        cases stack' : (entry'.option objects "stack").truthy with
        | true => exact (runs.not_both_stacks start both has has' isDict stack stack').elim
        | false =>
            rw [emptyStays aloneOne' has' isNil stack'] at same
            exact absurd same (lldpBeacon_of_stack aloneOne stack)
    | false =>
        cases stack' : (entry'.option objects "stack").truthy with
        | true =>
            have isNil := isNil_of_stack aloneOne' has' isDict stack'
            rw [emptyStays aloneOne has isNil stack] at same
            exact absurd same.symm (lldpBeacon_of_stack aloneOne' stack')
        | false => exact ⟨rfl, rfl⟩
  obtain ⟨noStack, noStack'⟩ := noStacks
  refine ⟨noStack, noStack', fun enabled => ⟨?_, runs.plain rfl both has has' isDict enabled⟩⟩
  have nonempty : lldpBeacon ≠ [] := by
    rintro rfl
    cases enabled
  have beacon := beacon_of_alone aloneOne has isDict noStack
  have beacon' := beacon_of_alone aloneOne' has' isDict noStack'
  rw [← same] at beacon'
  exact description_of_same nonempty (description_of_alone aloneOne) (description_of_alone aloneOne')
    enabled beacon beacon'

end Sharing

/-! ## Ports with copies of their own -/

section Own

/-- What the copies hold. -/
abbrev ownObjects (objects : Objects α) : Objects (ℕ × α) := fun name object => objects name object.2

omit [DecidableEq α] in
theorem load_own (objects : Objects α) (place : ℕ) (entry : Entry α) :
    (entry.own place).load (ownObjects objects) = entry.load objects := by
  simp [Entry.load, Entry.own]

omit [DecidableEq α] in
theorem alone_own (place : ℕ) : (entry.own place).alone env (ownObjects objects) =
    entry.alone env objects := by
  rw [Entry.alone, load_own]
  rfl

omit [DecidableEq α] in
theorem lookup_own {place : ℕ} {name : String} {object : ℕ × α} :
    (entry.own place).conf.lookup name = some object ↔
      object.1 = place ∧ entry.conf.lookup name = some object.2 := by
  obtain ⟨key, conf⟩ := entry
  simp only [Entry.own]
  induction conf with
  | nil => simp
  | cons option rest ih =>
      rw [List.map_cons, lookup_cons_eq, lookup_cons_eq]
      split
      · rw [Option.some.injEq, Option.some.injEq, Prod.ext_iff, eq_comm]
      · exact ih

omit [DecidableEq α] in
theorem stackWithoutBeacon_own {place : ℕ} :
    StackWithoutBeacon (ownObjects objects) (entry.own place) ↔ StackWithoutBeacon objects entry := by
  rw [StackWithoutBeacon, StackWithoutBeacon, Entry.option, load_own]
  refine and_congr Iff.rfl ⟨?_, ?_⟩
  · rintro ⟨object, has, isNull⟩
    exact ⟨object.2, (lookup_own.mp has).2, isNull⟩
  · rintro ⟨object, has, isNull⟩
    exact ⟨(place, object), lookup_own.mpr ⟨rfl, has⟩, isNull⟩

omit [DecidableEq α] in
/-- Ports that have nothing in common agree. -/
theorem agree_own {place place' : ℕ} (different : place ≠ place') :
    Agree (ownObjects objects) (entry.own place) (entry'.own place') := by
  intro object lldpBeacon has has' _
  exact absurd ((lookup_own.mp has).1.symm.trans (lookup_own.mp has').1) different

omit [DecidableEq α] in
theorem pairwise_own : (entries.mapIdx Entry.own).Pairwise (Agree (ownObjects objects)) := by
  rw [List.pairwise_iff_getElem]
  intro place place' inside inside' earlier
  rw [List.getElem_mapIdx, List.getElem_mapIdx]
  exact agree_own (Nat.ne_of_lt earlier)

omit [DecidableEq α] in
theorem forall₂_own : List.Forall₂ (fun entry port => entry.alone env (ownObjects objects) = .ok port)
      (entries.mapIdx Entry.own) ports ↔
    List.Forall₂ (fun entry port => entry.alone env objects = .ok port) entries ports := by
  have shifted : ∀ (entries : List (Entry α)) (ports : List (ParsedPort V)) (first : ℕ),
      List.Forall₂ (fun entry port => entry.alone env (ownObjects objects) = .ok port)
          (entries.mapIdx fun place entry => entry.own (first + place)) ports ↔
        List.Forall₂ (fun entry port => entry.alone env objects = .ok port) entries ports := by
    intro entries
    induction entries with
    | nil => simp
    | cons entry rest ih =>
        intro ports first
        cases ports with
        | nil => simp
        | cons port ports =>
            have next : (fun place (entry : Entry α) => entry.own (first + (place + 1))) =
                fun place entry => entry.own (first + 1 + place) := by
              funext place entry
              rw [Nat.add_assoc, Nat.add_comm 1]
            rw [List.mapIdx_cons, List.forall₂_cons, List.forall₂_cons, alone_own, next, ih]
  have fromZero := shifted entries ports 0
  simpa only [Nat.zero_add] using fromZero

end Own

/-! ## What is meant -/

section Meaning

variable {conf : DpConf α} {order : Finset ℕ → List ℕ}

omit [DecidableEq α] in
theorem exists_alone (accepted : ∀ entry ∈ entries, ∃ port, entry.alone env objects = .ok port) :
    ∃ ports, List.Forall₂ (fun entry port => entry.alone env objects = .ok port) entries ports := by
  induction entries with
  | nil => exact ⟨[], .nil⟩
  | cons entry rest ih =>
      obtain ⟨⟨port, first⟩, others⟩ := List.forall_mem_cons.mp accepted
      obtain ⟨ports, later⟩ := ih others
      exact ⟨port :: ports, .cons first later⟩

omit [DecidableEq α] in
theorem accepted_of_alones
    (alones : List.Forall₂ (fun entry port => entry.alone env objects = .ok port) entries ports) :
    ∀ entry ∈ entries, ∃ port, entry.alone env objects = .ok port := by
  induction alones with
  | nil => nofun
  | cons first _ ih => exact List.forall_mem_cons.mpr ⟨⟨_, first⟩, ih⟩

/-- Ports that are parsed are each accepted alone. -/
theorem accepted_of_parsePorts (returns : parsePorts env ⟨objects, []⟩ entries = .ok (ports, last))
    (empty : last.defaultBeacon = []) :
    (∀ entry ∈ entries, ∃ port, entry.alone env objects = .ok port) ∧
      ∀ entry ∈ entries, ¬ StackWithoutBeacon objects entry := by
  have accepted := (runs_of_parsePorts returns empty).accepted (.refl objects)
  exact ⟨fun entry member => (accepted entry member).1, fun entry member => (accepted entry member).2⟩

/-- The copies are parsed as if each port were alone. -/
theorem writtenOut_eq_ok (found : conf.entries order = .ok entries) :
    writtenOut env order [] conf = .ok (ports, []) ↔
      List.Forall₂ (fun entry port => entry.alone env conf.objects = .ok port) entries ports ∧
        ∀ entry ∈ entries, ¬ StackWithoutBeacon conf.objects entry := by
  have stackless : (∀ entry ∈ entries.mapIdx Entry.own,
        ¬ StackWithoutBeacon (ownObjects conf.objects) entry) ↔
      ∀ entry ∈ entries, ¬ StackWithoutBeacon conf.objects entry := by
    constructor
    · intro all entry member
      obtain ⟨place, inside, rfl⟩ := List.getElem_of_mem member
      rw [← @stackWithoutBeacon_own _ _ _ place]
      exact all _ (List.mem_mapIdx.mpr ⟨place, inside, rfl⟩)
    · intro all entry member
      obtain ⟨place, inside, rfl⟩ := List.mem_mapIdx.mp member
      rw [stackWithoutBeacon_own]
      exact all _ (List.getElem_mem inside)
  have parses : ∀ ports, List.Forall₂ (fun entry port => entry.alone env conf.objects = .ok port)
        entries ports → (∀ entry ∈ entries, ¬ StackWithoutBeacon conf.objects entry) →
      writtenOut env order [] conf = .ok (ports, []) := by
    intro ports alone without
    obtain ⟨last, parsed, empty⟩ :=
      parsePorts_of_agree (forall₂_own.mpr alone) (stackless.mpr without) pairwise_own
    exact bind_eq_ok.mpr ⟨entries, found, map_eq_ok.mpr ⟨_, parsed, by rw [empty]⟩⟩
  constructor
  · intro returns
    obtain ⟨entries', found', parsed⟩ := bind_eq_ok.mp returns
    obtain rfl : entries = entries' := Except.ok.inj (found.symm.trans found')
    obtain ⟨⟨ports', last⟩, parsed, same⟩ := map_eq_ok.mp parsed
    obtain ⟨accepted, without⟩ := accepted_of_parsePorts parsed (Prod.ext_iff.mp same).2
    obtain ⟨alones, alone⟩ := exists_alone accepted
    have alone := forall₂_own.mp alone
    have without := stackless.mp without
    have again := parses alones alone without
    rw [returns] at again
    obtain rfl : ports = alones := (Prod.ext_iff.mp (Except.ok.inj again)).1
    exact ⟨alone, without⟩
  · rintro ⟨alone, without⟩
    exact parses ports alone without

/-- **A range means its ports written out, and no port depends on another one, if and only if**
no port writes to a beacon that another one has. -/
theorem DpConf.meant_iff (env : Env V) (order : Finset ℕ → List ℕ) (conf : DpConf α) :
    conf.Meant env order ↔ conf.Harmless env order := by
  cases found : conf.entries order with
  | error message =>
      constructor
      · intro _ entries found'
        rw [found] at found'
        cases found'
      · intro _
        refine ⟨fun ports => ?_, fun ports => ?_⟩
        · rw [dpAddPorts, writtenOut, found]
          exact Iff.rfl
        · rw [dpAddPorts, found]
          exact ⟨nofun, nofun⟩
  | ok entries =>
      have aloneIff : ∀ ports, conf.entries order >>=
            (fun entries => entries.mapM (Entry.alone env conf.objects)) = .ok ports ↔
          List.Forall₂ (fun entry port => entry.alone env conf.objects = .ok port) entries ports := by
        intro ports
        rw [found, ← mapM_eq_ok]
        rfl
      have parsedIff : ∀ ports, dpAddPorts env order [] conf = .ok (ports, []) ↔
          ∃ last, parsePorts env ⟨conf.objects, []⟩ entries = .ok (ports, last) ∧
            last.defaultBeacon = [] := by
        intro ports
        rw [dpAddPorts, found]
        constructor
        · intro returns
          obtain ⟨⟨ports', last⟩, parsed, same⟩ := map_eq_ok.mp returns
          obtain ⟨samePorts, empty⟩ := Prod.ext_iff.mp same
          obtain rfl : ports' = ports := samePorts
          exact ⟨last, parsed, empty⟩
        · rintro ⟨last, parsed, empty⟩
          exact map_eq_ok.mpr ⟨_, parsed, by rw [empty]⟩
      constructor
      · rintro ⟨_, alone⟩ entries' found' accepted
        obtain rfl : entries = entries' := Except.ok.inj (found.symm.trans found')
        obtain ⟨ports, alones⟩ := exists_alone accepted
        obtain ⟨last, parsed, empty⟩ :=
          (parsedIff ports).mp ((alone ports).mpr ((aloneIff ports).mpr alones))
        exact ⟨(accepted_of_parsePorts parsed empty).2, agree_of_parsePorts parsed empty alones⟩
      · intro harmless
        have harmless := harmless entries found
        have parses : ∀ ports, List.Forall₂
            (fun entry port => entry.alone env conf.objects = .ok port) entries ports →
            dpAddPorts env order [] conf = .ok (ports, []) ∧
              ∀ entry ∈ entries, ¬ StackWithoutBeacon conf.objects entry := by
          intro ports alones
          obtain ⟨without, agree⟩ := harmless (accepted_of_alones alones)
          exact ⟨(parsedIff ports).mpr (parsePorts_of_agree alones without agree), without⟩
        have aloneParsed : ∀ ports, dpAddPorts env order [] conf = .ok (ports, []) ↔
            List.Forall₂ (fun entry port => entry.alone env conf.objects = .ok port) entries
              ports := by
          intro ports
          refine ⟨fun returns => ?_, fun alones => (parses ports alones).1⟩
          obtain ⟨last, parsed, empty⟩ := (parsedIff ports).mp returns
          obtain ⟨alones, alone⟩ := exists_alone (accepted_of_parsePorts parsed empty).1
          have again := (parses alones alone).1
          rw [returns] at again
          obtain rfl : ports = alones := (Prod.ext_iff.mp (Except.ok.inj again)).1
          exact alone
        refine ⟨fun ports => ?_, fun ports => ?_⟩
        · rw [writtenOut_eq_ok found, aloneParsed]
          exact ⟨fun alones => ⟨alones, (parses ports alones).2⟩, And.left⟩
        · rw [aloneIff, aloneParsed]

end Meaning

/-! ## A range with a beacon -/

section Example

/-- The numbers of the ports, in ascending order. -/
def ascending (portNums : Finset ℕ) : List ℕ :=
  (List.range (portNums.sup id + 1)).filter (· ∈ portNums)

/-- Two ports, with the beacon of their range. -/
def rangeWithBeacon : DpConf ℕ where
  interfaces := some []
  interfaceRanges := some [("1-2", .options [("native_vlan", 0), ("lldp_beacon", 1)])]
  objects name _ :=
    if name = "lldp_beacon" then .dict [("enable", .bool true)] else .int 100

/-- Every key is that of a VLAN. -/
def anyVlan : Env Unit where
  validMac _ := false
  getVlanByKey _ := .ok ()

/-- The port descriptions in the beacons of the ports. -/
def portDescrs (ports : List (ParsedPort Unit)) : List String :=
  ports.map fun port => ((port.port.lldpBeacon.lookup "port_descr").getD .null).text

/-- The second port announces the description of the first one. -/
theorem rangeWithBeacon_not_meant : ¬ rangeWithBeacon.Meant anyVlan ascending := by
  rintro ⟨_, alone⟩
  have sharedDescrs : (dpAddPorts anyVlan ascending [] rangeWithBeacon).toOption.map
      (fun parsed => portDescrs parsed.1) = some ["1", "1"] := by decide +kernel
  have aloneDescrs : (rangeWithBeacon.entries ascending >>= fun entries =>
      entries.mapM (Entry.alone anyVlan rangeWithBeacon.objects)).toOption.map portDescrs =
        some ["1", "2"] := by decide +kernel
  obtain ⟨ports, found, descrs⟩ := Option.map_eq_some_iff.mp aloneDescrs
  have returns : (rangeWithBeacon.entries ascending >>= fun entries =>
      entries.mapM (Entry.alone anyVlan rangeWithBeacon.objects)) = .ok ports := by
    generalize (rangeWithBeacon.entries ascending >>= fun entries =>
      entries.mapM (Entry.alone anyVlan rangeWithBeacon.objects)) = result at found
    cases result with
    | error message => cases found
    | ok ports' => exact congrArg _ (Option.some.inj found)
  rw [(alone ports).mpr returns] at sharedDescrs
  have same : portDescrs ports = ["1", "1"] := Option.some.inj sharedDescrs
  rw [descrs] at same
  exact absurd same (by decide)

end Example

end Faucet.Config.Interfaces
