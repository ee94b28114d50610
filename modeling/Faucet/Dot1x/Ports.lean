import Faucet.Dot1x.Hosts

/-!
# Ports that come up and go down

What the messages for a port add and what they reach, and that the flows remain tracked
when the step is allowed.
-/

set_option autoImplicit false

namespace Faucet.Dot1x

open OpenFlow TransitionSystem

variable {dp : Dp} {state next : State} {mods : List FlowMod} {mod : FlowMod} {port other : Port}
  {mac host : Mac} {id : FlowId} {entry : FlowEntry}

/-- Without messages, and when no more ports run, everything stays as it is. -/
theorem Tracked.of_quiet (tracked : Tracked dp state)
    (handled : AllHandled dp [] state.switch next.switch)
    (running : ∀ port ∈ dp.ports, Running next port → Running state port)
    (session : ∀ portNum mac id, next.session portNum mac id = state.session portNum mac id) :
    Tracked dp next := by
  have same : ∀ id, id.tableId = dp.portAclTable.tableId →
      next.switch.flows id = state.switch.flows id := fun id inTable =>
    (handled id inTable).kept (fun adds => adds.elim fun _ added => absurd added.1 List.not_mem_nil)
      fun _ member => absurd member List.not_mem_nil
  constructor
  · intro port member runs mod listed id names
    rw [same id (inTable_of_pair listed names)]
    exact tracked.pair port member (running port member runs) mod listed id names
  · intro port member runs bypass id names
    rw [same id (inTable_of_mab names)]
    exact tracked.mab port member (running port member runs) bypass id names
  · intro portNum mac id entry logged
    rw [session] at logged
    obtain ⟨_, _, _, removable⟩ := tracked.shapes portNum mac id (by rw [logged]; simp)
    rw [same id removable.shape.inTable]
    exact tracked.sessions portNum mac id entry logged
  · intro port member id entry inTable present installed
    rw [same id inTable] at installed
    simpa only [Known, session] using tracked.known port member id entry inTable present installed
  · intro portNum mac id logged
    rw [session] at logged
    exact tracked.shapes portNum mac id logged

/-- The adds of a step that installs redirects: none of them is of a login flow, and a
redirect that one of them names it installs. -/
theorem eq_of_pair_names {listed : List FlowMod} (member : port ∈ dp.ports)
    (kinds : ∀ mod ∈ listed, (∃ other ∈ dp.ports, mod ∈ dp.createDot1xFlowPair other.number) ∨
      (∃ other, mod ∈ dp.noauthFlows other) ∨ ∃ other : Port, mod = dp.createMabFlow other.number)
    (redirect : mod ∈ dp.createDot1xFlowPair port.number) (names : mod.names id = true) :
    ∀ mod' ∈ listed, mod'.names id = true → mod' = mod := by
  intro mod' present names'
  rcases kinds mod' present with ⟨other, member', pair⟩ | ⟨other, noauth⟩ | ⟨other, same⟩
  · exact pair_entry member member' redirect names pair names'
  · exact absurd names' (not_acl_of_pair redirect names (Dp.mem_noauthFlows noauth))
  · subst same
    have priority := (pair_priority redirect names).symm.trans (mab_priority names')
    exact absurd priority (by decide)

/-! ## Ports that come up -/

section PortUp

variable (emitted : dp.portUp port = some mods) (enabled : port.enabled = true)
include emitted enabled

theorem portUp_parts : mods = dp.createDot1xFlowPair port.number ++ dp.noauthFlows port ++
    if port.dot1xMab then [dp.createMabFlow port.number] else [] := by
  rw [Dp.portUp, if_pos enabled] at emitted
  obtain ⟨flows, added, emitted⟩ := Option.bind_eq_some_iff.mp emitted
  cases emitted
  rw [Dp.addUnauthenticated_eq added]

theorem portUp_mem (member : mod ∈ mods) : mod ∈ dp.createDot1xFlowPair port.number ∨
    mod ∈ dp.noauthFlows port ∨ port.dot1xMab = true ∧ mod = dp.createMabFlow port.number := by
  rw [portUp_parts emitted enabled] at member
  rcases List.mem_append.mp member with member | member
  · rcases List.mem_append.mp member with pair | noauth
    · exact .inl pair
    · exact .inr (.inl noauth)
  · split at member
    next bypass => exact .inr (.inr ⟨bypass, List.mem_singleton.mp member⟩)
    next => cases member

theorem portUp_isAdd (member : mod ∈ mods) : mod.command = .add := by
  rcases portUp_mem emitted enabled member with pair | noauth | ⟨_, same⟩
  · exact (Dp.aclMod_pair pair).2.1
  · exact (Dp.mem_noauthFlows noauth).isAdd
  · exact same ▸ rfl

end PortUp

/-- The step of an enabled port that comes up. -/
structure PortUpStep (dp : Dp) (state next : State) (mods : List FlowMod) (port : Port) : Prop where
  member : port ∈ dp.ports
  enabled : port.enabled = true
  handled : AllHandled dp mods state.switch next.switch
  spared : ∀ mod ∈ dp.noauthFlows port, ∀ id mac entry, mod.names id = true →
    state.session port.number mac id = some entry → mod.entry = entry
  up : ∀ portNum, portNum ≠ port.number → next.up portNum = state.up portNum
  session : next.session = state.session

namespace PortUpStep

variable (step : PortUpStep dp state next mods port) (tracked : Tracked dp state)
  (emitted : dp.portUp port = some mods)

include step emitted

theorem kinds : ∀ mod ∈ mods, (∃ other ∈ dp.ports, mod ∈ dp.createDot1xFlowPair other.number) ∨
    (∃ other, mod ∈ dp.noauthFlows other) ∨
      ∃ other : Port, mod = dp.createMabFlow other.number := by
  intro mod member
  rcases portUp_mem emitted step.enabled member with pair | noauth | ⟨_, same⟩
  · exact .inl ⟨port, step.member, pair⟩
  · exact .inr (.inl ⟨port, noauth⟩)
  · exact .inr (.inr ⟨port, same⟩)

theorem free (member : mod ∈ mods) : mod.reaches id = false :=
  Bool.eq_false_iff.mpr (not_reaches_of_add (portUp_isAdd emitted step.enabled member))

include tracked

theorem pair (member' : other ∈ dp.ports) (running : Running next other)
    (listed : mod ∈ dp.createDot1xFlowPair other.number) : Installs next.switch mod := by
  intro id names
  have handled := step.handled id (inTable_of_pair listed names)
  have unique := eq_of_pair_names member' (step.kinds emitted) listed names
  by_cases adding : Adding mods id
  · obtain ⟨mod', present, _, names', after⟩ := handled.added adding
    rw [after, unique mod' present names']
  · have apart : other.number ≠ port.number := by
      intro same
      refine adding ⟨mod, ?_, (Dp.aclMod_pair listed).2.1, names⟩
      rw [portUp_parts emitted step.enabled, ← same]
      exact List.mem_append_left _ (List.mem_append_left _ listed)
    rw [handled.kept adding fun _ => step.free emitted]
    refine tracked.pair other member' ⟨running.1, ?_⟩ mod listed id names
    rw [← step.up _ apart]
    exact running.2

theorem mab (member' : other ∈ dp.ports) (running : Running next other)
    (bypass : other.dot1xMab = true) : Installs next.switch (dp.createMabFlow other.number) := by
  intro id names
  have handled := step.handled id (inTable_of_mab names)
  have notPair : ∀ mod ∈ dp.createDot1xFlowPair port.number, mod.names id ≠ true := by
    intro mod listed names'
    exact absurd ((mab_priority names).symm.trans (pair_priority listed names')) (by decide)
  by_cases same : other.number = port.number
  · -- the flow comes last, and at most one noauth rule has its priority
    have samePort := dp.port_eq member' step.member same
    subst samePort
    have parts := portUp_parts emitted step.enabled
    rw [if_pos bypass] at parts
    refine handled.last _ _ parts rfl names ?_
    rw [List.filter_append, List.length_append,
      List.filter_eq_nil_iff.mpr fun mod listed => notPair mod listed, List.length_nil, Nat.zero_add]
    refine Nat.le_trans (List.monotone_filter_right _ fun mod names' => ?_).length_le
      Dp.noauthFlows_spec.2
    rw [decide_eq_true_eq, (names_iff.mp names').2.1, mab_priority names]
  · rw [handled.kept ?_ fun _ => step.free emitted]
    · refine tracked.mab other member' ⟨running.1, ?_⟩ bypass id names
      rw [← step.up _ same]
      exact running.2
    · intro adding
      obtain ⟨mod, present, _, names'⟩ := adding
      rcases portUp_mem emitted step.enabled present with pair | noauth | ⟨_, equal⟩
      · exact notPair mod pair names'
      · exact same (inPort_unique (mab_shape names).1 (noauth_inPort noauth names'))
      · exact same (inPort_unique (mab_shape names).1 (mab_shape (equal ▸ names')).1)

theorem sessions {portNum : PortNo} (logged : state.session portNum mac id = some entry) :
    next.switch.flows id = some entry := by
  obtain ⟨owner, member', same, removable⟩ := tracked.shapes portNum mac id (by rw [logged]; simp)
  subst same
  have shape := removable.shape
  refine (step.handled id shape.inTable).stays (tracked.sessions _ _ _ _ logged) ?_
    fun _ => step.free emitted
  intro mod present _ names
  rcases portUp_mem emitted step.enabled present with pair | noauth | ⟨_, equal⟩
  · exact absurd shape.source ((pair_of_inPort member' pair names shape.port).2 mac)
  · have samePort := inPort_unique shape.port (noauth_inPort noauth names)
    exact step.spared mod noauth id mac entry names (samePort ▸ logged)
  · exact absurd shape.source ((mab_shape (equal ▸ names)).2 mac)

theorem known (member' : other ∈ dp.ports) (inTable : id.tableId = dp.portAclTable.tableId)
    (present : inPort other.number ∈ id.matchFields.items)
    (installed : next.switch.flows id = some entry) : Known dp next other id entry := by
  have handled := step.handled id inTable
  rw [Known, step.session]
  by_cases adding : Adding mods id
  · obtain ⟨mod, listed, _, names, after⟩ := handled.added adding
    rcases portUp_mem emitted step.enabled listed with pair | noauth | ⟨bypass, equal⟩
    · have same := (pair_of_inPort member' pair names present).1
      exact .inl ⟨mod, same ▸ pair, names⟩
    · have same := dp.port_eq step.member member'
        (inPort_unique (noauth_inPort noauth names) present)
      exact .inr (.inr (.inl ⟨mod, same ▸ noauth, names,
        Option.some.inj (after.symm.trans installed)⟩))
    · subst equal
      have same := dp.port_eq step.member member' (inPort_unique (mab_shape names).1 present)
      exact .inr (.inl (same ▸ ⟨bypass, names⟩))
  · exact tracked.known other member' id entry inTable present (handled.earlier adding installed)

theorem tracked_next : Tracked dp next where
  pair := fun _ member' running _ => step.pair tracked emitted member' running
  mab := fun _ => step.mab tracked emitted
  sessions := fun _ _ _ _ logged => step.sessions tracked emitted (step.session ▸ logged)
  known := fun _ member' _ _ => step.known tracked emitted member'
  shapes := step.session ▸ tracked.shapes

end PortUpStep

/-- When the NFV port comes up the ports that run have their redirects added again. -/
theorem Tracked.nfvSwPortUp (tracked : Tracked dp state)
    (handled : AllHandled dp (dp.nfvSwPortUp state.up) state.switch next.switch)
    (up : next.up = state.up) (session : next.session = state.session) : Tracked dp next := by
  have listed : ∀ mod ∈ dp.nfvSwPortUp state.up, ∃ port ∈ dp.ports,
      mod ∈ dp.createDot1xFlowPair port.number := by
    intro mod member
    obtain ⟨port, runs, pair⟩ := List.mem_flatMap.mp member
    exact ⟨port, (List.mem_filter.mp runs).1, pair⟩
  have free : ∀ id, ∀ mod ∈ dp.nfvSwPortUp state.up, mod.reaches id = false := by
    intro id mod member
    obtain ⟨port, _, pair⟩ := listed mod member
    exact Bool.eq_false_iff.mpr (not_reaches_of_add (Dp.aclMod_pair pair).2.1)
  have runs : ∀ port, Running next port → Running state port := by
    intro port running
    rwa [Running, up] at running
  constructor
  · intro port member running mod pair id names
    refine (handled id (inTable_of_pair pair names)).stays
      (tracked.pair port member (runs port running) mod pair id names) ?_ (free id)
    intro mod' present _ names'
    rw [eq_of_pair_names member (fun mod member => .inl (listed mod member)) pair names mod'
      present names']
  · intro port member running bypass id names
    refine (handled id (inTable_of_mab names)).stays
      (tracked.mab port member (runs port running) bypass id names) ?_ (free id)
    intro mod present _ names'
    obtain ⟨other, _, pair⟩ := listed mod present
    exact absurd ((mab_priority names).symm.trans (pair_priority pair names')) (by decide)
  · intro portNum mac id entry logged
    rw [session] at logged
    obtain ⟨owner, member, same, removable⟩ :=
      tracked.shapes portNum mac id (by rw [logged]; simp)
    have shape := removable.shape
    refine (handled id shape.inTable).stays (tracked.sessions _ _ _ _ logged) ?_ (free id)
    intro mod present _ names
    obtain ⟨other, _, pair⟩ := listed mod present
    exact absurd shape.source ((pair_of_inPort member pair names shape.port).2 mac)
  · intro port member id entry inTable present installed
    rw [Known, session]
    by_cases adding : Adding (dp.nfvSwPortUp state.up) id
    · obtain ⟨mod, added, _, names⟩ := adding
      obtain ⟨other, _, pair⟩ := listed mod added
      have same := (pair_of_inPort member pair names present).1
      exact .inl ⟨mod, same ▸ pair, names⟩
    · exact tracked.known port member id entry inTable present
        ((handled id inTable).earlier adding installed)
  · rw [session]
    exact tracked.shapes

/-! ## Ports that go down -/

section PortDown

variable (emitted : dp.portDown port = some mods)
include emitted

/-- Outside of a LACP bundle. -/
theorem portDown_parts (single : port.lacp = false) : ∃ dels,
    dp.delAuthenticatedFlowmod port (dp.getMacStr port.number) = some dels ∧
      mods = dp.delPort port ++ dels ++ (dp.noauthFlows port).map (fun flow =>
        dp.portAclTable.flowdel flow.matchFields flow.priority false) ++
        dp.delMabFlow port.number ++ dp.delDot1xFlowPair port.number := by
  rw [Dp.portDown, if_neg (Bool.eq_false_iff.mp single)] at emitted
  obtain ⟨dels, deleted, emitted⟩ := Option.bind_eq_some_iff.mp emitted
  obtain ⟨noauth, deleted', emitted⟩ := Option.bind_eq_some_iff.mp emitted
  cases emitted
  rw [← Dp.delUnauthenticated_eq deleted']
  exact ⟨dels, deleted, rfl⟩

/-- Every message is a delete for the port, or for the NFV port and the MAC address of the
port. -/
theorem portDown_mem (member : mod ∈ mods) : ∃ fields priority strict,
    mod = dp.portAclTable.flowdel fields priority strict ∧
      (inPort port.number ∈ fields.items ∨ inPort dp.nfvSwPort ∈ fields.items ∧
        ethSrc (dp.getMacStr port.number) ∈ fields.items) := by
  cases bundled : port.lacp with
  | true =>
      rw [Dp.portDown, if_pos bundled] at emitted
      cases emitted
      cases member
  | false =>
      obtain ⟨dels, deleted, rfl⟩ := portDown_parts emitted bundled
      simp only [List.mem_append, Dp.delPort, Dp.delMabFlow, Dp.delDot1xFlowPair] at member
      rcases member with (((member | member) | member) | member) | member
      · split at member
        · cases member
        · cases List.mem_singleton.mp member
          exact ⟨_, _, _, rfl, .inl Match.mem_set_self⟩
      · obtain ⟨fields, priority, strict, rfl, present, _⟩ :=
          Dp.mem_delAuthenticated deleted member
        exact ⟨fields, priority, strict, rfl, .inl present⟩
      · obtain ⟨flow, noauth, rfl⟩ := List.mem_map.mp member
        exact ⟨_, _, _, rfl, .inl (Dp.mem_noauthFlows noauth).port⟩
      · cases List.mem_singleton.mp member
        exact ⟨_, _, _, rfl, .inl Dp.mem_mab.1⟩
      · rcases List.mem_pair.mp member with same | same
        · exact ⟨_, _, _, same, .inr (Dp.mem_nfvEapol _)⟩
        · exact ⟨_, _, _, same, .inl Dp.mem_eapol.1⟩

theorem portDown_not_adding : ¬ Adding mods id := by
  intro adding
  obtain ⟨mod, member, isAdd, _⟩ := adding
  obtain ⟨_, _, strict, rfl, _⟩ := portDown_mem emitted member
  exact AclTable.flowdel_command_ne _ _ _ _ isAdd

theorem portDown_reaches (member : mod ∈ mods) (reaches : mod.reaches id = true) :
    inPort port.number ∈ id.matchFields.items ∨ inPort dp.nfvSwPort ∈ id.matchFields.items ∧
      ethSrc (dp.getMacStr port.number) ∈ id.matchFields.items := by
  obtain ⟨fields, _, strict, rfl, present | ⟨nfv, source⟩⟩ := portDown_mem emitted member
  · exact .inl (Match.mem_of_covers rfl (AclTable.covers_of_reaches reaches) present)
  · have covers := AclTable.covers_of_reaches reaches
    exact .inr ⟨Match.mem_of_covers rfl covers nfv, Match.mem_of_covers rfl covers source⟩

/-- No add stands for a delete. -/
theorem portDown_removes {before after : Option FlowEntry} (handled : Handled mods id before after)
    (member : mod ∈ mods) (reaches : mod.reaches id = true) : after = none := by
  refine handled.removed (portDown_not_adding emitted) mod member reaches ?_
  intro other listed isAdd
  obtain ⟨_, _, strict, rfl, _⟩ := portDown_mem emitted listed
  exact absurd isAdd (AclTable.flowdel_command_ne _ _ _ _)

end PortDown

/-- The step of a port that goes down. -/
structure PortDownStep (dp : Dp) (state next : State) (mods : List FlowMod) (port : Port) : Prop where
  member : port ∈ dp.ports
  handled : AllHandled dp mods state.switch next.switch
  cleared : port.lacp = true ∨ port.outputOnly = true →
    ∀ mac id, state.session port.number mac id ≠ none →
      port.lacp = false ∧ (mac = dp.getMacStr port.number ∨
        ∃ mod ∈ dp.noauthFlows port, mod.matchFields.covers id.matchFields = true)
  down : next.up port.number = false
  up : ∀ portNum, portNum ≠ port.number → next.up portNum = state.up portNum
  own : ∀ mac id, next.session port.number mac id = none
  others : ∀ portNum, portNum ≠ port.number → next.session portNum = state.session portNum

namespace PortDownStep

variable (step : PortDownStep dp state next mods port) (tracked : Tracked dp state)
  (emitted : dp.portDown port = some mods)

include step

/-- What runs afterwards is another port, which ran before. -/
theorem running (running : Running next other) :
    other.number ≠ port.number ∧ Running state other := by
  have apart : other.number ≠ port.number := by
    intro same
    have isUp := running.2
    rw [same, step.down] at isUp
    cases isUp
  exact ⟨apart, running.1, (step.up _ apart).symm.trans running.2⟩

include emitted

/-- A flow of another port stays. -/
theorem stays (inTable : id.tableId = dp.portAclTable.tableId)
    (installed : state.switch.flows id = some entry)
    (otherPort : inPort port.number ∉ id.matchFields.items)
    (otherMac : inPort dp.nfvSwPort ∈ id.matchFields.items →
      ethSrc (dp.getMacStr port.number) ∉ id.matchFields.items) :
    next.switch.flows id = some entry := by
  rw [(step.handled id inTable).kept (portDown_not_adding emitted), installed]
  intro mod member
  rw [Bool.eq_false_iff]
  intro reaches
  rcases portDown_reaches emitted member reaches with present | ⟨nfv, source⟩
  · exact otherPort present
  · exact otherMac nfv source

include tracked

/-- The flows of the hosts on the port go. -/
theorem removes (logged : state.session port.number mac id = some entry) :
    next.switch.flows id = none := by
  have removable := tracked.removable step.member (by rw [logged]; simp)
  have shape := removable.shape
  have handled := step.handled id shape.inTable
  by_cases special : port.lacp = true ∨ port.outputOnly = true
  · obtain ⟨single, own | ⟨flow, listed, covers⟩⟩ :=
      step.cleared special mac id (by rw [logged]; simp)
    · subst own
      obtain ⟨dels, deleted, parts⟩ := portDown_parts emitted single
      obtain ⟨del, member, reaches, _⟩ := Dp.exists_delAuthenticated deleted removable
      exact portDown_removes emitted handled (by simp [parts, member]) reaches
    · obtain ⟨dels, deleted, parts⟩ := portDown_parts emitted single
      have member : dp.portAclTable.flowdel flow.matchFields flow.priority false ∈ mods := by
        rw [parts]
        refine List.mem_append_left _ (List.mem_append_left _ (List.mem_append_right _ ?_))
        exact List.mem_map.mpr ⟨flow, listed, rfl⟩
      exact portDown_removes emitted handled member
        ((AclTable.reaches_flowdel shape.inTable).trans covers)
  · rw [not_or, Bool.not_eq_true, Bool.not_eq_true] at special
    obtain ⟨dels, deleted, parts⟩ := portDown_parts emitted special.1
    have member : dp.portAclTable.flowdel (.ofFields [inPort port.number]) 0 false ∈ mods := by
      simp [parts, Dp.delPort, special.2]
    refine portDown_removes emitted handled member ((AclTable.reaches_flowdel shape.inTable).trans ?_)
    refine Match.covers_iff.mpr fun field listed => ?_
    rcases Match.mem_set.mp listed with same | ⟨none, _⟩
    · exact ⟨_, shape.port, (Match.covers_exact (same ▸ rfl)).mpr same.symm⟩
    · cases none

theorem tracked_next : Tracked dp next where
  pair := fun other member' runs mod listed id names => by
    obtain ⟨apart, before⟩ := step.running runs
    refine step.stays emitted (inTable_of_pair listed names)
      (tracked.pair other member' before mod listed id names) ?_ ?_
    · intro present
      exact apart (pair_of_inPort step.member listed names present).1
    · intro nfv source
      rcases pair_shape listed names with ⟨own, _⟩ | ⟨_, source'⟩
      · exact dp.nfvApart other member' (inPort_unique own nfv)
      · exact apart (dp.getMacStr_inj (ethSrc_unique source' source))
  mab := fun other member' runs bypass id names => by
    obtain ⟨apart, before⟩ := step.running runs
    have shape := mab_shape names
    exact step.stays emitted (inTable_of_mab names)
      (tracked.mab other member' before bypass id names)
      (fun present => apart (inPort_unique shape.1 present)) fun _ => shape.2 _
  sessions := fun portNum host id entry logged => by
    by_cases same : portNum = port.number
    · rw [same, step.own] at logged
      cases logged
    · rw [step.others portNum same] at logged
      obtain ⟨owner, member', owned, removable⟩ :=
        tracked.shapes portNum host id (by rw [logged]; simp)
      subst owned
      have shape := removable.shape
      refine step.stays emitted shape.inTable (tracked.sessions _ _ _ _ logged)
        (fun present => same (inPort_unique shape.port present)) fun nfv _ => ?_
      exact dp.nfvApart owner member' (inPort_unique shape.port nfv)
  known := fun other member' id entry inTable present installed => by
    have before := (step.handled id inTable).earlier (portDown_not_adding emitted) installed
    rcases tracked.known other member' id entry inTable present before with
      pair | names | noauth | ⟨host, logged⟩
    · exact .inl pair
    · exact .inr (.inl names)
    · exact .inr (.inr (.inl noauth))
    · by_cases same : other.number = port.number
      · rw [same] at logged
        cases (step.removes tracked emitted logged).symm.trans installed
      · refine .inr (.inr (.inr ⟨host, ?_⟩))
        rw [step.others _ same, logged]
  shapes := fun portNum host id logged => by
    by_cases same : portNum = port.number
    · rw [same] at logged
      exact absurd (step.own host id) logged
    · rw [step.others _ same] at logged
      exact tracked.shapes portNum host id logged

end PortDownStep

end Faucet.Dot1x
