import Faucet.Dot1x.Isolation

/-!
# Logins and log-offs

What the messages for a login or a log-off add and what they reach, and that the flows
remain tracked (`Tracked`) when the step is allowed.
-/

set_option autoImplicit false

namespace Faucet.Dot1x

open OpenFlow TransitionSystem

variable {dp : Dp} {state next : State} {mods : List FlowMod} {mod : FlowMod} {port other : Port}
  {mac host : Mac} {aclName : Option String} {id : FlowId} {entry : FlowEntry}

/-- Each flow of the table after the messages. -/
def AllHandled (dp : Dp) (mods : List FlowMod) (before after : Switch) : Prop :=
  ∀ id, id.tableId = dp.portAclTable.tableId → Handled mods id (before.flows id) (after.flows id)

theorem inTable_of_pair (listed : mod ∈ dp.createDot1xFlowPair port.number)
    (names : mod.names id = true) : id.tableId = dp.portAclTable.tableId :=
  Fin.ext ((names_iff.mp names).1.symm.trans (Dp.aclMod_pair listed).1.inTable)

theorem inTable_of_mab (names : (dp.createMabFlow port.number).names id = true) :
    id.tableId = dp.portAclTable.tableId :=
  Fin.ext (names_iff.mp names).1.symm

theorem noauth_inPort (listed : mod ∈ dp.noauthFlows port) (names : mod.names id = true) :
    inPort port.number ∈ id.matchFields.items :=
  (names_iff.mp names).2.2 ▸ (Dp.mem_noauthFlows listed).port

/-- A noauth delete reaches flows of the port only. -/
theorem noauth_covers (listed : mod ∈ dp.noauthFlows port)
    (covers : mod.matchFields.covers id.matchFields = true) :
    inPort port.number ∈ id.matchFields.items :=
  Match.mem_of_covers rfl covers (Dp.mem_noauthFlows listed).port

theorem not_reaches_of_add (isAdd : mod.command = .add) : mod.reaches id ≠ true := by
  intro reaches
  rw [FlowMod.reaches, isAdd, Bool.and_false] at reaches
  cases reaches

/-! ## Logins -/

section Login

variable (emitted : dp.getLoginFlowmod port mac aclName = some mods)
include emitted

theorem login_parts : ∃ flows, dp.addAuthenticatedFlowmod port mac aclName = some flows ∧
    mods = (dp.noauthFlows port).map (fun flow =>
      dp.portAclTable.flowdel flow.matchFields flow.priority false) ++ flows := by
  obtain ⟨dels, deleted, emitted⟩ := Option.bind_eq_some_iff.mp emitted
  obtain ⟨flows, added, emitted⟩ := Option.bind_eq_some_iff.mp emitted
  cases emitted
  exact ⟨flows, added, congrArg (· ++ flows) (Dp.delUnauthenticated_eq deleted)⟩

theorem login_adding (adding : Adding mods id) :
    LoginShape dp.portAclTable port.number mac id := by
  obtain ⟨flows, added, rfl⟩ := login_parts emitted
  obtain ⟨mod, member, isAdd, names⟩ := adding
  rcases List.mem_append.mp member with deleted | authenticated
  · obtain ⟨flow, _, rfl⟩ := List.mem_map.mp deleted
    exact absurd isAdd (AclTable.flowdel_command_ne _ _ _ _)
  · exact ((Dp.addAuthenticated_flows added).1 mod authenticated).loginShape names

theorem login_reaches (member : mod ∈ mods) (reaches : mod.reaches id = true) :
    ∃ flow ∈ dp.noauthFlows port, flow.matchFields.covers id.matchFields = true := by
  obtain ⟨flows, added, rfl⟩ := login_parts emitted
  rcases List.mem_append.mp member with deleted | authenticated
  · obtain ⟨flow, listed, rfl⟩ := List.mem_map.mp deleted
    exact ⟨flow, listed, AclTable.covers_of_reaches reaches⟩
  · have isAdd := ((Dp.addAuthenticated_flows added).1 mod authenticated).isAdd
    exact absurd reaches (not_reaches_of_add isAdd)

/-- A login at a port with ACLs adds all that a log-off is meant for. -/
theorem login_adds (removable : dp.Removable port mac id) (byAcl : port.dot1xAcl = true) :
    Adding mods id := by
  obtain ⟨flows, added, rfl⟩ := login_parts emitted
  obtain ⟨flow, listed, names⟩ := removable.byAcl byAcl
  rw [← (Dp.addAuthenticated_flows added).2.1 byAcl] at listed
  have isAdd := ((Dp.addAuthenticated_flows added).1 flow listed).isAdd
  exact ⟨flow, List.mem_append_right _ listed, isAdd, names⟩

/-- What a login adds a log-off removes. -/
theorem login_removable (adding : Adding mods id) : dp.Removable port mac id := by
  have shape := login_adding emitted adding
  obtain ⟨flows, added, rfl⟩ := login_parts emitted
  obtain ⟨mod, member, isAdd, names⟩ := adding
  have listed : mod ∈ flows := by
    rcases List.mem_append.mp member with deleted | authenticated
    · obtain ⟨flow, _, rfl⟩ := List.mem_map.mp deleted
      exact absurd isAdd (AclTable.flowdel_command_ne _ _ _ _)
    · exact authenticated
  obtain ⟨_, byAcl, plain⟩ := Dp.addAuthenticated_flows added
  exact ⟨shape, fun acl => ⟨mod, byAcl acl ▸ listed, names⟩,
    fun notAcl notDyn => ⟨mod, plain notAcl notDyn ▸ listed, names⟩⟩

theorem login_free_of_not_acl (notAcl : port.dot1xAcl = false) :
    ∀ mod ∈ mods, mod.reaches id = false := by
  intro mod member
  rw [Bool.eq_false_iff]
  intro reaches
  obtain ⟨flow, listed, _⟩ := login_reaches emitted member reaches
  rw [Dp.noauthFlows, Dp.addUnauthenticatedFlowmod, notAcl] at listed
  cases listed

end Login

/-- The step of a login. -/
structure LoginStep (dp : Dp) (state next : State) (mods : List FlowMod) (port : Port) (mac : Mac) :
    Prop where
  member : port ∈ dp.ports
  handled : AllHandled dp mods state.switch next.switch
  spared : ∀ mod ∈ dp.noauthFlows port, ∀ id, state.switch.flows id ≠ none →
    Protected dp state port mac id → mod.matchFields.covers id.matchFields = false
  up : next.up = state.up
  own : ∀ id, next.session port.number mac id =
    if mods.any fun mod => mod.command = .add ∧ mod.names id then next.switch.flows id
    else state.session port.number mac id
  others : ∀ portNum host, ¬ (portNum = port.number ∧ host = mac) →
    next.session portNum host = state.session portNum host

namespace LoginStep

variable (step : LoginStep dp state next mods port mac) (tracked : Tracked dp state)
  (emitted : dp.getLoginFlowmod port mac aclName = some mods)

include step

theorem own_adding (adding : Adding mods id) :
    next.session port.number mac id = next.switch.flows id := by
  obtain ⟨mod, member, isAdd, names⟩ := adding
  rw [step.own, if_pos]
  exact List.any_eq_true.mpr ⟨mod, member, by simp [isAdd, names]⟩

theorem own_not_adding (notAdding : ¬ Adding mods id) :
    next.session port.number mac id = state.session port.number mac id := by
  rw [step.own, if_neg]
  intro added
  obtain ⟨mod, member, both⟩ := List.any_eq_true.mp added
  exact notAdding ⟨mod, member, of_decide_eq_true both⟩

include emitted

/-- A protected flow that is not a login flow of the host stays. -/
theorem stays (inTable : id.tableId = dp.portAclTable.tableId)
    (installed : state.switch.flows id = some entry) (notAdding : ¬ Adding mods id)
    (protects : inPort port.number ∈ id.matchFields.items → Protected dp state port mac id) :
    next.switch.flows id = some entry := by
  rw [(step.handled id inTable).kept notAdding, installed]
  intro mod member
  rw [Bool.eq_false_iff]
  intro reaches
  obtain ⟨flow, listed, covers⟩ := login_reaches emitted member reaches
  have free := step.spared flow listed id (by rw [installed]; simp)
    (protects (noauth_covers listed covers))
  cases free.symm.trans covers

include tracked

theorem pair (member' : other ∈ dp.ports) (running : Running state other)
    (listed : mod ∈ dp.createDot1xFlowPair other.number) : Installs next.switch mod := by
  intro id names
  refine step.stays emitted (inTable_of_pair listed names)
    (tracked.pair other member' running mod listed id names) ?_ ?_
  · intro adding
    have shape := login_adding emitted adding
    exact (pair_of_inPort step.member listed names shape.port).2 mac shape.source
  · intro present
    have same := (pair_of_inPort step.member listed names present).1
    exact .inl ⟨mod, same ▸ listed, names⟩

theorem mab (member' : other ∈ dp.ports) (running : Running state other)
    (bypass : other.dot1xMab = true) : Installs next.switch (dp.createMabFlow other.number) := by
  intro id names
  refine step.stays emitted (inTable_of_mab names)
    (tracked.mab other member' running bypass id names) ?_ ?_
  · intro adding
    exact (mab_shape names).2 mac (login_adding emitted adding).source
  · intro present
    have same := dp.port_eq member' step.member (inPort_unique (mab_shape names).1 present)
    exact .inr (.inl (same ▸ ⟨bypass, names⟩))

theorem otherSessions {portNum : PortNo} (apart : ¬ (portNum = port.number ∧ host = mac))
    (logged : state.session portNum host id = some entry) :
    next.switch.flows id = some entry := by
  obtain ⟨owner, member', same, removable⟩ := tracked.shapes portNum host id (by rw [logged]; simp)
  subst same
  have shape := removable.shape
  refine step.stays emitted shape.inTable (tracked.sessions _ _ _ _ logged) ?_ ?_
  · intro adding
    have shape' := login_adding emitted adding
    exact apart ⟨inPort_unique shape.port shape'.port, ethSrc_unique shape.source shape'.source⟩
  · intro present
    have samePort := inPort_unique shape.port present
    refine .inr (.inr ⟨host, fun sameHost => apart ⟨samePort, sameHost⟩, ?_⟩)
    rw [← samePort, logged]
    simp

theorem ownSession (logged : next.session port.number mac id = some entry) :
    next.switch.flows id = some entry := by
  by_cases adding : Adding mods id
  · rwa [step.own_adding adding] at logged
  · rw [step.own_not_adding adding] at logged
    have removable := tracked.removable step.member (by rw [logged]; simp)
    cases byAcl : port.dot1xAcl with
    | true => exact absurd (login_adds emitted removable byAcl) adding
    | false =>
        rw [(step.handled id removable.shape.inTable).kept adding
          (login_free_of_not_acl emitted byAcl)]
        exact tracked.sessions _ _ _ _ logged

theorem known (member' : other ∈ dp.ports) (inTable : id.tableId = dp.portAclTable.tableId)
    (present : inPort other.number ∈ id.matchFields.items)
    (installed : next.switch.flows id = some entry) : Known dp next other id entry := by
  by_cases adding : Adding mods id
  · have same := inPort_unique (login_adding emitted adding).port present
    refine .inr (.inr (.inr ⟨mac, ?_⟩))
    rw [← same, step.own_adding adding, installed]
  · have before := (step.handled id inTable).earlier adding installed
    rcases tracked.known other member' id entry inTable present before with
      pair | names | noauth | ⟨host, logged⟩
    · exact .inl pair
    · exact .inr (.inl names)
    · exact .inr (.inr (.inl noauth))
    · refine .inr (.inr (.inr ⟨host, ?_⟩))
      by_cases apart : other.number = port.number ∧ host = mac
      · obtain ⟨samePort, sameHost⟩ := apart
        rw [samePort, sameHost] at logged ⊢
        rw [step.own_not_adding adding, logged]
      · rw [step.others _ _ apart, logged]

theorem tracked_next : Tracked dp next where
  pair := fun _ member' running _ =>
    step.pair tracked emitted member' (by rwa [Running, step.up] at running)
  mab := fun _ member' running =>
    step.mab tracked emitted member' (by rwa [Running, step.up] at running)
  sessions := fun portNum host id entry logged => by
    by_cases apart : portNum = port.number ∧ host = mac
    · obtain ⟨samePort, sameHost⟩ := apart
      rw [samePort, sameHost] at logged
      exact step.ownSession tracked emitted logged
    · rw [step.others _ _ apart] at logged
      exact step.otherSessions tracked emitted apart logged
  known := fun _ member' _ _ => step.known tracked emitted member'
  shapes := fun portNum host id logged => by
    by_cases apart : portNum = port.number ∧ host = mac
    · obtain ⟨samePort, sameHost⟩ := apart
      refine ⟨port, step.member, samePort.symm, ?_⟩
      by_cases adding : Adding mods id
      · exact sameHost ▸ login_removable emitted adding
      · rw [samePort, sameHost, step.own_not_adding adding] at logged
        exact sameHost ▸ tracked.removable step.member logged
    · rw [step.others _ _ apart] at logged
      exact tracked.shapes portNum host id logged

/-- A login changes login flows of the host and noauth flows of the port. -/
theorem changes (inTable : id.tableId = dp.portAclTable.tableId)
    (changed : next.switch.flows id ≠ state.switch.flows id) :
    LoginShape dp.portAclTable port.number mac id ∨
      ∃ mod ∈ dp.noauthFlows port, mod.names id = true := by
  by_cases adding : Adding mods id
  · exact .inl (login_adding emitted adding)
  cases before : state.switch.flows id with
  | none =>
      rcases (step.handled id inTable).older adding with same | gone
      · exact absurd same changed
      · exact absurd (gone.trans before.symm) changed
  | some entry =>
      by_cases present : inPort port.number ∈ id.matchFields.items
      · rcases tracked.known port step.member id entry inTable present before with
          pair | names | ⟨flow, listed, names, _⟩ | ⟨host, logged⟩
        · exact absurd ((step.stays emitted inTable before adding
            fun _ => .inl pair).trans before.symm) changed
        · exact absurd ((step.stays emitted inTable before adding
            fun _ => .inr (.inl names)).trans before.symm) changed
        · exact .inr ⟨flow, listed, names⟩
        · by_cases same : host = mac
          · exact .inl (same ▸ (tracked.removable step.member (by rw [logged]; simp)).shape)
          · exact absurd ((step.stays emitted inTable before adding
              fun _ => .inr (.inr ⟨host, same, by rw [logged]; simp⟩)).trans before.symm) changed
      · exact absurd ((step.stays emitted inTable before adding
          fun here => absurd here present).trans before.symm) changed

theorem onlyOwn : OnlyOwn dp state next port mac where
  changes := fun _ => step.changes tracked emitted
  pair := fun _ member' running _ => step.pair tracked emitted member' running
  mab := fun _ => step.mab tracked emitted
  sessions := fun _ _ apart _ _ => step.otherSessions tracked emitted apart

end LoginStep

/-! ## Log-offs and failures -/

section Logoff

variable (emitted : dp.getLogoffFlowmod port mac = some mods)
include emitted

theorem logoff_parts : ∃ dels, dp.delAuthenticatedFlowmod port mac = some dels ∧
    mods = dels ++ dp.noauthFlows port := by
  obtain ⟨dels, deleted, emitted⟩ := Option.bind_eq_some_iff.mp emitted
  obtain ⟨flows, added, emitted⟩ := Option.bind_eq_some_iff.mp emitted
  cases emitted
  exact ⟨dels, deleted, congrArg (dels ++ ·) (Dp.addUnauthenticated_eq added)⟩

theorem logoff_adds (member : mod ∈ mods) (isAdd : mod.command = .add) :
    mod ∈ dp.noauthFlows port := by
  obtain ⟨dels, deleted, rfl⟩ := logoff_parts emitted
  rcases List.mem_append.mp member with removed | noauth
  · obtain ⟨_, _, strict, rfl, _⟩ := Dp.mem_delAuthenticated deleted removed
    exact absurd isAdd (AclTable.flowdel_command_ne _ _ _ _)
  · exact noauth

theorem logoff_reaches (member : mod ∈ mods) (reaches : mod.reaches id = true) :
    inPort port.number ∈ id.matchFields.items ∧ ethSrc mac ∈ id.matchFields.items := by
  obtain ⟨dels, deleted, rfl⟩ := logoff_parts emitted
  rcases List.mem_append.mp member with removed | noauth
  · obtain ⟨_, _, strict, rfl, present, source⟩ := Dp.mem_delAuthenticated deleted removed
    have covers := AclTable.covers_of_reaches reaches
    exact ⟨Match.mem_of_covers rfl covers present, Match.mem_of_covers rfl covers source⟩
  · exact absurd reaches (not_reaches_of_add (Dp.mem_noauthFlows noauth).isAdd)

/-- The flows of the host go, unless a noauth flow takes the place of one. -/
theorem logoff_removes {before after : Option FlowEntry} (handled : Handled mods id before after)
    (removable : dp.Removable port mac id) (notAdding : ¬ Adding mods id) : after = none := by
  have adds : ∀ other ∈ mods, other.command = .add → other ∈ dp.noauthFlows port :=
    fun other => logoff_adds emitted
  obtain ⟨dels, deleted, rfl⟩ := logoff_parts emitted
  obtain ⟨del, member, reaches, _, exact⟩ := Dp.exists_delAuthenticated deleted removable
  refine handled.removed notAdding del (List.mem_append_left _ member) reaches ?_
  intro other listed isAdd sameFields samePriority
  have noauth := adds other listed isAdd
  cases byAcl : port.dot1xAcl with
  | true =>
      obtain ⟨fields, priority⟩ := exact byAcl
      refine notAdding ⟨other, listed, isAdd, names_iff.mpr ⟨?_, ?_, ?_⟩⟩
      · rw [(Dp.mem_noauthFlows noauth).inTable, removable.shape.inTable]
      · exact samePriority.trans priority
      · exact sameFields.trans fields
  | false =>
      rw [Dp.noauthFlows, Dp.addUnauthenticatedFlowmod, byAcl] at noauth
      cases noauth

end Logoff

/-- The step of a log-off or a failure. -/
structure LogoffStep (dp : Dp) (state next : State) (mods : List FlowMod) (port : Port) (mac : Mac) :
    Prop where
  member : port ∈ dp.ports
  handled : AllHandled dp mods state.switch next.switch
  spared : ∀ mod ∈ dp.noauthFlows port, ∀ id entry, mod.names id = true →
    state.switch.flows id = some entry → Protected dp state port mac id → mod.entry = entry
  up : next.up = state.up
  own : ∀ id, next.session port.number mac id = none
  others : ∀ portNum host, ¬ (portNum = port.number ∧ host = mac) →
    next.session portNum host = state.session portNum host

namespace LogoffStep

variable (step : LogoffStep dp state next mods port mac) (tracked : Tracked dp state)
  (emitted : dp.getLogoffFlowmod port mac = some mods)

include step emitted

/-- A protected flow that is not a flow of the host stays. -/
theorem stays (inTable : id.tableId = dp.portAclTable.tableId)
    (installed : state.switch.flows id = some entry)
    (protects : inPort port.number ∈ id.matchFields.items →
      ethSrc mac ∉ id.matchFields.items ∧ Protected dp state port mac id) :
    next.switch.flows id = some entry := by
  refine (step.handled id inTable).stays installed ?_ ?_
  · intro mod member isAdd names
    have noauth := logoff_adds emitted member isAdd
    exact step.spared mod noauth id entry names installed (protects (noauth_inPort noauth names)).2
  · intro mod member
    rw [Bool.eq_false_iff]
    intro reaches
    obtain ⟨present, source⟩ := logoff_reaches emitted member reaches
    exact (protects present).1 source

include tracked

theorem pair (member' : other ∈ dp.ports) (running : Running state other)
    (listed : mod ∈ dp.createDot1xFlowPair other.number) : Installs next.switch mod := by
  intro id names
  refine step.stays emitted (inTable_of_pair listed names)
    (tracked.pair other member' running mod listed id names) ?_
  intro present
  obtain ⟨same, free⟩ := pair_of_inPort step.member listed names present
  exact ⟨free mac, .inl ⟨mod, same ▸ listed, names⟩⟩

theorem mab (member' : other ∈ dp.ports) (running : Running state other)
    (bypass : other.dot1xMab = true) : Installs next.switch (dp.createMabFlow other.number) := by
  intro id names
  refine step.stays emitted (inTable_of_mab names)
    (tracked.mab other member' running bypass id names) ?_
  intro present
  have same := dp.port_eq member' step.member (inPort_unique (mab_shape names).1 present)
  exact ⟨(mab_shape names).2 mac, .inr (.inl (same ▸ ⟨bypass, names⟩))⟩

theorem otherSessions {portNum : PortNo} (apart : ¬ (portNum = port.number ∧ host = mac))
    (logged : state.session portNum host id = some entry) :
    next.switch.flows id = some entry := by
  obtain ⟨owner, member', same, removable⟩ := tracked.shapes portNum host id (by rw [logged]; simp)
  subst same
  have shape := removable.shape
  refine step.stays emitted shape.inTable (tracked.sessions _ _ _ _ logged) ?_
  intro present
  have samePort := inPort_unique shape.port present
  have otherHost : host ≠ mac := fun sameHost => apart ⟨samePort, sameHost⟩
  refine ⟨fun source => otherHost (ethSrc_unique shape.source source), .inr (.inr ⟨host, otherHost, ?_⟩)⟩
  rw [← samePort, logged]
  simp

theorem known (member' : other ∈ dp.ports) (inTable : id.tableId = dp.portAclTable.tableId)
    (present : inPort other.number ∈ id.matchFields.items)
    (installed : next.switch.flows id = some entry) : Known dp next other id entry := by
  have handled := step.handled id inTable
  by_cases adding : Adding mods id
  · obtain ⟨mod, listed, isAdd, names, after⟩ := handled.added adding
    have noauth := logoff_adds emitted listed isAdd
    have same := dp.port_eq step.member member'
      (inPort_unique (noauth_inPort noauth names) present)
    exact .inr (.inr (.inl ⟨mod, same ▸ noauth, names, Option.some.inj (after.symm.trans installed)⟩))
  · rcases tracked.known other member' id entry inTable present
        (handled.earlier adding installed) with pair | names | noauth | ⟨host, logged⟩
    · exact .inl pair
    · exact .inr (.inl names)
    · exact .inr (.inr (.inl noauth))
    · refine .inr (.inr (.inr ⟨host, ?_⟩))
      by_cases apart : other.number = port.number ∧ host = mac
      · -- the deletes are meant for the flows of the host
        obtain ⟨samePort, sameHost⟩ := apart
        rw [samePort, sameHost] at logged
        have removable := tracked.removable step.member (by rw [logged]; simp)
        cases (logoff_removes emitted handled removable adding).symm.trans installed
      · rw [step.others _ _ apart, logged]

theorem tracked_next : Tracked dp next where
  pair := fun _ member' running _ =>
    step.pair tracked emitted member' (by rwa [Running, step.up] at running)
  mab := fun _ member' running =>
    step.mab tracked emitted member' (by rwa [Running, step.up] at running)
  sessions := fun portNum host id entry logged => by
    by_cases apart : portNum = port.number ∧ host = mac
    · rw [apart.1, apart.2, step.own] at logged
      cases logged
    · rw [step.others _ _ apart] at logged
      exact step.otherSessions tracked emitted apart logged
  known := fun _ member' _ _ => step.known tracked emitted member'
  shapes := fun portNum host id logged => by
    by_cases apart : portNum = port.number ∧ host = mac
    · rw [apart.1, apart.2] at logged
      exact absurd (step.own id) logged
    · rw [step.others _ _ apart] at logged
      exact tracked.shapes portNum host id logged

theorem onlyOwn : OnlyOwn dp state next port mac where
  changes := fun id inTable changed => by
    by_cases adding : Adding mods id
    · obtain ⟨mod, listed, isAdd, names⟩ := adding
      exact .inr ⟨mod, logoff_adds emitted listed isAdd, names⟩
    · by_contra neither
      refine changed ((step.handled id inTable).kept adding fun mod listed => ?_)
      rw [Bool.eq_false_iff]
      intro reaches
      obtain ⟨present, source⟩ := logoff_reaches emitted listed reaches
      exact neither (.inl ⟨inTable, present, source⟩)
  pair := fun _ member' running _ => step.pair tracked emitted member' running
  mab := fun _ => step.mab tracked emitted
  sessions := fun _ _ apart _ _ => step.otherSessions tracked emitted apart

end LogoffStep

end Faucet.Dot1x
