import Faucet.Dot1x.Ports

/-!
# Runs of 802.1x hosts and ports

Every step keeps the flows tracked when it is allowed, so hosts are isolated over whole
runs (`isolated_of_allowed`). They are not when a noauth rule matches all packets of its
port: the first login takes the EAPOL redirect with it (`not_isolated_of_wide`).
-/

set_option autoImplicit false

namespace Faucet.Dot1x

open OpenFlow TransitionSystem

variable {dp : Dp} {state next start : State} {event : Event dp} {mods : List FlowMod}
  {port : Port} {mac : Mac}

/-- What a step is made of. -/
theorem step_parts (taken : dp.step state event = some next) :
    (∀ port, event.signal.port = some port → port ∈ dp.ports) ∧
      ∃ mods, dp.messages state event.signal = some mods ∧
        AllHandled dp mods state.switch next.switch ∧ next.up = Dp.upAfter state.up event.signal ∧
        next.session = Dp.sessionAfter state mods next.switch event.signal := by
  rw [Dp.step] at taken
  obtain ⟨_, allowed, taken⟩ := Option.bind_eq_some_iff.mp taken
  obtain ⟨mods, emitted, taken⟩ := Option.bind_eq_some_iff.mp taken
  obtain ⟨switch, sends, taken⟩ := Option.bind_eq_some_iff.mp taken
  cases taken
  refine ⟨?_, mods, emitted, fun id inTable => ?_, rfl, rfl⟩
  · by_contra refused
    rw [guard, if_neg refused] at allowed
    cases allowed
  · exact handled_of_send (fun mod => Dp.aclMod_messages emitted) sends inTable

/-- What a step that is about a host does, besides. -/
def HostStep (dp : Dp) (state next : State) (signal : Signal) : Prop :=
  ∀ port mac, signal.host = some (port, mac) → OnlyOwn dp state next port mac

/-- **An allowed step** keeps the flows tracked, and is about the host it is for. -/
theorem step_tracked (tracked : Tracked dp state) (allowed : Allowed dp state event)
    (taken : dp.step state event = some next) :
    Tracked dp next ∧ HostStep dp state next event.signal := by
  obtain ⟨ports, mods, emitted, handled, up, session⟩ := step_parts taken
  rw [Allowed] at allowed
  cases signal : event.signal with
  | portUp port =>
      simp only [signal] at allowed emitted up session ports
      refine ⟨?_, fun _ _ isHost => by cases isHost⟩
      have member := ports port rfl
      have others : ∀ portNum, portNum ≠ port.number → next.up portNum = state.up portNum := by
        intro portNum apart
        rw [up, Dp.upAfter, Function.update_of_ne apart]
      rw [Dp.messages] at emitted
      split at emitted
      next isUp =>
        cases emitted
        refine tracked.of_quiet handled (fun other _ running => ⟨running.1, ?_⟩) fun _ _ _ => by
          rw [session]
          rfl
        by_cases same : other.number = port.number
        · exact same ▸ isUp
        · exact (others _ same) ▸ running.2
      next isDown =>
        cases enabled : port.enabled with
        | true =>
            exact PortUpStep.tracked_next
              ⟨member, enabled, handled, allowed (Bool.eq_false_iff.mpr isDown) enabled, others,
                session⟩ tracked emitted
        | false =>
            rw [Dp.portUp, enabled, if_neg Bool.false_ne_true] at emitted
            cases emitted
            refine tracked.of_quiet handled (fun other member' running => ⟨running.1, ?_⟩)
              fun _ _ _ => by
                rw [session]
                rfl
            by_cases same : other.number = port.number
            · have isEnabled := running.1
              rw [dp.port_eq member' member same, enabled] at isEnabled
              cases isEnabled
            · exact (others _ same) ▸ running.2
  | portDown port =>
      simp only [signal] at allowed emitted up session ports
      refine ⟨?_, fun _ _ isHost => by cases isHost⟩
      have others : ∀ portNum, portNum ≠ port.number → next.up portNum = state.up portNum := by
        intro portNum apart
        rw [up, Dp.upAfter, Function.update_of_ne apart]
      have down : next.up port.number = false := by rw [up, Dp.upAfter, Function.update_self]
      rw [Dp.messages] at emitted
      split at emitted
      next isUp =>
        refine PortDownStep.tracked_next ⟨ports port rfl, handled, allowed isUp, down, others,
          fun mac id => ?_, fun portNum apart => ?_⟩ tracked emitted
        · simp [session, Dp.sessionAfter, isUp]
        · funext mac
          simp [session, Dp.sessionAfter, apart]
      next isDown =>
        cases emitted
        refine tracked.of_quiet handled (fun other _ running => ⟨running.1, ?_⟩) fun portNum _ _ => ?_
        · by_cases same : other.number = port.number
          · have isUp := running.2
            rw [same, down] at isUp
            cases isUp
          · exact (others _ same) ▸ running.2
        · rw [session, Dp.sessionAfter, if_neg]
          intro both
          exact isDown (both.1 ▸ both.2)
  | nfvSwPortUp =>
      simp only [signal] at emitted up session
      cases emitted
      exact ⟨tracked.nfvSwPortUp handled up session, fun _ _ isHost => by cases isHost⟩
  | login port mac aclName =>
      simp only [signal] at allowed emitted up session ports
      have step : LoginStep dp state next mods port mac := by
        refine ⟨ports port rfl, handled, allowed, up, fun id => ?_, fun portNum host apart => ?_⟩
        · rw [session, Dp.sessionAfter, if_pos ⟨rfl, rfl⟩]
        · rw [session, Dp.sessionAfter, if_neg apart]
      refine ⟨step.tracked_next tracked emitted, fun port' mac' isHost => ?_⟩
      cases isHost
      exact step.onlyOwn tracked emitted
  | logoff port mac | failure port mac =>
      simp only [signal] at allowed emitted up session ports
      have step : LogoffStep dp state next mods port mac := by
        refine ⟨ports port rfl, handled, allowed, up, fun id => ?_, fun portNum host apart => ?_⟩
        · rw [session, Dp.sessionAfter, if_pos ⟨rfl, rfl⟩]
        · rw [session, Dp.sessionAfter, if_neg apart]
      refine ⟨step.tracked_next tracked emitted, fun port' mac' isHost => ?_⟩
      cases isHost
      exact step.onlyOwn tracked emitted

theorem tracked_of_reaches (fresh : Fresh dp start)
    (reaches : Reaches dp.step (Allowed dp) start state) : Tracked dp state :=
  reaches.invariant (Tracked dp) fresh.tracked fun tracked allowed taken =>
    (step_tracked tracked allowed taken).1

/-- **Isolation of 802.1x hosts**: along every run of allowed steps the hosts that are
logged in, and no others, have login flows, and a step about a host leaves the redirects
and the flows of other hosts alone. -/
theorem isolated_of_allowed (fresh : Fresh dp start)
    (reaches : Reaches dp.step (Allowed dp) start state) :
    Isolated dp state ∧ ∀ event next, Allowed dp state event → dp.step state event = some next →
      ∀ port mac, event.signal.host = some (port, mac) → OnlyOwn dp state next port mac := by
  have tracked := tracked_of_reaches fresh reaches
  exact ⟨tracked.isolated, fun event next allowed taken => (step_tracked tracked allowed taken).2⟩

/-! ## A port with one auth and one noauth rule -/

/-- A step with messages is taken. -/
theorem exists_step (state : State) (event : Event dp)
    (ports : ∀ port, event.signal.port = some port → port ∈ dp.ports)
    (emitted : dp.messages state event.signal = some mods) :
    ∃ next, dp.step state event = some next := by
  have byTable : ByTable dp.portAclTable.tableId
      (mods.map .flowMod ++ event.elsewhere.map Subtype.val) :=
    byTable_input fun _ => Dp.aclMod_messages emitted
  obtain ⟨switch, sends⟩ := byTable.exists_send
  rw [Dp.step, emitted, guard, if_pos ports]
  exact ⟨_, Option.bind_eq_some_iff.mpr ⟨(), rfl, Option.bind_eq_some_iff.mpr ⟨mods, rfl,
    Option.bind_eq_some_iff.mpr ⟨switch, sends, rfl⟩⟩⟩⟩

/-- Port 1 with ACLs for hosts that are logged in and for those that are not. -/
def labPort : Port :=
  ⟨1, true, false, false, false, false, true, nofun⟩

/-- Hosts that are logged in may send, and of others the noauth rule drops these packets. -/
def labDp (noauth : Match) : Dp where
  valveIndex := 0
  portAclTable := ⟨0, 0⟩
  acceptToVlan := [.gotoTable 1]
  acls :=
    [("auth_acl", ⟨[⟨.any, [.gotoTable 1], none, [], true⟩], false, nofun⟩),
      ("noauth_acl", ⟨[⟨noauth, [], none, [], true⟩], false, nofun⟩)]
  authAclName := some "auth_acl"
  noauthAclName := some "noauth_acl"
  nfvSwPort := 2
  ports := [labPort]
  useBarriers := true
  encodes := fun _ => true
  distinct := List.nodup_singleton _
  nfvApart := fun _ member => by cases List.mem_singleton.mp member; decide

/-- No flows, no port up and no host logged in. -/
def labStart : State := ⟨⟨fun _ => none, fun _ => none, fun _ => none⟩, fun _ => false,
  fun _ _ _ => none⟩

theorem fresh_lab (noauth : Match) : Fresh (labDp noauth) labStart where
  down := fun _ _ => rfl
  noSession := fun _ _ _ => rfl
  noFlow := fun _ _ _ _ _ => rfl

/-- A signal whose messages come alone. -/
def labEvent (noauth : Match) (signal : Signal) : Event (labDp noauth) :=
  ⟨signal, [], ⟨id, Shuffle.perm_id⟩⟩

theorem member_lab (noauth : Match) (signal : Signal)
    (here : signal.port = some labPort) (port : Port) (named : signal.port = some port) :
    port ∈ (labDp noauth).ports := by
  cases here.symm.trans named
  exact List.mem_singleton_self _

/-- The port comes up. -/
theorem up_lab (noauth : Match) : ∃ state,
    (labDp noauth).step labStart (labEvent noauth (.portUp labPort)) = some state ∧
      Allowed (labDp noauth) labStart (labEvent noauth (.portUp labPort)) ∧
      Running state labPort ∧ ∀ portNum mac id, state.session portNum mac id = none := by
  obtain ⟨state, taken⟩ := exists_step labStart (labEvent noauth (.portUp labPort))
    (member_lab noauth _ rfl) rfl
  obtain ⟨_, _, _, _, up, session⟩ := step_parts taken
  refine ⟨state, taken, fun _ _ _ _ _ _ _ _ logged => (by cases logged), ⟨rfl, ?_⟩, ?_⟩
  · rw [up]
    rfl
  · rw [session]
    exact fun _ _ _ => rfl

theorem noauthFlows_lab (noauth : Match) : (labDp noauth).noauthFlows labPort =
    [(labDp noauth).portAclTable.flowmod (noauth.set (inPort 1)) authPriority [] none] := rfl

/-- The flow of the auth rule for a host on the port. -/
def labLogin (mac : Mac) : FlowMod :=
  (labDp .any).portAclTable.flowmod (.ofFields [inPort 1, ethSrc mac]) authPriority [.gotoTable 1] none

/-- A host logs in on the port; the other hosts keep their flows. -/
theorem login_lab (noauth : Match) (state : State) (mac : Mac)
    (stranger : ∀ id, state.session 1 mac id = none) : ∃ next,
    (labDp noauth).step state (labEvent noauth (.login labPort mac none)) = some next ∧
      (∀ id, next.session 1 mac id ≠ none ↔ (labLogin mac).names id = true) ∧
      ∀ host, host ≠ mac → next.session 1 host = state.session 1 host := by
  have emitted : (labDp noauth).messages state (.login labPort mac none) =
      some [(labDp noauth).portAclTable.flowdel (noauth.set (inPort 1)) authPriority false,
        labLogin mac] := rfl
  obtain ⟨next, taken⟩ := exists_step state (labEvent noauth (.login labPort mac none))
    (member_lab _ _ rfl) emitted
  obtain ⟨_, mods, sent, handled, _, sessions⟩ := step_parts taken
  have session : next.session = Dp.sessionAfter state mods next.switch (.login labPort mac none) :=
    sessions
  cases emitted.symm.trans sent
  refine ⟨next, taken, fun id => ?_, fun host apart => ?_⟩
  · have own : next.session 1 mac id =
        if (labLogin mac).names id then next.switch.flows id else none := by
      have isAdd : (labLogin mac).command = .add := rfl
      rw [session, Dp.sessionAfter, if_pos ⟨rfl, rfl⟩, stranger]
      simp [AclTable.flowdel_command_ne, isAdd]
    constructor
    · intro logged
      by_contra other
      exact logged (own.trans (if_neg other))
    · intro names
      have inTable : id.tableId = (labDp noauth).portAclTable.tableId :=
        Fin.ext (names_iff.mp names).1.symm
      obtain ⟨_, _, _, _, after⟩ := (handled id inTable).added ⟨labLogin mac, by simp, rfl, names⟩
      rw [own, if_pos names, after]
      simp
  · rw [session, Dp.sessionAfter, if_neg fun same => apart same.2]

/-- With a noauth rule for ARP alone a second host may log in: the first one keeps its
flows. -/
theorem isolated_of_allowed_lab : ∃ state next,
    (labDp (.single (ethType 0x0806))).step state (labEvent _ (.login labPort 5 none)) = some next ∧
      (∃ id, state.session 1 6 id ≠ none) ∧
      Isolated (labDp (.single (ethType 0x0806))) state ∧
      OnlyOwn (labDp (.single (ethType 0x0806))) state next labPort 5 := by
  obtain ⟨up, upTaken, allowedUp, _, noSession⟩ := up_lab (.single (ethType 0x0806))
  obtain ⟨state, firstTaken, first, others⟩ := login_lab (.single (ethType 0x0806)) up 6 (noSession 1 6)
  obtain ⟨next, taken, _⟩ := login_lab (.single (ethType 0x0806)) state 5 fun id => by
    rw [others 5 (by decide)]
    exact noSession 1 5 id
  -- the noauth rule asks for a type of frames that no protected flow fixes to ARP
  have allowed : ∀ (before : State) (mac : Mac),
      (∀ host id, host ≠ mac → before.session 1 host id ≠ none → (labLogin 6).names id = true) →
      Allowed (labDp (.single (ethType 0x0806))) before (labEvent _ (.login labPort mac none)) := by
    intro before mac logins mod listed id _ isProtected
    rw [noauthFlows_lab] at listed
    cases List.mem_singleton.mp listed
    rcases isProtected with ⟨redirect, pair, names⟩ | ⟨bypass, _⟩ | ⟨host, apart, logged⟩
    · rw [← (names_iff.mp names).2.2]
      rcases List.mem_pair.mp pair with same | same <;> subst same <;> decide
    · cases bypass
    · rw [← (names_iff.mp (logins host id apart logged)).2.2]
      decide
  have allowedFirst := allowed up 6 fun host id _ logged => absurd (noSession 1 host id) logged
  have allowedNext := allowed state 5 fun host id _ logged => by
    by_cases same : host = 6
    · exact (first id).mp (same ▸ logged)
    · rw [others host same] at logged
      exact absurd (noSession 1 host id) logged
  obtain ⟨isolated, hosts⟩ := isolated_of_allowed (fresh_lab _)
    ((Reaches.single allowedUp upTaken).tail allowedFirst firstTaken)
  refine ⟨state, next, taken, ⟨⟨0, authPriority, .ofFields [inPort 1, ethSrc 6]⟩, ?_⟩, isolated,
    hosts _ next allowedNext taken labPort 5 rfl⟩
  exact (first _).mpr (by decide)

/-- With a noauth rule for all packets the first login takes the EAPOL redirect of its
port with it. -/
theorem not_isolated_of_wide : ¬ ∀ (dp : Dp) (start state : State), Fresh dp start →
    Reaches dp.step anyStep start state →
    Isolated dp state ∧ ∀ event next, dp.step state event = some next →
      ∀ port mac, event.signal.host = some (port, mac) → OnlyOwn dp state next port mac := by
  intro always
  obtain ⟨state, up, _, running, _⟩ := up_lab .any
  obtain ⟨next, taken⟩ := exists_step state (labEvent .any (.login labPort 5 none))
    (member_lab _ _ rfl) rfl
  obtain ⟨_, hosts⟩ := always (labDp .any) labStart state (fresh_lab _) (.single trivial up)
  let redirect : FlowId := ⟨0, overridePriority, Dp.eapolMatch 1⟩
  have installs := (hosts _ next taken labPort 5 rfl).pair labPort (List.mem_singleton_self _)
    running _ List.mem_cons_self redirect (by decide)
  obtain ⟨_, mods, emitted, handled, _⟩ := step_parts taken
  have free : ∀ host, ethSrc host ∉ (Dp.eapolMatch labPort.number).items := Dp.mem_eapol.2
  have notAdding : ¬ Adding mods redirect := fun adding =>
    free 5 (login_adding emitted adding).source
  cases emitted
  have gone := (handled redirect rfl).removed notAdding _ List.mem_cons_self (by decide) (by decide)
  cases gone.symm.trans installs

end Faucet.Dot1x
