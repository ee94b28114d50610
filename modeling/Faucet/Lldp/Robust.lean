import Faucet.Library.TransitionSystem
import Faucet.Lldp.LinkState

/-!
# When LLDP reception does not fail

A packet that tells a new state of the link is logged with the port at the other end and
the name of the state. The log line fails when the packet has no port number or a number
that is not a state. That is the only exception (`robust_iff_describable`), and a stack
port comes up only after a probe from its configured peer.
-/

set_option autoImplicit false

namespace Faucet.Lldp

open TransitionSystem

variable {ι σ : Type} [DecidableEq ι] {conf : ValveConf ι} {around : Surroundings ι σ}
  {valve next : Valve ι σ} {input : Input ι}

/-! ## What the claims are about -/

/-- What a probe is to a port, if it is a stack port. -/
def probeInfo (conf : ValveConf ι) (now : ℚ) (remote : Remote) (port : ι) : Option ProbeInfo :=
  (conf.port port).stack.map fun peer => ⟨now, remote.isPeer peer, remote⟩

/-- A packet is a probe when it tells a datapath and a port. -/
def probeOf (conf : ValveConf ι) (port : ι) : Input ι → Option ProbeInfo
  | .packet now ethType port' lldpPkt =>
      if ethType = ethTypeLldp ∧ port' = port then do
        let remote ← parseFaucetLldp (← lldpPkt) conf.faucetDpMac
        if truthy remote.dpId && truthy remote.portId then probeInfo conf now remote port else none
      else none
  | .expire _ => none

/-- The most recent probe of the port. -/
def lastProbe (conf : ValveConf ι) (inputs : List (Input ι)) (port : ι) : Option ProbeInfo :=
  (inputs.filterMap (probeOf conf port)).getLast?

/-- Nothing raises, and a port enters the up state only if its most recent probe was from
its configured peer. -/
structure Robust (conf : ValveConf ι) (around : Surroundings ι σ) (start : Valve ι σ)
    (inputs : List (Input ι)) : Prop where
  returns : ∀ done, done <+: inputs → ∃ valve, exec (step conf around) start done = some valve
  entersUp : ∀ done input before after, done ++ [input] <+: inputs →
    exec (step conf around) start done = some before → step conf around before input = some after →
    ∀ port, (before.port port).stackState ≠ .up → (after.port port).stackState = .up →
      ∃ peer probe, (conf.port port).stack = some peer ∧
        lastProbe conf (done ++ [input]) port = some probe ∧ probe.remote.isPeer peer = true

/-- A packet that tells a new state of the link tells a port, and the number of a state. -/
def Describable (conf : ValveConf ι) (valve : Valve ι σ) : Input ι → Prop
  | .packet _ ethType port lldpPkt => ∀ tlvs remote, ethType = ethTypeLldp → lldpPkt = some tlvs →
      parseFaucetLldp tlvs conf.faucetDpMac = some remote → truthy remote.portState = true →
      (valve.port port).recvState ≠ remote.portState →
      remote.portId.isSome = true ∧ ∃ name, stackStateName (remote.portState.getD 0) = .ok name
  | .expire _ => True

/-! ## Ports -/

/-- What a step does to a port, given its probe after the step. -/
structure PortStep (probe : Option ProbeInfo) (before after : PortState) : Prop where
  probeInfo : after.probeInfo = probe
  notDown : after.stackState ≠ .adminDown
  timed : truthy after.recvState = true → after.recvTime.isSome = true
  up : after.stackState = .up →
    before.stackState = .up ∨ ∃ info, probe = some info ∧ info.stackCorrect = true

/-- No port is shut down, and the time of a state that was received is known. -/
def PortOk (port : PortState) : Prop :=
  port.stackState ≠ .adminDown ∧ (truthy port.recvState = true → port.recvTime.isSome = true)

theorem PortStep.refl {port : PortState} (ok : PortOk port) : PortStep port.probeInfo port port :=
  ⟨rfl, ok.1, ok.2, .inl⟩

theorem PortStep.ok {probe : Option ProbeInfo} {before after : PortState}
    (moved : PortStep probe before after) : PortOk after := ⟨moved.notDown, moved.timed⟩

theorem PortStep.trans {probe : Option ProbeInfo} {before middle after : PortState}
    (first : PortStep probe before middle) (second : PortStep probe middle after) :
    PortStep probe before after :=
  ⟨second.probeInfo, second.notDown, second.timed, fun up => (second.up up).elim first.up .inr⟩

/-- What comes before the update leaves the state of the link as it is. -/
theorem PortStep.after {probe : Option ProbeInfo} {before middle after : PortState}
    (moved : PortStep probe middle after) (same : middle.stackState = before.stackState) :
    PortStep probe before after :=
  ⟨moved.probeInfo, moved.notDown, moved.timed, fun up => same ▸ moved.up up⟩

theorem stackPortUpdate_spec {portConf : PortConf} {port : PortState} (now : ℚ) (ok : PortOk port)
    (isStack : portConf.stack.isSome = true) :
    ∃ after reason, stackPortUpdate portConf now port = .ok (after, some reason) ∧
      PortStep port.probeInfo port after := by
  rw [stackPortUpdate, if_neg ok.1]
  cases probe : port.probeInfo with
  | none =>
      dsimp only
      split
      · exact ⟨_, _, rfl, rfl, nofun, ok.2, nofun⟩
      · exact ⟨_, _, rfl, probe ▸ .refl ok⟩
  | some info =>
      obtain ⟨peer, stack⟩ := Option.isSome_iff_exists.mp isStack
      simp only [stack]
      split
      · exact ⟨_, _, rfl, rfl, nofun, ok.2, nofun⟩
      · split
        · exact ⟨_, _, rfl, rfl, nofun, ok.2, nofun⟩
        · split
          next correct _ =>
            refine ⟨_, _, rfl, rfl, nofun, ok.2, fun _ => .inr ⟨info, rfl, ?_⟩⟩
            simpa using correct
          next => exact ⟨_, _, rfl, probe ▸ .refl ok⟩

theorem stackStateName_number (state : StackState) :
    ∃ name, stackStateName state.number = .ok name := by
  cases state <;> exact ⟨_, rfl⟩

/-! ## Updates of the link states -/

/-- Every port takes a step, its probe staying as it is. -/
def PortsStep (valve next : Valve ι σ) : Prop :=
  ∀ port, PortStep (valve.port port).probeInfo (valve.port port) (next.port port)

omit [DecidableEq ι] in
theorem PortsStep.refl (ok : ∀ port, PortOk (valve.port port)) : PortsStep valve valve :=
  fun port => .refl (ok port)

omit [DecidableEq ι] in
theorem PortsStep.trans {middle : Valve ι σ} (first : PortsStep valve middle)
    (second : PortsStep middle next) : PortsStep valve next := by
  intro port
  have later := second port
  rw [(first port).probeInfo] at later
  exact (first port).trans later

@[simp] theorem setPort_self (port : ι) (state : PortState) :
    (valve.setPort port state).port port = state := Function.update_self ..

theorem setPort_of_ne {port other : ι} (different : other ≠ port) (state : PortState) :
    (valve.setPort port state).port other = valve.port other := Function.update_of_ne different ..

/-- A step of one port. -/
theorem PortsStep.setPort {port : ι} {after : PortState} (ok : ∀ port, PortOk (valve.port port))
    (moved : PortStep (valve.port port).probeInfo (valve.port port) after) :
    PortsStep valve (valve.setPort port after) := by
  intro other
  by_cases same : other = port
  · subst same
    rw [setPort_self]
    exact moved
  · rw [setPort_of_ne same]
    exact .refl (ok other)

section Updates

variable (around : Surroundings ι σ) (now : ℚ)

theorem updatePort_spec (ok : ∀ port, PortOk (valve.port port)) {port : ι}
    (isStack : (conf.port port).stack.isSome = true) (stackChanges : Nat) :
    ∃ next changes, updatePort conf around now (valve, stackChanges) port = .ok (next, changes) ∧
      PortsStep valve next := by
  obtain ⟨after, reason, updated, moved⟩ := stackPortUpdate_spec now (ok port) isStack
  have moves : PortsStep valve (valve.setPort port after) := .setPort ok moved
  obtain ⟨_, afterName⟩ := stackStateName_number after.stackState
  obtain ⟨_, beforeName⟩ := stackStateName_number (valve.port port).stackState
  rw [updatePort]
  simp only [updated, afterName, beforeName, bind, Except.bind, pure, Except.pure]
  split
  · exact ⟨_, _, rfl, moves⟩
  · exact ⟨_, _, rfl, moves⟩

theorem foldlM_updatePort (ok : ∀ port, PortOk (valve.port port)) {ports : List ι}
    (areStack : ∀ port ∈ ports, (conf.port port).stack.isSome = true) (stackChanges : Nat) :
    ∃ next changes, ports.foldlM (updatePort conf around now) (valve, stackChanges) =
      .ok (next, changes) ∧ PortsStep valve next := by
  induction ports generalizing valve stackChanges with
  | nil => exact ⟨valve, stackChanges, rfl, .refl ok⟩
  | cons port rest ih =>
      obtain ⟨middle, changes, updated, first⟩ :=
        updatePort_spec around now ok (areStack port List.mem_cons_self) stackChanges
      obtain ⟨next, changes', folded, later⟩ :=
        ih (fun port => (first port).ok) (fun port member => areStack port (List.mem_cons_of_mem _ member))
          changes
      exact ⟨next, changes', by rw [List.foldlM_cons, updated]; exact folded, first.trans later⟩

theorem updateStackLinkState_spec (ok : ∀ port, PortOk (valve.port port)) {ports : List ι}
    (areStack : ∀ port ∈ ports, (conf.port port).stack.isSome = true) :
    ∃ next, updateStackLinkState conf around now ports valve = .ok next ∧ PortsStep valve next := by
  obtain ⟨next, changes, folded, moves⟩ :=
    foldlM_updatePort around now ok areStack 0
  rw [updateStackLinkState, folded]
  simp only [bind, Except.bind]
  split
  · exact ⟨_, rfl, moves⟩
  · exact ⟨_, rfl, moves⟩

/-- A probe of a stack port, and what its link makes of it. -/
theorem verifyLldp_spec (ok : ∀ port, PortOk (valve.port port)) (port : ι) {remote : Remote}
    (portId : remote.portId.isSome = true) :
    ∃ next, verifyLldp conf around now port remote valve = .ok next ∧ ∀ other,
      PortStep ((if port = other then probeInfo conf now remote other else none).or
        (valve.port other).probeInfo) (valve.port other) (next.port other) := by
  cases stack : (conf.port port).stack with
  | none =>
      refine ⟨valve, by rw [verifyLldp, stack]; rfl, fun other => ?_⟩
      split
      next same =>
        subst same
        rw [probeInfo, stack]
        exact .refl (ok port)
      next => exact .refl (ok other)
  | some peer =>
      have probed : ∀ other, PortOk ((valve.setPort port { valve.port port with
          probeInfo := some ⟨now, remote.isPeer peer, remote⟩ }).port other) := by
        intro other
        by_cases same : other = port
        · subst same
          rw [setPort_self]
          exact ok other
        · rw [setPort_of_ne same]
          exact ok other
      have isStack : ∀ other ∈ [port], (conf.port other).stack.isSome = true := by
        intro other member
        rw [List.mem_singleton.mp member, stack]
        rfl
      obtain ⟨next, updated, moves⟩ := updateStackLinkState_spec around now probed isStack
      obtain ⟨portId, known⟩ := Option.isSome_iff_exists.mp portId
      refine ⟨next, ?_, fun other => ?_⟩
      · rw [verifyLldp, stack]
        cases correct : remote.isPeer peer
        · simpa [known, percentU, correct, bind, Except.bind] using updated
        · simpa [correct] using updated
      · have moved := moves other
        split
        next same =>
          subst same
          rw [setPort_self] at moved
          rw [probeInfo, stack]
          exact ⟨moved.probeInfo, moved.notDown, moved.timed, moved.up⟩
        next different =>
          rw [setPort_of_ne (Ne.symm different)] at moved
          exact moved

end Updates

/-! ## Packets -/

theorem logRecvState_ok {before : PortState} {remote : Remote} :
    logRecvState before remote = .ok () ↔ (truthy remote.portState = true →
      before.recvState ≠ remote.portState → remote.portId.isSome = true ∧
        ∃ name, stackStateName (remote.portState.getD 0) = .ok name) := by
  rw [logRecvState]
  by_cases told : (decide (before.recvState ≠ remote.portState) && truthy remote.portState) = true
  · rw [if_pos told]
    rw [Bool.and_eq_true, decide_eq_true_eq] at told
    have demanded : ∀ {p : Prop}, (truthy remote.portState = true →
        before.recvState ≠ remote.portState → p) ↔ p :=
      ⟨fun holds => holds told.2 told.1, fun holds _ _ => holds⟩
    rw [demanded]
    cases remote.portId <;> cases stackStateName (remote.portState.getD 0) <;>
      simp [percentU, bind, Except.bind, pure, Except.pure]
  · rw [if_neg told]
    refine ⟨fun _ isTruthy different => absurd ?_ told, fun _ => rfl⟩
    rw [Bool.and_eq_true, decide_eq_true_eq]
    exact ⟨different, isTruthy⟩

/-- What a port has received changes nothing else. -/
theorem received_spec (ok : ∀ port, PortOk (valve.port port)) (now : ℚ) (port : ι)
    (recvState : Option Int) (other : ι) : PortStep (valve.port other).probeInfo (valve.port other)
      ((valve.setPort port { valve.port port with recvTime := some now, recvState }).port other) ∧
      ((valve.setPort port { valve.port port with recvTime := some now, recvState }).port
        other).stackState = (valve.port other).stackState := by
  by_cases same : other = port
  · subst same
    rw [setPort_self]
    exact ⟨⟨rfl, (ok other).1, fun _ => rfl, .inl⟩, rfl⟩
  · rw [setPort_of_ne same]
    exact ⟨.refl (ok other), rfl⟩

/-- A packet is handled when it is described, and only then. -/
theorem lldpHandler_spec (around : Surroundings ι σ) (now : ℚ)
    (ok : ∀ port, PortOk (valve.port port)) (ethType : Nat) (port : ι)
    (lldpPkt : Option (List Tlv)) :
    (Describable conf valve (.packet now ethType port lldpPkt) →
      ∃ next, lldpHandler conf around now ethType port lldpPkt valve = .ok next ∧ ∀ other,
        PortStep ((probeOf conf other (.packet now ethType port lldpPkt)).or
          (valve.port other).probeInfo) (valve.port other) (next.port other)) ∧
    (¬ Describable conf valve (.packet now ethType port lldpPkt) →
      ∃ error, lldpHandler conf around now ethType port lldpPkt valve = .error error) := by
  by_cases isLldp : ethType = ethTypeLldp
  · cases lldpPkt with
    | none =>
        refine ⟨fun _ => ⟨valve, ?_, fun other => ?_⟩, fun described => ?_⟩
        · simp [lldpHandler, isLldp, pure, Except.pure]
        · simpa [probeOf] using PortStep.refl (ok other)
        · exact absurd (fun _ _ _ none => by cases none) described
    | some tlvs =>
        obtain ⟨remote, parsed⟩ := exists_parseFaucetLldp tlvs conf.faucetDpMac
        have described : Describable conf valve (.packet now ethType port (some tlvs)) ↔
            logRecvState (valve.port port) remote = .ok () := by
          rw [logRecvState_ok]
          refine ⟨fun described => described tlvs remote isLldp rfl parsed, ?_⟩
          intro told tlvs' remote' _ same parsed'
          cases same
          cases parsed.symm.trans parsed'
          exact told
        have handled : lldpHandler conf around now ethType port (some tlvs) valve =
            (logRecvState (valve.port port) remote).bind fun _ =>
              if truthy remote.dpId && truthy remote.portId then
                verifyLldp conf around now port remote (valve.setPort port
                  { valve.port port with recvTime := some now, recvState := remote.portState })
              else .ok (valve.setPort port
                  { valve.port port with recvTime := some now, recvState := remote.portState }) := by
          rw [lldpHandler, if_neg (not_not.mpr isLldp)]
          simp only [parsed]
          rfl
        rw [described, handled]
        refine ⟨fun logged => ?_, fun unlogged => ?_⟩
        · rw [logged, Except.bind]
          have received := received_spec ok now port remote.portState
          have probed : ∀ other, probeOf conf other (.packet now ethType port (some tlvs)) =
              if port = other then
                if truthy remote.dpId && truthy remote.portId then probeInfo conf now remote other
                else none
              else none := by
            intro other
            simp [probeOf, isLldp, parsed]
          by_cases isProbe : (truthy remote.dpId && truthy remote.portId) = true
          · have known : remote.portId.isSome = true := by
              rw [Bool.and_eq_true] at isProbe
              cases portId : remote.portId with
              | none =>
                  rw [portId] at isProbe
                  cases isProbe.2
              | some => rfl
            obtain ⟨next, verified, moves⟩ :=
              verifyLldp_spec around now (fun other => (received other).1.ok) port known
            refine ⟨next, by rw [if_pos isProbe]; exact verified, fun other => ?_⟩
            have moved := moves other
            rw [(received other).1.probeInfo] at moved
            rw [probed, if_pos isProbe]
            exact moved.after (received other).2
          · refine ⟨_, if_neg isProbe, fun other => ?_⟩
            rw [probed, if_neg isProbe, ite_self]
            exact (received other).1
        · cases raised : logRecvState (valve.port port) remote with
          | error error => exact ⟨error, rfl⟩
          | ok => exact absurd raised unlogged
  · refine ⟨fun _ => ⟨valve, ?_, fun other => ?_⟩, fun described => ?_⟩
    · simp [lldpHandler, isLldp, pure, Except.pure]
    · simpa [probeOf, isLldp] using PortStep.refl (ok other)
    · exact absurd (fun _ _ same => absurd same isLldp) described

/-! ## The passing of time -/

theorem foldlM_expirePort (now : ℚ) (sendInterval : Nat) (ok : ∀ port, PortOk (valve.port port))
    (ports : List ι) : ∃ next, ports.foldlM (expirePort conf now sendInterval) valve = .ok next ∧
      PortsStep valve next := by
  induction ports generalizing valve with
  | nil => exact ⟨valve, rfl, .refl ok⟩
  | cons port rest ih =>
      obtain ⟨middle, expired, first⟩ : ∃ middle,
          expirePort conf now sendInterval valve port = .ok middle ∧ PortsStep valve middle := by
        rw [expirePort]
        split
        next => exact ⟨valve, rfl, .refl ok⟩
        next received =>
          have isTrue : truthy (valve.port port).recvState = true := by simpa using received
          obtain ⟨recvTime, known⟩ := Option.isSome_iff_exists.mp ((ok port).2 isTrue)
          rw [known]
          dsimp only
          split
          · exact ⟨_, rfl, .setPort ok ⟨rfl, (ok port).1, nofun, .inl⟩⟩
          · exact ⟨valve, rfl, .refl ok⟩
      obtain ⟨next, folded, later⟩ := ih fun port => (first port).ok
      exact ⟨next, by rw [List.foldlM_cons, expired]; exact folded, first.trans later⟩

theorem fastStateExpire_spec (around : Surroundings ι σ) (now : ℚ)
    (ok : ∀ port, PortOk (valve.port port)) :
    ∃ next, fastStateExpire conf around now valve = .ok next ∧ PortsStep valve next := by
  rw [fastStateExpire]
  cases conf.lldpBeacon with
  | none => exact updateStackLinkState_spec around now ok conf.isStackPort
  | some sendInterval =>
      obtain ⟨middle, expired, first⟩ := foldlM_expirePort now sendInterval ok conf.ports
      obtain ⟨next, updated, later⟩ :=
        updateStackLinkState_spec around now (fun port => (first port).ok) conf.isStackPort
      refine ⟨next, ?_, first.trans later⟩
      exact (congrArg (fun result => Except.bind result fun valve =>
        updateStackLinkState conf around now conf.stackPorts valve) expired).trans updated

/-! ## Runs -/

/-- An input is handled exactly when it is described. -/
theorem step_spec (around : Surroundings ι σ) (ok : ∀ port, PortOk (valve.port port))
    (input : Input ι) :
    (Describable conf valve input ↔ ∃ next, step conf around valve input = some next) ∧
    ∀ next, step conf around valve input = some next → ∀ port,
      PortStep ((probeOf conf port input).or (valve.port port).probeInfo) (valve.port port)
        (next.port port) := by
  cases input with
  | packet now ethType port lldpPkt =>
      obtain ⟨handled, raised⟩ := lldpHandler_spec around now ok ethType port lldpPkt
      by_cases described : Describable conf valve (.packet now ethType port lldpPkt)
      · obtain ⟨next, result, moves⟩ := handled described
        have taken : step conf around valve (.packet now ethType port lldpPkt) = some next := by
          rw [step, handle, result]
          rfl
        refine ⟨⟨fun _ => ⟨next, taken⟩, fun _ => described⟩, fun next' taken' => ?_⟩
        cases taken.symm.trans taken'
        exact moves
      · obtain ⟨error, result⟩ := raised described
        have failed : step conf around valve (.packet now ethType port lldpPkt) = none := by
          rw [step, handle, result]
          rfl
        refine ⟨⟨fun described' => absurd described' described, fun ⟨next, taken⟩ => ?_⟩,
          fun next taken => ?_⟩ <;> cases failed.symm.trans taken
  | expire now =>
      obtain ⟨next, result, moves⟩ := fastStateExpire_spec around now ok
      have taken : step conf around valve (.expire now) = some next := by
        rw [step, handle, result]
        rfl
      refine ⟨⟨fun _ => ⟨next, taken⟩, fun _ => trivial⟩, fun next' taken' => ?_⟩
      cases taken.symm.trans taken'
      exact moves

/-- The probe that a port holds is the last one that it was sent. -/
structure Follows (conf : ValveConf ι) (done : List (Input ι)) (valve : Valve ι σ) : Prop where
  ok : ∀ port, PortOk (valve.port port)
  probeInfo : ∀ port, (valve.port port).probeInfo = lastProbe conf done port

theorem follows_start (rest : σ) : Follows conf [] (Valve.start rest : Valve ι σ) :=
  ⟨fun _ => ⟨nofun, nofun⟩, fun _ => rfl⟩

theorem lastProbe_concat (done : List (Input ι)) (input : Input ι) (port : ι) :
    lastProbe conf (done ++ [input]) port =
      (probeOf conf port input).or (lastProbe conf done port) := by
  rw [lastProbe, List.filterMap_append, List.getLast?_append]
  cases probe : probeOf conf port input <;> simp [probe, lastProbe]

theorem Follows.step {done : List (Input ι)} (follows : Follows conf done valve)
    (taken : Lldp.step conf around valve input = some next) :
    Follows conf (done ++ [input]) next := by
  have moves := (step_spec around follows.ok input).2 next taken
  refine ⟨fun port => (moves port).ok, fun port => ?_⟩
  rw [(moves port).probeInfo, follows.probeInfo, lastProbe_concat]

/-- What a run leads to follows what it was sent. -/
theorem follows_exec {rest : σ} {done : List (Input ι)}
    (executed : exec (step conf around) (.start rest) done = some valve) :
    Follows conf done valve := by
  induction done using List.reverseRecOn generalizing valve with
  | nil =>
      cases executed
      exact follows_start rest
  | append_singleton earlier input ih =>
      rw [exec_concat] at executed
      obtain ⟨before, executed, taken⟩ := Option.bind_eq_some_iff.mp executed
      exact (ih executed).step taken

/-- A port that comes up has been probed by its configured peer. -/
theorem Follows.entersUp {done : List (Input ι)} {port : ι} (follows : Follows conf done valve)
    (taken : Lldp.step conf around valve input = some next)
    (before : (valve.port port).stackState ≠ .up) (after : (next.port port).stackState = .up) :
    ∃ peer probe, (conf.port port).stack = some peer ∧
      lastProbe conf (done ++ [input]) port = some probe ∧ probe.remote.isPeer peer = true := by
  have moved := (step_spec around follows.ok input).2 next taken port
  obtain ⟨probe, last, correct⟩ := (moved.up after).resolve_left before
  rw [follows.probeInfo, ← lastProbe_concat] at last
  -- a probe is checked against the configured peer when it comes in
  obtain ⟨sent, _, isProbe⟩ := List.mem_filterMap.mp (List.mem_of_getLast? last)
  have checked : ∃ peer, (conf.port port).stack = some peer ∧
      probe.stackCorrect = probe.remote.isPeer peer := by
    cases sent with
    | expire => cases isProbe
    | packet now ethType port' lldpPkt =>
        rw [probeOf] at isProbe
        split at isProbe
        · obtain ⟨_, _, isProbe⟩ := Option.bind_eq_some_iff.mp isProbe
          obtain ⟨remote, _, isProbe⟩ := Option.bind_eq_some_iff.mp isProbe
          split at isProbe
          · obtain ⟨peer, stack, same⟩ := Option.map_eq_some_iff.mp isProbe
            exact ⟨peer, stack, same ▸ rfl⟩
          · cases isProbe
        · cases isProbe
  obtain ⟨peer, stack, same⟩ := checked
  exact ⟨peer, probe, stack, last, same ▸ correct⟩

/-- **When LLDP reception is robust**: every run is free of exceptions, and every port
that comes up has been probed by its peer, exactly when every packet of the run is
described. -/
theorem robust_iff_describable (conf : ValveConf ι) (around : Surroundings ι σ) (rest : σ)
    (inputs : List (Input ι)) : Robust conf around (.start rest) inputs ↔
      Allowed (step conf around) (Describable conf) (.start rest) inputs := by
  have executes : (∃ finish, exec (step conf around) (.start rest) inputs = some finish) ↔
      Allowed (step conf around) (Describable conf) (.start rest) inputs :=
    executes_iff_allowed (fun valve => ∀ port, PortOk (valve.port port))
      (fun ok => (step_spec around ok _).1)
      (fun ok taken port => ((step_spec around ok _).2 _ taken port).ok) inputs
      fun _ => ⟨nofun, nofun⟩
  rw [← executes]
  constructor
  · intro robust
    exact robust.returns inputs (List.prefix_refl _)
  · rintro ⟨finish, executed⟩
    constructor
    · rintro done ⟨later, whole⟩
      rw [← whole, exec_append] at executed
      obtain ⟨middle, executed, _⟩ := Option.bind_eq_some_iff.mp executed
      exact ⟨middle, executed⟩
    · intro done input before after _ executed taken port notUp up
      exact (follows_exec executed).entersUp taken notUp up

/-! ## A stack of two -/

/-- One stack port, to port 1 of the datapath `sw2`. -/
def labConf : ValveConf Unit where
  faucetDpMac := [14, 0, 0, 0, 0, 1]
  lldpBeacon := some 5
  ports := [()]
  stackPorts := [()]
  port := fun _ => ⟨some ⟨2, "sw2", 1, none, StackPeer.positive_none⟩, 3⟩
  isStackPort := fun _ _ => rfl

/-- Nothing around the valve matters. -/
def labAround : Surroundings Unit Unit := ⟨fun _ _ => false, fun _ _ _ _ => (), fun _ _ => ()⟩

/-- A packet with the datapath and the state of `sw2`, whose port is `x`. -/
def labTlvs : List Tlv :=
  [.portId 5 [120], .systemName [115, 119, 50], .organizationallySpecific [14, 0, 0] 1 [50],
    .organizationallySpecific [14, 0, 0] 2 [49]]

theorem not_robust_of_no_port : ¬ ∀ (conf : ValveConf Unit) (inputs : List (Input Unit)),
    Robust conf labAround (.start ()) inputs := by
  intro always
  obtain ⟨valve, executed⟩ := (always labConf
    [.expire 0, .packet 1 ethTypeLldp () (some labTlvs)]).returns _ (List.prefix_refl _)
  have raised : exec (step labConf labAround) (.start ())
    [.expire 0, .packet 1 ethTypeLldp () (some labTlvs)] = none := by rfl
  cases raised.symm.trans executed

end Faucet.Lldp
