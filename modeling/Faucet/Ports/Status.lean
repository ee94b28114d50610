import Faucet.Egress.Metadata
import Faucet.Library.TransitionSystem

/-!
# Port status

The controller keeps what it knows of a port twice: `dyn_up_port_nos` of the datapath has the
numbers of the ports that are up, and each configured port has `dyn_phys_up`. A port status
message writes the first by the bit for the link, whatever its reason, and the second by its
reason. The two agree with what was last reported exactly along the runs in which no port is
added with its link down while it is down, none is deleted with its link up, none that is up is
blocked with its link up, and the local port does not come up in a reply
(`consistent_iff_allowed`).
-/

set_option autoImplicit false

namespace Faucet.Ports

open OpenFlow (PortNo)
open Egress (ignorePort)
open TransitionSystem

/-! ## Ports and messages -/

/-- `OFPP_LOCAL`. -/
def ofppLocal : PortNo := 0xfffffffe

/-- A configured port. -/
structure Port where
  number : PortNo
  opstatusReconf : Bool
  valid : ignorePort number = false

/-- The configured ports of a datapath. -/
structure Dp where
  ports : List Port
  numbers : (ports.map (·.number)).Nodup

/-- The reason of a port status message. -/
inductive Reason where
  | add
  | delete
  | modify
  | unknown
deriving DecidableEq

/-- `OFPPS_LINK_DOWN`. -/
def ofppsLinkDown : ℕ := 1
/-- `OFPPS_BLOCKED`. -/
def ofppsBlocked : ℕ := 2

/-- `OFPPS_LINK_DOWN` is not set. -/
def portStatusFromState (state : ℕ) : Bool := state &&& ofppsLinkDown = 0

/-- The state says that the port is blocked or its link down. -/
def blockedDownState (state : ℕ) : Bool :=
  state &&& ofppsBlocked ≠ 0 ∨ state &&& ofppsLinkDown ≠ 0

/-- What a datapath says about its ports. -/
inductive Message where
  | portStatus (portNo : PortNo) (reason : Reason) (state : ℕ)
  /-- The ports that a reply describes, each with its state. -/
  | portDescStatsReply (descs : List (PortNo × ℕ))

/-- The ports that the valve takes to be up. -/
structure State where
  dynUpPortNos : Finset PortNo
  /-- `dyn_phys_up` of the configured ports. -/
  dynPhysUp : PortNo → Bool

namespace State

variable (state : State)

/-- `_set_port_status`. -/
def setPortStatus (portNo : PortNo) (portStatus : Bool) : State :=
  { state with
    dynUpPortNos :=
      if portStatus then insert portNo state.dynUpPortNos else state.dynUpPortNos.erase portNo }

/-- `dyn_phys_up` of a port is set. -/
def setPhysUp (portNo : PortNo) (physUp : Bool) : State :=
  { state with dynPhysUp := Function.update state.dynPhysUp portNo physUp }

end State

/-! ## The handlers -/

namespace Dp

variable (dp : Dp)

/-- The configured port, when `port_no_valid`. -/
def port? (portNo : PortNo) : Option Port :=
  if ignorePort portNo then none else dp.ports.find? (·.number = portNo)

/-- `ports_add` of one port. -/
def portAdd (state : State) (portNo : PortNo) : State :=
  if (dp.port? portNo).isSome then state.setPhysUp portNo true else state

/-- `ports_delete` of one port. -/
def portDelete (state : State) (portNo : PortNo) : State :=
  if (dp.port? portNo).isSome then state.setPhysUp portNo false else state

/-- `port_status_handler` -/
def portStatusHandler (state : State) (portNo : PortNo) (reason : Reason) (ofState : ℕ) : State :=
  let portStatus := portStatusFromState ofState
  let state := state.setPortStatus portNo portStatus
  match dp.port? portNo with
  | none => state
  | some port =>
      if !port.opstatusReconf then state
      else if reason = .unknown then state
      else
        let newPortStatus : Bool := reason = .add ∨ (reason = .modify ∧ portStatus)
        if newPortStatus ≠ state.dynPhysUp portNo then
          if newPortStatus then dp.portAdd state portNo else dp.portDelete state portNo
        else if newPortStatus && blockedDownState ofState then dp.portDelete state portNo
        else state

/-- `_fabricate`. -/
def fabricate (state : State) (portNo : PortNo) (reason : Reason) (status : Bool) : State :=
  dp.portStatusHandler state portNo reason (if status then 0 else ofppsLinkDown)

/-- The numbers that a reply describes. -/
def currDynPortNos (descs : List (PortNo × ℕ)) : List PortNo :=
  (descs.map Prod.fst).dedup.filter (· ≠ ofppLocal)

/-- The numbers that a reply describes with their link up. -/
def currDynUp (descs : List (PortNo × ℕ)) (portNo : PortNo) : Bool :=
  descs.any fun desc => desc.1 = portNo ∧ portStatusFromState desc.2

/-- Ports without a configuration. -/
def fabricateNoConf (prevUp currUp : PortNo → Bool) (state : State) (portNo : PortNo) : State :=
  if prevUp portNo ≠ currUp portNo then dp.fabricate state portNo .modify (currUp portNo)
  else state

/-- Ports with a configuration. -/
def fabricateConf (descs : List (PortNo × ℕ)) (prevUp currUp : PortNo → Bool) (state : State)
    (portNo : PortNo) : State :=
  if prevUp portNo = currUp portNo then state
  else if portNo ∈ currDynPortNos descs then
    if !prevUp portNo then dp.fabricate state portNo .add true
    else dp.fabricate state portNo .modify (currUp portNo)
  else dp.fabricate state portNo .delete false

/-- `port_desc_stats_reply_handler` -/
def portDescStatsReplyHandler (state : State) (descs : List (PortNo × ℕ)) : State :=
  let prevUp := fun portNo => decide (portNo ∈ state.dynUpPortNos)
  let currUp := currDynUp descs
  let confPortNos := dp.ports.map (·.number)
  let noConfPortNos := (currDynPortNos descs).filter (· ∉ confPortNos)
  confPortNos.foldl (dp.fabricateConf descs prevUp currUp)
    (noConfPortNos.foldl (dp.fabricateNoConf prevUp currUp) state)

/-- A cold start, with the configured ports and those that are discovered to be up. -/
def coldStart (allConfiguredPortNos discoveredUpPortNos : List PortNo) : State :=
  let alwaysUp := (dp.ports.filter (!·.opstatusReconf)).map (·.number)
  let allUpPortNos := allConfiguredPortNos.filter (· ∈ discoveredUpPortNos ++ alwaysUp)
  ⟨allUpPortNos.toFinset, fun portNo => portNo ∈ allUpPortNos ∧ (dp.port? portNo).isSome⟩

end Dp

/-! ## Reports -/

/-- The state, with what the last message about each port has reported: the port is present, and
its link is up. -/
structure Reported where
  state : State
  up : PortNo → Bool

namespace Dp

variable (dp : Dp)

/-- The ports that the datapath says are up. -/
def report (up : PortNo → Bool) : Message → PortNo → Bool
  | .portStatus portNo reason state =>
      Function.update up portNo (reason ≠ .delete ∧ portStatusFromState state)
  | .portDescStatsReply descs => currDynUp descs

/-- What is done with a message. -/
def handle (state : State) : Message → State
  | .portStatus portNo reason ofState => dp.portStatusHandler state portNo reason ofState
  | .portDescStatsReply descs => dp.portDescStatsReplyHandler state descs

/-- A message is sent and handled. -/
def step (reported : Reported) (message : Message) : Option Reported :=
  some ⟨dp.handle reported.state message, report reported.up message⟩

/-- Both flags of every port with `opstatus_reconf` are as last reported. -/
def Consistent (reported : Reported) : Prop :=
  ∀ port ∈ dp.ports, port.opstatusReconf = true →
    reported.state.dynPhysUp port.number = reported.up port.number ∧
      (port.number ∈ reported.state.dynUpPortNos ↔ reported.up port.number = true)

/-- The message does not take the two flags of its port apart. -/
def StatusFits (reason : Reason) (ofState : ℕ) (physUp : Bool) : Prop :=
  match reason with
  | .add =>
      if portStatusFromState ofState then ¬ (physUp = true ∧ blockedDownState ofState = true)
      else physUp = true
  | .modify =>
      ¬ (portStatusFromState ofState = true ∧ physUp = true ∧ blockedDownState ofState = true)
  | .delete => portStatusFromState ofState = false
  | .unknown => physUp = portStatusFromState ofState

/-- The message is one that the handler follows. -/
def Fits (reported : Reported) : Message → Prop
  | .portStatus portNo reason ofState =>
      ∀ port ∈ dp.ports, port.opstatusReconf = true → port.number = portNo →
        StatusFits reason ofState (reported.state.dynPhysUp portNo)
  | .portDescStatsReply descs =>
      ∀ port ∈ dp.ports, port.opstatusReconf = true → port.number = ofppLocal →
        currDynUp descs ofppLocal = true → ofppLocal ∈ reported.state.dynUpPortNos

end Dp

/-! ## Flags -/

/-- What a port status message leaves in the flags of its port, which is configured. -/
def flagsAfter (port : Port) (reason : Reason) (ofState : ℕ) (physUp : Bool) : Bool × Bool :=
  (portStatusFromState ofState,
    if !port.opstatusReconf || reason = .unknown then physUp
    else
      let newPortStatus : Bool := reason = .add ∨ (reason = .modify ∧ portStatusFromState ofState)
      newPortStatus && !(physUp && blockedDownState ofState))

/-- Both flags of a port. -/
def State.flags (state : State) (portNo : PortNo) : Bool × Bool :=
  (portNo ∈ state.dynUpPortNos, state.dynPhysUp portNo)

namespace Dp

variable {dp : Dp} {state : State} {portNo other : PortNo} {reason : Reason} {ofState : ℕ}
  {port : Port}

theorem port?_of_mem (member : port ∈ dp.ports) : dp.port? port.number = some port := by
  rw [port?, port.valid, if_neg Bool.false_ne_true]
  cases found : dp.ports.find? (·.number = port.number) with
  | none =>
      have absent := List.find?_eq_none.mp found port member
      simp at absent
  | some first =>
      have same : first.number = port.number := by simpa using List.find?_some found
      rw [List.inj_on_of_nodup_map dp.numbers (List.mem_of_find?_eq_some found) member same]

theorem flags_setPortStatus (portStatus : Bool) :
    (state.setPortStatus portNo portStatus).flags other =
      if other = portNo then (portStatus, state.dynPhysUp other) else state.flags other := by
  cases portStatus with
  | true =>
      by_cases same : other = portNo
      · simp [State.setPortStatus, State.flags, same]
      · simp [State.setPortStatus, State.flags, same]
  | false =>
      by_cases same : other = portNo
      · simp [State.setPortStatus, State.flags, same]
      · simp [State.setPortStatus, State.flags, same]

theorem flags_setPhysUp (physUp : Bool) :
    (state.setPhysUp portNo physUp).flags other =
      if other = portNo then (decide (other ∈ state.dynUpPortNos), physUp)
      else state.flags other := by
  by_cases same : other = portNo
  · simp [State.setPhysUp, State.flags, same]
  · rw [if_neg same]
    simp only [State.setPhysUp, State.flags, Function.update_of_ne same]
    rfl

/-- **A port status message** changes the flags of its port alone. -/
theorem flags_portStatusHandler_of_ne (apart : other ≠ portNo) :
    (dp.portStatusHandler state portNo reason ofState).flags other = state.flags other := by
  simp only [portStatusHandler]
  cases dp.port? portNo with
  | none => simp [flags_setPortStatus, apart]
  | some port =>
      simp only [portAdd, portDelete]
      split_ifs
      all_goals simp [flags_setPortStatus, flags_setPhysUp, apart]

theorem flags_portStatusHandler (found : dp.port? portNo = some port) :
    (dp.portStatusHandler state portNo reason ofState).flags portNo =
      flagsAfter port reason ofState (state.dynPhysUp portNo) := by
  have physUp : (state.setPortStatus portNo (portStatusFromState ofState)).dynPhysUp portNo =
      state.dynPhysUp portNo := rfl
  have status : (state.setPortStatus portNo (portStatusFromState ofState)).flags portNo =
      (portStatusFromState ofState, state.dynPhysUp portNo) := by
    rw [flags_setPortStatus, if_pos rfl]
  have isUp : decide (portNo ∈ (state.setPortStatus portNo
      (portStatusFromState ofState)).dynUpPortNos) = portStatusFromState ofState :=
    congrArg Prod.fst status
  simp only [portStatusHandler, found, physUp, portAdd, portDelete, Option.isSome_some, if_true,
    flagsAfter]
  cases port.opstatusReconf with
  | false => simpa using status
  | true =>
      by_cases isUnknown : reason = .unknown
      · simpa [isUnknown] using status
      · simp only [Bool.not_true, Bool.false_eq_true, if_false, isUnknown, Bool.false_or,
          decide_false]
        split_ifs with changes comes blocked
        all_goals simp_all [flags_setPhysUp]

theorem flags_fabricate {status : Bool} (member : port ∈ dp.ports)
    (reconf : port.opstatusReconf = true) (known : reason ≠ .unknown) :
    (dp.fabricate state port.number reason status).flags port.number =
      (status, (reason = .add ∨ (reason = .modify ∧ status = true)) &&
        !(state.dynPhysUp port.number && !status)) := by
  have down : portStatusFromState ofppsLinkDown = false := rfl
  have up : portStatusFromState 0 = true := rfl
  have blocked : blockedDownState ofppsLinkDown = true := rfl
  have clear : blockedDownState 0 = false := rfl
  rw [fabricate, flags_portStatusHandler (port?_of_mem member), flagsAfter]
  cases status with
  | true => simp [reconf, known, up, clear]
  | false => simp [reconf, known, down, blocked]

/-! ## Replies -/

section Loops

variable {numbers : List PortNo} {loop : State → PortNo → State}
  (apart : ∀ state portNo other, other ≠ portNo → (loop state portNo).flags other = state.flags other)
include apart

theorem flags_foldl_of_notMem (absent : portNo ∉ numbers) :
    (numbers.foldl loop state).flags portNo = state.flags portNo := by
  induction numbers generalizing state with
  | nil => rfl
  | cons first rest ih =>
      rw [List.mem_cons, not_or] at absent
      rw [List.foldl_cons, ih absent.2]
      exact apart state first portNo absent.1

/-- A loop treats each port once, with the flags that it has had before. -/
theorem exists_flags_foldl (distinct : numbers.Nodup) (member : portNo ∈ numbers) :
    ∃ middle : State, middle.flags portNo = state.flags portNo ∧
      (numbers.foldl loop state).flags portNo = (loop middle portNo).flags portNo := by
  induction numbers generalizing state with
  | nil => cases member
  | cons first rest ih =>
      obtain ⟨absent, distinct⟩ := List.nodup_cons.mp distinct
      by_cases here : portNo = first
      · subst here
        exact ⟨state, rfl, flags_foldl_of_notMem apart absent⟩
      · have later := (List.mem_cons.mp member).resolve_left here
        obtain ⟨middle, same, result⟩ : ∃ middle : State,
            middle.flags portNo = (loop state first).flags portNo ∧
              (rest.foldl loop (loop state first)).flags portNo = (loop middle portNo).flags portNo :=
          ih distinct later
        exact ⟨middle, same.trans (apart state first portNo here), result⟩

end Loops

variable {descs : List (PortNo × ℕ)} {prevUp currUp : PortNo → Bool}

theorem flags_fabricateNoConf_of_ne (state : State) (portNo other : PortNo)
    (apart : other ≠ portNo) :
    (dp.fabricateNoConf prevUp currUp state portNo).flags other = state.flags other := by
  rw [fabricateNoConf]
  split
  · exact flags_portStatusHandler_of_ne apart
  · rfl

theorem flags_fabricateConf_of_ne (state : State) (portNo other : PortNo)
    (apart : other ≠ portNo) :
    (dp.fabricateConf descs prevUp currUp state portNo).flags other = state.flags other := by
  rw [fabricateConf]
  split_ifs
  · rfl
  all_goals exact flags_portStatusHandler_of_ne apart

theorem mem_currDynPortNos_of_up (up : currDynUp descs portNo = true) (apart : portNo ≠ ofppLocal) :
    portNo ∈ currDynPortNos descs := by
  obtain ⟨desc, member, isUp⟩ := List.any_eq_true.mp up
  have same : desc.1 = portNo := (of_decide_eq_true isUp).1
  refine List.mem_filter.mpr ⟨List.mem_dedup.mpr ?_, decide_eq_true apart⟩
  exact List.mem_map.mpr ⟨desc, member, same⟩

/-- **A reply** leaves the flags of a port as they are when the port is up as before, and else
makes them what it says; the local port is taken for absent. -/
theorem flags_portDescStatsReplyHandler (member : port ∈ dp.ports)
    (reconf : port.opstatusReconf = true)
    (agree : state.dynPhysUp port.number = decide (port.number ∈ state.dynUpPortNos)) :
    (dp.portDescStatsReplyHandler state descs).flags port.number =
      if port.number = ofppLocal ∧ port.number ∉ state.dynUpPortNos then (false, false)
      else (currDynUp descs port.number, currDynUp descs port.number) := by
  let prevUp := fun portNo => decide (portNo ∈ state.dynUpPortNos)
  have inConf : port.number ∈ dp.ports.map (·.number) := List.mem_map.mpr ⟨port, member, rfl⟩
  have untouched : (((currDynPortNos descs).filter (· ∉ dp.ports.map (·.number))).foldl
      (dp.fabricateNoConf prevUp (currDynUp descs)) state).flags port.number =
        state.flags port.number := by
    apply flags_foldl_of_notMem flags_fabricateNoConf_of_ne
    intro listed
    exact absurd inConf (of_decide_eq_true (List.mem_filter.mp listed).2)
  obtain ⟨middle, same, result⟩ : ∃ middle : State, middle.flags port.number = _ ∧
      (dp.portDescStatsReplyHandler state descs).flags port.number =
        (dp.fabricateConf descs prevUp (currDynUp descs) middle port.number).flags port.number :=
    exists_flags_foldl flags_fabricateConf_of_ne dp.numbers inConf
  rw [untouched] at same
  have before : middle.flags port.number = (prevUp port.number, prevUp port.number) := by
    rw [same, State.flags, agree]
  have isPrev : (port.number ∉ state.dynUpPortNos) ↔ prevUp port.number = false :=
    (decide_eq_false_iff_not).symm
  have physUp : middle.dynPhysUp port.number = prevUp port.number := congrArg Prod.snd before
  simp only [result, isPrev, fabricateConf]
  cases wasUp : prevUp port.number with
  | true =>
      cases isUp : currDynUp descs port.number with
      | true => simp [before, wasUp]
      | false =>
          by_cases listed : port.number ∈ currDynPortNos descs
          · simp [listed, flags_fabricate member reconf]
          · simp [listed, flags_fabricate member reconf]
  | false =>
      cases isUp : currDynUp descs port.number with
      | false => simp [before, wasUp]
      | true =>
          by_cases isLocal : port.number = ofppLocal
          · have hidden : port.number ∉ currDynPortNos descs := by
              simp [currDynPortNos, isLocal]
            rw [if_neg Bool.false_ne_true, if_neg hidden, if_pos ⟨isLocal, rfl⟩]
            simp [flags_fabricate member reconf]
          · have listed := mem_currDynPortNos_of_up isUp isLocal
            simp [listed, isLocal, flags_fabricate member reconf]

/-! ## Messages -/

theorem blockedDownState_of_down (down : portStatusFromState ofState = false) :
    blockedDownState ofState = true := by
  simp only [portStatusFromState, decide_eq_false_iff_not] at down
  exact decide_eq_true (.inr down)

variable {reported next : Reported} {message : Message}

theorem consistent_iff_flags :
    dp.Consistent reported ↔ ∀ port ∈ dp.ports, port.opstatusReconf = true →
      reported.state.flags port.number = (reported.up port.number, reported.up port.number) := by
  refine forall₃_congr fun port _ _ => ?_
  rw [State.flags, Prod.mk.injEq, and_comm]
  refine and_congr_left' ?_
  cases reported.up port.number with
  | true => simp
  | false => simp

/-- **A message keeps the flags as reported** exactly when it fits. -/
theorem consistent_step_iff (consistent : dp.Consistent reported)
    (taken : dp.step reported message = some next) :
    dp.Consistent next ↔ dp.Fits reported message := by
  obtain rfl : _ = next := Option.some.inj taken
  have before := consistent_iff_flags.mp consistent
  rw [consistent_iff_flags]
  cases message with
  | portStatus portNo reason ofState =>
      rw [Fits]
      refine forall₃_congr fun port member reconf => ?_
      have flags := before port member reconf
      have physUp : reported.state.dynPhysUp port.number = reported.up port.number :=
        congrArg Prod.snd flags
      by_cases same : port.number = portNo
      · subst same
        simp only [handle, report, flags_portStatusHandler (port?_of_mem member), flagsAfter, reconf,
          Function.update_self, physUp, forall_true_left, StatusFits]
        cases link : portStatusFromState ofState with
        | true =>
            cases reason <;> cases reported.up port.number <;> cases blockedDownState ofState <;>
              simp
        | false =>
            have blocked := blockedDownState_of_down link
            cases reason <;> cases reported.up port.number <;> simp [blocked]
      · have unchanged : (handle dp reported.state (.portStatus portNo reason ofState)).flags
            port.number = reported.state.flags port.number := flags_portStatusHandler_of_ne same
        simp [unchanged, flags, report, same]
  | portDescStatsReply descs =>
      rw [Fits]
      refine forall₃_congr fun port member reconf => ?_
      obtain ⟨physUp, isUp⟩ := consistent port member reconf
      have agree : reported.state.dynPhysUp port.number =
          decide (port.number ∈ reported.state.dynUpPortNos) := by
        rw [physUp]
        cases up : reported.up port.number with
        | true => simp [isUp, up]
        | false => simp [isUp, up]
      simp only [handle, report, flags_portDescStatsReplyHandler member reconf agree]
      by_cases isLocal : port.number = ofppLocal
      · rw [isLocal]
        by_cases wasUp : ofppLocal ∈ reported.state.dynUpPortNos
        · simp [wasUp]
        · cases currDynUp descs ofppLocal <;> simp [wasUp]
      · simp [isLocal]

/-! ## Runs -/

/-- **The two flags agree with the last report** after every message of a run, exactly when every
message of it fits. -/
theorem consistent_iff_allowed (messages : List Message) (start : dp.Consistent reported) :
    (∀ done finish, done <+: messages → exec dp.step reported done = some finish →
        dp.Consistent finish) ↔
      Allowed dp.step dp.Fits reported messages :=
  forall_prefix_iff_allowed (fun _ => True) (fun _ _ => ⟨_, rfl⟩) (fun _ _ => trivial)
    (fun _ consistent taken => consistent_step_iff consistent taken) messages trivial start

/-- **A cold start** leaves both flags of every port the same. -/
theorem consistent_coldStart (allConfiguredPortNos discoveredUpPortNos : List PortNo) :
    dp.Consistent
      ⟨dp.coldStart allConfiguredPortNos discoveredUpPortNos,
        (dp.coldStart allConfiguredPortNos discoveredUpPortNos).dynPhysUp⟩ := by
  intro port member _
  simp [coldStart, port?_of_mem member]

/-! ## A deleted port -/

/-- A datapath with one port. -/
def onePort : Dp where
  ports := [⟨1, true, by decide⟩]
  numbers := List.nodup_singleton 1

/-- The port comes up, goes down, and is deleted. -/
theorem consistent_iff_allowed_onePort :
    ∃ finish, exec onePort.step ⟨⟨∅, fun _ => false⟩, fun _ => false⟩
        [.portStatus 1 .add 0, .portStatus 1 .modify 1, .portStatus 1 .delete 1] = some finish ∧
      onePort.Consistent finish := by
  have start : onePort.Consistent ⟨⟨∅, fun _ => false⟩, fun _ => false⟩ := fun _ _ _ => ⟨rfl, by simp⟩
  have allowed := (consistent_iff_allowed
    [.portStatus 1 .add 0, .portStatus 1 .modify 1, .portStatus 1 .delete 1] start).mpr
  refine ⟨_, rfl, allowed ?_ _ _ (List.prefix_refl _) rfl⟩
  refine ⟨?_, ?_, ?_, trivial⟩
  · rintro port member _ _
    exact fun both => absurd both.1 (by decide)
  · rintro port member _ _
    exact fun both => absurd both.1 (by decide)
  · rintro port member _ _
    exact rfl

/-- The two flags come apart after these messages. -/
def ComesApart (messages : List Message) : Prop :=
  ∃ finish, exec onePort.step
      ⟨onePort.coldStart [1] [1], (onePort.coldStart [1] [1]).dynPhysUp⟩ messages = some finish ∧
    ¬ onePort.Consistent finish

/-- **The two flags come apart** when the port is deleted with its link up, is blocked with its
link up, or is added with its link down. -/
theorem not_consistent_onePort : ComesApart [.portStatus 1 .delete 4] ∧
    ComesApart [.portStatus 1 .modify 2] ∧
    ComesApart [.portStatus 1 .modify 1, .portStatus 1 .add 1] := by
  have apart : ∀ finish : Reported,
      finish.state.dynPhysUp 1 ≠ decide (1 ∈ finish.state.dynUpPortNos) →
        ¬ onePort.Consistent finish := by
    intro finish differ consistent
    obtain ⟨physUp, up⟩ := consistent ⟨1, true, by decide⟩ (List.mem_singleton_self _) rfl
    refine differ (physUp.trans ?_)
    cases said : finish.up 1 with
    | true => simp [up, said]
    | false => simp [up, said]
  refine ⟨?_, ?_, ?_⟩
  · exact ⟨_, rfl, apart _ (by decide)⟩
  · exact ⟨_, rfl, apart _ (by decide)⟩
  · exact ⟨_, rfl, apart _ (by decide)⟩

end Dp

end Faucet.Ports
