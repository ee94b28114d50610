import Faucet.Send.Reconnect

/-!
# How a sender ends

A worker leaves its loop at the stop sentinel, at the stop flag inside a batch, after a
barrier that timed out, and by an exception out of `set_xid` or `send_msg`. The first
three come from `stop` or close the channel. An exception does neither, and the manager
compares only the datapath object, so it keeps handing batches to the dead sender.

A worker is well (`WorkerOk`) as long as exceptions are raised only for a sender that is
stopped or has lost its channel, and the manager keeps no sender that it has stopped
(`Roster`).
-/

set_option autoImplicit false

namespace Faucet.Send

open TransitionSystem

variable {s s' : State} {action : Action} {w : WorkerId}

/-! ## Silent death -/

/-- The worker has been told to stop, or has no channel any more. -/
def Released (s : State) (w : WorkerId) : Prop :=
  (s.workers w).stopped = true ∨ s.closed (s.workers w).ryuDp = true

instance (s : State) (w : WorkerId) : Decidable (Released s w) :=
  inferInstanceAs (Decidable (_ ∨ _))

/-- A worker has exited only if it was stopped or its channel closed. -/
def NeverSilent (s : State) : Prop := ∀ w, (s.workers w).point = .exited → Released s w

/-- An exception does not end a worker that is needed. -/
def RaisesHarmless (s : State) : Action → Prop
  | .raise w => Released s w
  | _ => True

/-! ## What a step does to a worker -/

/-- What `_run` makes of a batch: with a callback it ends with a barrier. -/
def prepared (ofmsgs : List Ofmsg) (onComplete : Bool) : List Ofmsg :=
  if onComplete && !endsWithBarrier ofmsgs then ofmsgs ++ [.barrierRequest] else ofmsgs

/-- A step of the worker itself. -/
inductive Moves (s s' : State) (action : Action) (w : WorkerId) : BarrierAwareSender → Prop where
  | sentinel {queue : List QueueItem} (point : (s.workers w).point = .get)
      (items : (s.workers w).queue = .stopSentinel :: queue) :
      Moves s s' action w { s.workers w with queue := queue, point := .exited }
  | take {ofmsgs : List Ofmsg} {onComplete : Bool} {queue : List QueueItem}
      (point : (s.workers w).point = .get)
      (items : (s.workers w).queue = .batch ofmsgs onComplete :: queue) :
      Moves s s' action w { s.workers w with
        queue := queue
        point := .loop ⟨(s.workers w).taken, prepared ofmsgs onComplete, 0, onComplete⟩
        taken := (s.workers w).taken + 1 }
  | leave {frame : Frame} (point : (s.workers w).point = .loop frame)
      (stopped : (s.workers w).stopped = true) :
      Moves s s' action w { s.workers w with point := .exited }
  | check {frame : Frame} (point : (s.workers w).point = .loop frame)
      (inside : frame.next < frame.batch.length) :
      Moves s s' action w { s.workers w with point := .checked frame }
  | send {frame : Frame} (point : (s.workers w).point = .checked frame)
      (sent : .sent w frame ∈ s'.history) :
      Moves s s' action w { s.workers w with point := .loop frame.advance }
  | register {frame : Frame} {xid : Xid} {event : EventId}
      (point : (s.workers w).point = .checked frame) :
      Moves s s' action w { s.workers w with point := .registered frame xid event }
  | sendBarrier {frame : Frame} {xid : Xid} {event : EventId}
      (point : (s.workers w).point = .registered frame xid event)
      (sent : .sent w frame ∈ s'.history) :
      Moves s s' action w { s.workers w with point := .waiting frame xid event }
  | wait {frame : Frame} {xid : Xid} {event : EventId} {acked : Bool}
      (point : (s.workers w).point = .waiting frame xid event)
      (closed : acked = false → s'.closed (s.workers w).ryuDp = true) :
      Moves s s' action w { s.workers w with point := .waited frame xid acked }
  | unwind {frame : Frame} {xid : Xid} (point : (s.workers w).point = .waited frame xid true) :
      Moves s s' action w { s.workers w with point := .loop frame.advance }
  | lost {frame : Frame} {xid : Xid} (point : (s.workers w).point = .waited frame xid false) :
      Moves s s' action w { s.workers w with point := .exited }
  | finish {frame : Frame} (point : (s.workers w).point = .loop frame)
      (outside : frame.batch.length ≤ frame.next) :
      Moves s s' action w { s.workers w with point := .get }
  | raise (acts : action = .raise w) : Moves s s' action w { s.workers w with point := .exited }

theorem moves_of_step (acts : action.worker? = some w) (taken : s.step action = some s') :
    Moves s s' action w (s'.workers w) := by
  cases action <;> cases acts
  case get =>
    obtain ⟨point, ⟨queue, items, rfl⟩ | ⟨ofmsgs, onComplete, queue, items, rfl⟩⟩ :=
      State.get_cases taken
    · rw [State.setWorker_self]
      exact .sentinel point items
    · rw [State.setWorker_self]
      exact .take point items
  case check =>
    obtain ⟨frame, point, inside, rfl⟩ := State.check_cases taken
    rw [State.goto_workers_self]
    split
    next stopped => exact .leave point stopped
    next => exact .check point inside
  case send =>
    obtain ⟨frame, payload, point, _, rfl⟩ := State.send_cases taken
    change Moves _ _ _ w ((s.goto w _).workers w)
    rw [State.goto_workers_self]
    exact .send point List.mem_cons_self
  case register xid =>
    obtain ⟨frame, point, _, rfl⟩ := State.register_cases taken
    change Moves _ _ _ w (((s.registerBarrier _ _).goto w _).workers w)
    rw [State.goto_workers_self]
    exact .register point
  case sendBarrier =>
    obtain ⟨frame, xid, event, point, rfl⟩ := State.sendBarrier_cases taken
    change Moves _ _ _ w ((s.goto w _).workers w)
    rw [State.goto_workers_self]
    exact .sendBarrier point List.mem_cons_self
  case wake =>
    obtain ⟨frame, xid, event, point, _, rfl⟩ := State.wake_cases taken
    rw [State.goto_workers_self]
    exact .wait point (by simp)
  case timeout =>
    obtain ⟨frame, xid, event, point, _, rfl⟩ := State.timeout_cases taken
    change Moves _ _ _ w ((s.goto w _).workers w)
    rw [State.goto_workers_self]
    exact .wait point fun _ => Function.update_self ..
  case unwind =>
    obtain ⟨frame, xid, acked, point, rfl⟩ := State.unwind_cases taken
    rw [State.goto_workers_self]
    cases acked with
    | true => exact .unwind point
    | false => exact .lost point
  case finish =>
    obtain ⟨frame, point, outside, ⟨_, rfl⟩ | ⟨_, rfl⟩⟩ := State.finish_cases taken
    · change Moves _ _ _ w ((s.goto w _).workers w)
      rw [State.goto_workers_self]
      exact .finish point outside
    · rw [State.goto_workers_self]
      exact .finish point outside
  case raise =>
    obtain ⟨frame, _, rfl⟩ | ⟨frame, xid, event, _, rfl⟩ := State.raise_cases taken
    · rw [State.goto_workers_self]
      exact .raise rfl
    · rw [State.goto_workers_self]
      exact .raise rfl

/-- What the steps of other threads do to a worker. -/
inductive Handled (sender : BarrierAwareSender) : BarrierAwareSender → Prop where
  | same : Handled sender sender
  | stop : Handled sender sender.stop
  | submit (ofmsgs : List Ofmsg) (onComplete : Bool) :
      Handled sender (sender.submit ofmsgs onComplete)

theorem handled_setWorker {w' : WorkerId} {sender : BarrierAwareSender}
    (handled : Handled (s.workers w') sender) (w : WorkerId) :
    Handled (s.workers w) ((s.setWorker w' sender).workers w) := by
  by_cases same : w = w'
  · subst same
    rwa [State.setWorker_self]
  · rw [State.setWorker_other s same]
    exact .same

theorem newSender_workers (s : State) (ryuDp : ChannelId) (dpId : DpId)
    (inside : w < s.nextWorker) : (s.newSender ryuDp dpId).workers w = s.workers w :=
  State.setWorker_other s (Nat.ne_of_lt inside) _

theorem handled_submitToSender (ryuDp : ChannelId) (dpId : DpId) (ofmsgs : List Ofmsg)
    (onComplete : Bool) (inside : w < s.nextWorker) :
    Handled (s.workers w) ((s.submitToSender ryuDp dpId ofmsgs onComplete).workers w) := by
  unfold State.submitToSender
  split
  · exact .same
  · split
    next =>
      change Handled _ ((s.newSender ryuDp dpId).workers w)
      rw [newSender_workers s ryuDp dpId inside]
      exact .same
    next w' _ =>
      split
      · exact .same
      · change Handled _ (((s.setWorker w' (s.workers w').stop).newSender ryuDp dpId).workers w)
        have inside' : w < (s.setWorker w' (s.workers w').stop).nextWorker := inside
        rw [newSender_workers _ ryuDp dpId inside']
        exact handled_setWorker .stop w

theorem handled_of_step (other : action.worker? ≠ some w) (inside : w < s.nextWorker)
    (taken : s.step action = some s') : Handled (s.workers w) (s'.workers w) := by
  cases acts : action.worker? with
  | some w' =>
      obtain ⟨sender, workers, _⟩ := (workerStep acts taken).workers
      have different : w ≠ w' := fun same => other (same ▸ acts)
      rw [workers, Function.update_of_ne different]
      exact .same
  | none =>
      cases action <;> cases acts
      case connect.refl =>
        cases taken
        exact .same
      case submit.refl ryuDp ofmsgs onComplete =>
        obtain ⟨dpId, _, rfl⟩ := Option.map_eq_some_iff.mp taken
        exact handled_submitToSender ryuDp dpId ofmsgs onComplete inside
      case enqueue.refl index =>
        obtain ⟨⟨w', ofmsgs, onComplete⟩, _, rfl⟩ := Option.map_eq_some_iff.mp taken
        exact handled_setWorker (.submit ofmsgs onComplete) w
      case reply.refl ryuDp xid =>
        obtain ⟨dpId, _, _, rfl⟩ := State.reply_cases taken
        exact .same
      case cancelBarriers.refl dpId =>
        cases taken
        exact .same
      case disconnect.refl ryuDp =>
        obtain ⟨dpId, _, rfl⟩ := Option.map_eq_some_iff.mp taken
        exact .same
      case stopSender.refl index =>
        obtain ⟨⟨ryuDp, dpId⟩, _, rfl⟩ := Option.map_eq_some_iff.mp taken
        change Handled _ ((s.popAndStop dpId).workers w)
        unfold State.popAndStop
        split
        next => exact .same
        next => exact handled_setWorker .stop w

/-! ## What no step takes back -/

theorem closed_submitToSender (ryuDp : ChannelId) (dpId : DpId) (ofmsgs : List Ofmsg)
    (onComplete : Bool) : (s.submitToSender ryuDp dpId ofmsgs onComplete).closed = s.closed ∧
      (s.submitToSender ryuDp dpId ofmsgs onComplete).history = s.history := by
  unfold State.submitToSender
  split
  · exact ⟨rfl, rfl⟩
  · split
    · exact ⟨rfl, rfl⟩
    · split <;> exact ⟨rfl, rfl⟩

theorem closed_popAndStop (dpId : DpId) : (s.popAndStop dpId).closed = s.closed ∧
    (s.popAndStop dpId).history = s.history := by
  unfold State.popAndStop
  split <;> exact ⟨rfl, rfl⟩

/-- A channel that is closed stays closed, and what was done has been done. -/
structure Later (s s' : State) : Prop where
  closed : ∀ ryuDp, s.closed ryuDp = true → s'.closed ryuDp = true
  history : ∀ event ∈ s.history, event ∈ s'.history

theorem Later.of_eq (closed : s'.closed = s.closed) (history : s'.history = s.history) :
    Later s s' :=
  ⟨fun ryuDp => by rw [closed]; exact id, fun event => by rw [history]; exact id⟩

theorem later_of_step (taken : s.step action = some s') : Later s s' := by
  have keeps : ∀ {ryuDp ryuDp' : ChannelId}, s.closed ryuDp = true →
      Function.update s.closed ryuDp' true ryuDp = true := by
    intro ryuDp ryuDp' closed
    by_cases same : ryuDp = ryuDp'
    · subst same
      exact Function.update_self ..
    · rwa [Function.update_of_ne same]
  cases action
  case get =>
    obtain ⟨_, ⟨_, _, rfl⟩ | ⟨_, _, _, _, rfl⟩⟩ := State.get_cases taken
    all_goals exact .of_eq rfl rfl
  case check =>
    obtain ⟨_, _, _, rfl⟩ := State.check_cases taken
    exact .of_eq rfl rfl
  case send =>
    obtain ⟨_, _, _, _, rfl⟩ := State.send_cases taken
    exact ⟨fun _ => id, fun _ => List.mem_cons_of_mem _⟩
  case register =>
    obtain ⟨_, _, _, rfl⟩ := State.register_cases taken
    exact ⟨fun _ => id, fun _ => List.mem_cons_of_mem _⟩
  case sendBarrier =>
    obtain ⟨_, _, _, _, rfl⟩ := State.sendBarrier_cases taken
    exact ⟨fun _ => id, fun _ => List.mem_cons_of_mem _⟩
  case wake =>
    obtain ⟨_, _, _, _, _, rfl⟩ := State.wake_cases taken
    exact .of_eq rfl rfl
  case timeout =>
    obtain ⟨_, _, _, _, _, rfl⟩ := State.timeout_cases taken
    exact ⟨fun _ => keeps, fun _ => id⟩
  case unwind =>
    obtain ⟨_, _, _, _, rfl⟩ := State.unwind_cases taken
    exact .of_eq rfl rfl
  case finish =>
    obtain ⟨_, _, _, ⟨_, rfl⟩ | ⟨_, rfl⟩⟩ := State.finish_cases taken
    · exact ⟨fun _ => id, fun _ => List.mem_cons_of_mem _⟩
    · exact .of_eq rfl rfl
  case raise =>
    obtain ⟨_, _, rfl⟩ | ⟨_, _, _, _, rfl⟩ := State.raise_cases taken
    all_goals exact .of_eq rfl rfl
  case connect =>
    cases taken
    exact .of_eq rfl rfl
  case submit =>
    obtain ⟨_, _, rfl⟩ := Option.map_eq_some_iff.mp taken
    exact .of_eq (closed_submitToSender ..).1 (closed_submitToSender ..).2
  case enqueue =>
    obtain ⟨_, _, rfl⟩ := Option.map_eq_some_iff.mp taken
    exact .of_eq rfl rfl
  case reply =>
    obtain ⟨_, _, _, rfl⟩ := State.reply_cases taken
    exact ⟨fun _ => id, fun _ => List.mem_cons_of_mem _⟩
  case cancelBarriers =>
    cases taken
    exact .of_eq rfl rfl
  case disconnect =>
    obtain ⟨_, _, rfl⟩ := Option.map_eq_some_iff.mp taken
    exact ⟨fun _ => keeps, fun _ => id⟩
  case stopSender =>
    obtain ⟨⟨_, dpId⟩, _, rfl⟩ := Option.map_eq_some_iff.mp taken
    exact .of_eq (closed_popAndStop dpId).1 (closed_popAndStop dpId).2

/-- Workers that have started stay started. -/
theorem nextWorker_step (taken : s.step action = some s') : s.nextWorker ≤ s'.nextWorker := by
  cases acts : action.worker? with
  | some w => exact Nat.le_of_eq (workerStep acts taken).nextWorker.symm
  | none =>
      cases action <;> cases acts
      case submit.refl ryuDp ofmsgs onComplete =>
        obtain ⟨dpId, _, rfl⟩ := Option.map_eq_some_iff.mp taken
        unfold State.submitToSender
        split
        · exact Nat.le_refl _
        · split
          · exact Nat.le_succ _
          · split <;> first | exact Nat.le_refl _ | exact Nat.le_succ _
      case reply.refl =>
        obtain ⟨dpId, _, _, rfl⟩ := State.reply_cases taken
        exact Nat.le_refl _
      case stopSender.refl =>
        obtain ⟨⟨ryuDp, dpId⟩, _, rfl⟩ := Option.map_eq_some_iff.mp taken
        change s.nextWorker ≤ (s.popAndStop dpId).nextWorker
        unfold State.popAndStop
        split <;> exact Nat.le_refl _
      case connect.refl | cancelBarriers.refl =>
        cases taken
        exact Nat.le_refl _
      case enqueue.refl | disconnect.refl =>
        obtain ⟨_, _, rfl⟩ := Option.map_eq_some_iff.mp taken
        exact Nat.le_refl _

/-! ## The invariant -/

/-- A worker exits for a reason, and holds a message when it is past the check. -/
structure WorkerOk (s : State) (w : WorkerId) : Prop where
  exited : (s.workers w).point = .exited → Released s w
  lost : ∀ frame xid, (s.workers w).point = .waited frame xid false →
    s.closed (s.workers w).ryuDp = true
  sentinel : .stopSentinel ∈ (s.workers w).queue → (s.workers w).stopped = true
  inside : ∀ frame, (s.workers w).point = .checked frame → frame.next < frame.batch.length

theorem released_of_handled (later : Later s s')
    (handled : Handled (s.workers w) (s'.workers w)) (released : Released s w) :
    Released s' w := by
  unfold Released at released ⊢
  generalize s'.workers w = sender at handled ⊢
  cases handled with
  | same => exact released.imp_right (later.closed _)
  | stop => exact .inl (BarrierAwareSender.stop_stopped _)
  | submit ofmsgs onComplete =>
      rw [BarrierAwareSender.submit_stopped, BarrierAwareSender.submit_ryuDp]
      exact released.imp_right (later.closed _)

theorem released_of_moves (later : Later s s') (moves : Moves s s' action w (s'.workers w))
    (released : Released s w) : Released s' w := by
  unfold Released at released ⊢
  generalize s'.workers w = sender at moves ⊢
  cases moves <;> exact released.imp_right (later.closed _)

theorem workerOk_of_handled (ok : WorkerOk s w) (later : Later s s')
    (handled : Handled (s.workers w) (s'.workers w)) : WorkerOk s' w := by
  have released := released_of_handled later handled
  have points : (s'.workers w).point = (s.workers w).point ∧
      (s'.workers w).ryuDp = (s.workers w).ryuDp := by
    generalize s'.workers w = sender at handled
    cases handled <;> simp
  constructor
  case exited => exact fun exited => released (ok.exited (points.1 ▸ exited))
  case lost =>
    intro frame xid waited
    rw [points.2]
    exact later.closed _ (ok.lost frame xid (points.1 ▸ waited))
  case sentinel =>
    intro member
    clear released points
    generalize s'.workers w = sender at handled member ⊢
    cases handled with
    | same => exact ok.sentinel member
    | stop => exact BarrierAwareSender.stop_stopped _
    | submit ofmsgs onComplete =>
        rw [BarrierAwareSender.submit_stopped]
        refine ok.sentinel ?_
        rw [BarrierAwareSender.submit] at member
        split at member
        · exact member
        · split at member
          · exact member
          · simpa using member
  case inside => exact fun frame checked => ok.inside frame (points.1 ▸ checked)

theorem workerOk_of_moves (ok : WorkerOk s w) (later : Later s s')
    (harmless : RaisesHarmless s action) (moves : Moves s s' action w (s'.workers w)) :
    WorkerOk s' w := by
  have released := released_of_moves later moves
  have stopped : Released s' w = ((s'.workers w).stopped = true ∨
      s'.closed (s'.workers w).ryuDp = true) := rfl
  rw [stopped] at released
  constructor
  case exited =>
    rw [stopped]
    clear stopped
    generalize s'.workers w = sender at moves released ⊢
    cases moves with
    | sentinel point items =>
        exact fun _ => .inl (ok.sentinel (items ▸ List.mem_cons_self))
    | leave point stopped => exact fun _ => .inl stopped
    | lost point => exact fun _ => .inr (later.closed _ (ok.lost _ _ point))
    | raise acts =>
        subst acts
        exact fun _ => released harmless
    | _ => nofun
  case lost =>
    clear stopped released
    generalize s'.workers w = sender at moves ⊢
    intro frame xid waited
    cases moves with
    | wait point closed =>
        cases waited
        exact closed rfl
    | _ => cases waited
  case sentinel =>
    clear stopped released
    generalize s'.workers w = sender at moves ⊢
    intro member
    cases moves with
    | sentinel point items | take point items =>
        exact ok.sentinel (items ▸ List.mem_cons_of_mem _ member)
    | _ => exact ok.sentinel member
  case inside =>
    clear stopped released
    generalize s'.workers w = sender at moves ⊢
    intro frame checked
    cases moves with
    | check point inside =>
        cases checked
        exact inside
    | _ => cases checked

theorem workerOk_new {ryuDp : ChannelId} {dpId : DpId} (fresh : s.workers w = .new ryuDp dpId) :
    WorkerOk s w := by
  constructor <;> rw [fresh] <;> nofun

/-- The manager keeps no sender that it has stopped. -/
structure Roster (s : State) : Prop where
  unstarted : ∀ w, s.nextWorker ≤ w → s.workers w = .new 0 0
  sender : ∀ dpId w, s.senders dpId = some w →
    w < s.nextWorker ∧ (s.workers w).dpId = dpId ∧ (s.workers w).stopped = false
  submitted : ∀ entry ∈ s.submitting, entry.1 < s.nextWorker

namespace Roster

variable (roster : Roster s)
include roster

theorem congr (workers : s'.workers = s.workers) (nextWorker : s'.nextWorker = s.nextWorker)
    (senders : s'.senders = s.senders)
    (submitted : ∀ entry ∈ s'.submitting, entry ∈ s.submitting ∨ entry.1 < s.nextWorker) :
    Roster s' := by
  constructor
  · rw [workers, nextWorker]
    exact roster.unstarted
  · rw [workers, nextWorker, senders]
    exact roster.sender
  · intro entry member
    rw [nextWorker]
    exact (submitted entry member).elim (roster.submitted entry) id

/-- A change of a started worker that is not a stop. -/
theorem setWorker {sender : BarrierAwareSender} (inside : w < s.nextWorker)
    (sameDp : sender.dpId = (s.workers w).dpId)
    (sameStopped : sender.stopped = (s.workers w).stopped) : Roster (s.setWorker w sender) := by
  constructor
  · intro w' outside
    have different : w' ≠ w := Nat.ne_of_gt (Nat.lt_of_lt_of_le inside outside)
    rw [State.setWorker_other s different]
    exact roster.unstarted w' outside
  · intro dpId w' registered
    obtain ⟨inside', dp, running⟩ := roster.sender dpId w' registered
    refine ⟨inside', ?_⟩
    by_cases same : w' = w
    · subst same
      rw [State.setWorker_self, sameDp, sameStopped]
      exact ⟨dp, running⟩
    · rw [State.setWorker_other s same]
      exact ⟨dp, running⟩
  · exact roster.submitted

theorem newSender (ryuDp : ChannelId) (dpId : DpId) : Roster (s.newSender ryuDp dpId) := by
  constructor
  · intro w outside
    have different : w ≠ s.nextWorker := Nat.ne_of_gt outside
    change (s.setWorker s.nextWorker _).workers w = _
    rw [State.setWorker_other s different]
    exact roster.unstarted w (Nat.le_of_lt outside)
  · intro dpId' w registered
    change Function.update s.senders dpId (some s.nextWorker) dpId' = some w at registered
    change w < s.nextWorker + 1 ∧ ((s.setWorker s.nextWorker _).workers w).dpId = dpId' ∧
      ((s.setWorker s.nextWorker _).workers w).stopped = false
    by_cases same : dpId' = dpId
    · subst same
      rw [Function.update_self] at registered
      cases registered
      rw [State.setWorker_self]
      exact ⟨Nat.lt_succ_self _, rfl, rfl⟩
    · rw [Function.update_of_ne same] at registered
      obtain ⟨inside, kept⟩ := roster.sender dpId' w registered
      rw [State.setWorker_other s (Nat.ne_of_lt inside)]
      exact ⟨Nat.lt_succ_of_lt inside, kept⟩
  · exact fun entry member => Nat.lt_succ_of_lt (roster.submitted entry member)

/-- A sender that is stopped is taken out of the roster. -/
theorem popAndStop (dpId : DpId) : Roster (s.popAndStop dpId) := by
  unfold State.popAndStop
  split
  next => exact roster
  next w registered =>
    have inside := (roster.sender dpId w registered).1
    constructor
    · intro w' outside
      have different : w' ≠ w := Nat.ne_of_gt (Nat.lt_of_lt_of_le inside outside)
      change (s.setWorker w _).workers w' = _
      rw [State.setWorker_other s different]
      exact roster.unstarted w' outside
    · intro dpId' w' registered'
      change Function.update s.senders dpId none dpId' = some w' at registered'
      change w' < s.nextWorker ∧ ((s.setWorker w _).workers w').dpId = dpId' ∧
        ((s.setWorker w _).workers w').stopped = false
      by_cases same : dpId' = dpId
      · subst same
        rw [Function.update_self] at registered'
        cases registered'
      · rw [Function.update_of_ne same] at registered'
        obtain ⟨inside', dp, running⟩ := roster.sender dpId' w' registered'
        have different : w' ≠ w := by
          rintro rfl
          exact same (dp.symm.trans (roster.sender dpId w' registered).2.1)
        rw [State.setWorker_other s different]
        exact ⟨inside', dp, running⟩
    · exact roster.submitted

theorem submitToSender (ryuDp : ChannelId) (dpId : DpId) (ofmsgs : List Ofmsg)
    (onComplete : Bool) : Roster (s.submitToSender ryuDp dpId ofmsgs onComplete) := by
  unfold State.submitToSender
  split
  · exact roster
  · split
    next =>
      refine (roster.newSender ryuDp dpId).congr rfl rfl rfl fun entry member => ?_
      rcases List.mem_cons.mp member with same | earlier
      · exact .inr (same ▸ Nat.lt_succ_self _)
      · exact .inl earlier
    next w registered =>
      split
      · refine roster.congr rfl rfl rfl fun entry member => ?_
        rcases List.mem_cons.mp member with same | earlier
        · exact .inr (same ▸ (roster.sender dpId w registered).1)
        · exact .inl earlier
      · -- the stale sender is stopped as in a disconnect, and replaced
        have replaced := (roster.popAndStop dpId).newSender ryuDp dpId
        rw [State.popAndStop, registered] at replaced
        refine replaced.congr rfl rfl ?_ fun entry member => ?_
        · change Function.update s.senders dpId _ =
            Function.update (Function.update s.senders dpId none) dpId _
          rw [Function.update_idem]
        · rcases List.mem_cons.mp member with same | earlier
          · exact .inr (same ▸ Nat.lt_succ_self _)
          · exact .inl earlier

theorem step (taken : s.step action = some s') : Roster s' := by
  cases acts : action.worker? with
  | some w =>
      have inside := State.step_worker_started roster.unstarted acts taken
      have change := workerStep acts taken
      have running : (s'.workers w).stopped = (s.workers w).stopped := by
        have moves := moves_of_step acts taken
        generalize s'.workers w = sender at moves
        cases moves <;> rfl
      obtain ⟨sender, workers, _, sameDp, _⟩ := change.workers
      rw [workers, Function.update_self] at running
      refine (roster.setWorker inside sameDp running).congr workers change.nextWorker
        change.senders fun entry member => .inl ?_
      rwa [change.submitting] at member
  | none =>
      cases action <;> cases acts
      case connect.refl =>
        cases taken
        exact roster.congr rfl rfl rfl fun _ => .inl
      case submit.refl ryuDp ofmsgs onComplete =>
        obtain ⟨dpId, _, rfl⟩ := Option.map_eq_some_iff.mp taken
        exact roster.submitToSender ryuDp dpId ofmsgs onComplete
      case enqueue.refl index =>
        obtain ⟨⟨w, ofmsgs, onComplete⟩, asked, rfl⟩ := Option.map_eq_some_iff.mp taken
        have inside := roster.submitted _ (List.mem_of_getElem? asked)
        have enqueued := roster.setWorker inside
          (BarrierAwareSender.submit_dpId (s.workers w) ofmsgs onComplete)
          (BarrierAwareSender.submit_stopped (s.workers w) ofmsgs onComplete)
        exact enqueued.congr rfl rfl rfl fun _ member => .inl (List.mem_of_mem_eraseIdx member)
      case reply.refl ryuDp xid =>
        obtain ⟨dpId, _, _, rfl⟩ := State.reply_cases taken
        exact roster.congr rfl rfl rfl fun _ => .inl
      case cancelBarriers.refl dpId =>
        cases taken
        exact roster.congr rfl rfl rfl fun _ => .inl
      case disconnect.refl ryuDp =>
        obtain ⟨dpId, _, rfl⟩ := Option.map_eq_some_iff.mp taken
        exact roster.congr rfl rfl rfl fun _ => .inl
      case stopSender.refl index =>
        obtain ⟨⟨ryuDp, dpId⟩, _, rfl⟩ := Option.map_eq_some_iff.mp taken
        exact (roster.popAndStop dpId).congr rfl rfl rfl fun _ => .inl

theorem submitToSender_fresh (ryuDp : ChannelId) (dpId : DpId) (ofmsgs : List Ofmsg)
    (onComplete : Bool) (outside : s.nextWorker ≤ w) : ∃ ryuDp' dpId',
      (s.submitToSender ryuDp dpId ofmsgs onComplete).workers w = .new ryuDp' dpId' := by
  have fresh := roster.unstarted w outside
  have started : ∀ t : State, t.nextWorker = s.nextWorker → t.workers w = .new 0 0 →
      ∃ ryuDp' dpId', (t.newSender ryuDp dpId).workers w = .new ryuDp' dpId' := by
    intro t sameNext unstarted
    change ∃ ryuDp' dpId', (t.setWorker t.nextWorker _).workers w = .new ryuDp' dpId'
    by_cases same : w = t.nextWorker
    · subst same
      exact ⟨ryuDp, dpId, State.setWorker_self ..⟩
    · rw [State.setWorker_other t same]
      exact ⟨0, 0, unstarted⟩
  unfold State.submitToSender
  split
  · exact ⟨0, 0, fresh⟩
  · split
    next => exact started s rfl fresh
    next w' registered =>
      split
      · exact ⟨0, 0, fresh⟩
      · refine started (s.setWorker w' _) rfl ?_
        have different : w ≠ w' :=
          Nat.ne_of_gt (Nat.lt_of_lt_of_le (roster.sender dpId w' registered).1 outside)
        rw [State.setWorker_other s different]
        exact fresh

/-- A worker that has not started before a step has done nothing after it. -/
theorem fresh_step (taken : s.step action = some s') (outside : s.nextWorker ≤ w) :
    ∃ ryuDp dpId, s'.workers w = .new ryuDp dpId := by
  by_cases same : s'.nextWorker = s.nextWorker
  · exact ⟨0, 0, (roster.step taken).unstarted w (same ▸ outside)⟩
  · cases acts : action.worker? with
    | some w' => exact absurd (workerStep acts taken).nextWorker same
    | none =>
        cases action <;> cases acts
        case submit.refl ryuDp ofmsgs onComplete =>
          obtain ⟨dpId, _, rfl⟩ := Option.map_eq_some_iff.mp taken
          exact roster.submitToSender_fresh ryuDp dpId ofmsgs onComplete outside
        case reply.refl ryuDp xid =>
          obtain ⟨dpId, _, _, rfl⟩ := State.reply_cases taken
          exact absurd rfl same
        case stopSender.refl index =>
          obtain ⟨⟨ryuDp, dpId⟩, _, rfl⟩ := Option.map_eq_some_iff.mp taken
          refine absurd ?_ same
          change (s.popAndStop dpId).nextWorker = s.nextWorker
          unfold State.popAndStop
          split <;> rfl
        case connect.refl | cancelBarriers.refl =>
          cases taken
          exact absurd rfl same
        case enqueue.refl | disconnect.refl =>
          obtain ⟨_, _, rfl⟩ := Option.map_eq_some_iff.mp taken
          exact absurd rfl same

end Roster

end Faucet.Send
