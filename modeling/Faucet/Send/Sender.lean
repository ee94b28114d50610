import Faucet.Library.TransitionSystem

/-!
# The barrier-aware send pipeline

One worker thread per datapath connection drains batches of OpenFlow messages
(`BarrierAwareSender`). At a barrier request it registers a waiter with the
manager under the datapath id and the barrier's xid, sends the request, and
blocks on the waiter's event until the reply handler, a cancel or the timeout
releases it. The manager (`ValvesManager`) keeps the waiters and one sender for
each datapath id; a disconnect cancels the waiters of the datapath id and then
pops and stops its sender.

A `State` holds the manager, every worker ever started, the events, the
connections and the barrier requests the switches have not answered. A `Point`
is where a worker stands in its code: every access to something another thread
can touch (the queue, the stop flag, the registry, the event, the channel) is a
step of its own, so the actions interleave as the threads do. The xid that
`set_xid` assigns is any number.

`history` is not part of the code. It records what the threads did, newest
first, for the statements about runs.
-/

set_option autoImplicit false

namespace Faucet.Send

/-- A datapath id. -/
abbrev DpId := Nat

/-- A transaction id. -/
abbrev Xid := Nat
/-- The identity of a connection (a `ryu_dp` object). -/
abbrev ChannelId := Nat

/-- The identity of a sender. -/
abbrev WorkerId := Nat
/-- The identity of a `threading.Event`. -/
abbrev EventId := Nat

/-- An OpenFlow message: a barrier request, or any other message. -/
inductive Ofmsg where
  | barrierRequest
  | message (payload : Nat)
deriving DecidableEq, Repr

/-- `_ends_with_barrier`: the batch is not empty and ends with a barrier. -/
def endsWithBarrier (batch : List Ofmsg) : Bool :=
  batch.getLast? == some .barrierRequest

/-- What a sender's queue holds; `onComplete` says whether a callback was given. -/
inductive QueueItem where
  | batch (ofmsgs : List Ofmsg) (onComplete : Bool)
  | stopSentinel
deriving DecidableEq, Repr

/-- The local state of `_send_batch`: the worker's batch with its running
number, and the index of the message it is at. -/
structure Frame where
  number : Nat
  batch : List Ofmsg
  next : Nat
  onComplete : Bool
deriving DecidableEq, Repr

namespace Frame

/-- The message the loop is at. -/
def current (frame : Frame) : Option Ofmsg := frame.batch[frame.next]?

/-- The message has been sent. -/
def advance (frame : Frame) : Frame := { frame with next := frame.next + 1 }

end Frame

/-- Where a worker stands. -/
inductive Point where
  /-- in `_queue.get` -/
  | get
  /-- at the head of the loop of `_send_batch` -/
  | loop (frame : Frame)
  /-- past the check of the stop flag, about to handle the message -/
  | checked (frame : Frame)
  /-- the barrier's waiter is registered, the request not yet sent -/
  | registered (frame : Frame) (xid : Xid) (event : EventId)
  /-- in `event.wait` -/
  | waiting (frame : Frame) (xid : Xid) (event : EventId)
  /-- past `event.wait`, about to run the `finally` clause -/
  | waited (frame : Frame) (xid : Xid) (acked : Bool)
  /-- `_run` has returned -/
  | exited
deriving DecidableEq, Repr

/-- `BarrierAwareSender`, with where its thread is. -/
structure BarrierAwareSender where
  ryuDp : ChannelId
  dpId : DpId
  queue : List QueueItem
  stopped : Bool
  point : Point
  /-- how many batches the worker has taken from its queue -/
  taken : Nat
deriving DecidableEq, Repr

namespace BarrierAwareSender

/-- `BarrierAwareSender.__init__` -/
def new (ryuDp : ChannelId) (dpId : DpId) : BarrierAwareSender where
  ryuDp := ryuDp
  dpId := dpId
  queue := []
  stopped := false
  point := .get
  taken := 0

/-- `submit` -/
def submit (sender : BarrierAwareSender) (ofmsgs : List Ofmsg) (onComplete : Bool) :
    BarrierAwareSender :=
  if sender.stopped then sender
  else if ofmsgs.isEmpty && !onComplete then sender
  else { sender with queue := sender.queue ++ [.batch ofmsgs onComplete] }

/-- `stop` -/
def stop (sender : BarrierAwareSender) : BarrierAwareSender :=
  if sender.stopped then sender
  else { sender with stopped := true, queue := sender.queue ++ [.stopSentinel] }

section Fields

variable (sender : BarrierAwareSender) (ofmsgs : List Ofmsg) (onComplete : Bool)

@[simp] theorem submit_point : (sender.submit ofmsgs onComplete).point = sender.point := by
  simp only [submit]
  split <;> [rfl; split <;> rfl]

@[simp] theorem submit_dpId : (sender.submit ofmsgs onComplete).dpId = sender.dpId := by
  simp only [submit]
  split <;> [rfl; split <;> rfl]

@[simp] theorem submit_ryuDp : (sender.submit ofmsgs onComplete).ryuDp = sender.ryuDp := by
  simp only [submit]
  split <;> [rfl; split <;> rfl]

@[simp] theorem submit_stopped : (sender.submit ofmsgs onComplete).stopped = sender.stopped := by
  simp only [submit]
  split <;> [rfl; split <;> rfl]

@[simp] theorem submit_taken : (sender.submit ofmsgs onComplete).taken = sender.taken := by
  simp only [submit]
  split <;> [rfl; split <;> rfl]

@[simp] theorem stop_taken : sender.stop.taken = sender.taken := by
  simp only [stop]
  split <;> rfl

@[simp] theorem stop_point : sender.stop.point = sender.point := by
  simp only [stop]
  split <;> rfl

@[simp] theorem stop_dpId : sender.stop.dpId = sender.dpId := by
  simp only [stop]
  split <;> rfl

@[simp] theorem stop_ryuDp : sender.stop.ryuDp = sender.ryuDp := by
  simp only [stop]
  split <;> rfl

@[simp] theorem stop_stopped : sender.stop.stopped = true := by
  simp only [stop]
  split <;> [assumption; rfl]

end Fields

end BarrierAwareSender

/-- An entry of `_barrier_waiters`. -/
structure Waiter where
  dpId : DpId
  xid : Xid
  event : EventId
deriving DecidableEq, Repr

/-- What the threads did. -/
inductive Event where
  | registered (worker : WorkerId) (frame : Frame) (dpId : DpId) (xid : Xid)
  | sent (worker : WorkerId) (frame : Frame)
  | replied (dpId : DpId) (xid : Xid)
  | completed (worker : WorkerId) (frame : Frame)
deriving DecidableEq, Repr

/-- The senders, the connections and the registered barriers. -/
structure State where
  workers : WorkerId → BarrierAwareSender
  nextWorker : WorkerId
  isSet : EventId → Bool
  nextEvent : EventId
  barrierWaiters : List Waiter
  senders : DpId → Option WorkerId
  /-- the datapath id of each connection, oldest first -/
  channels : List DpId
  closed : ChannelId → Bool
  /-- barrier requests on a channel that the switch has not answered -/
  unanswered : List (ChannelId × Xid)
  /-- calls of `submit_to_sender` that hold a sender and have not called its `submit` -/
  submitting : List (WorkerId × List Ofmsg × Bool)
  /-- calls of `stop_sender` that have cancelled the waiters and not yet stopped
  the sender, with the connection whose disconnect made the call -/
  stopping : List (ChannelId × DpId)
  history : List Event

namespace State

/-- No datapath is connected. -/
def initial : State where
  workers := fun _ => .new 0 0
  nextWorker := 0
  isSet := fun _ => false
  nextEvent := 0
  barrierWaiters := []
  senders := fun _ => none
  channels := []
  closed := fun _ => false
  unanswered := []
  submitting := []
  stopping := []
  history := []

/-- The state of a sender is set. -/
def setWorker (s : State) (w : WorkerId) (sender : BarrierAwareSender) : State :=
  { s with workers := Function.update s.workers w sender }

/-- The worker moves to another point of its code. -/
def goto (s : State) (w : WorkerId) (point : Point) : State :=
  s.setWorker w { s.workers w with point := point }

/-- An event is noted. -/
def record (s : State) (event : Event) : State := { s with history := event :: s.history }

/-! ## The barrier registry of the manager -/

/-- Register a fresh event under `(dp_id, xid)`; the state's `nextEvent` is the
event returned. -/
def registerBarrier (s : State) (dpId : DpId) (xid : Xid) : State :=
  { s with
    barrierWaiters := ⟨dpId, xid, s.nextEvent⟩ ::
      s.barrierWaiters.filter fun waiter => !(waiter.dpId == dpId && waiter.xid == xid)
    nextEvent := s.nextEvent + 1 }

/-- Remove the waiter of `(dp_id, xid)` without signalling it. -/
def discardBarrier (s : State) (dpId : DpId) (xid : Xid) : State :=
  { s with
    barrierWaiters :=
      s.barrierWaiters.filter fun waiter => !(waiter.dpId == dpId && waiter.xid == xid) }

/-- Set the events of the given waiters. -/
def signal (s : State) (waiters : List Waiter) : State :=
  { s with isSet := fun event => s.isSet event || waiters.any (·.event == event) }

/-- Pop the waiter of `(dp_id, xid)` and set its event. -/
def completeBarrier (s : State) (dpId : DpId) (xid : Xid) : State :=
  (s.discardBarrier dpId xid).signal
    (s.barrierWaiters.filter fun waiter => waiter.dpId == dpId && waiter.xid == xid)

/-- Pop every waiter of the datapath id and set their events. -/
def cancelBarriers (s : State) (dpId : DpId) : State :=
  ({ s with barrierWaiters := s.barrierWaiters.filter fun waiter => !(waiter.dpId == dpId) }).signal
    (s.barrierWaiters.filter fun waiter => waiter.dpId == dpId)

/-! ## The senders of the manager -/

/-- Start a sender bound to the connection and store it under the datapath id. -/
def newSender (s : State) (ryuDp : ChannelId) (dpId : DpId) : State :=
  { s.setWorker s.nextWorker (.new ryuDp dpId) with
    nextWorker := s.nextWorker + 1
    senders := Function.update s.senders dpId (some s.nextWorker) }

/-- Hand the batch to the sender of the datapath id: the part of
`submit_to_sender` under the lock. -/
def submitToSender (s : State) (ryuDp : ChannelId) (dpId : DpId) (ofmsgs : List Ofmsg)
    (onComplete : Bool) : State :=
  if ofmsgs.isEmpty && !onComplete then s
  else
    match s.senders dpId with
    | none =>
        { s.newSender ryuDp dpId with submitting := (s.nextWorker, ofmsgs, onComplete) :: s.submitting }
    | some w =>
        if (s.workers w).ryuDp = ryuDp then
          { s with submitting := (w, ofmsgs, onComplete) :: s.submitting }
        else
          { (s.setWorker w (s.workers w).stop).newSender ryuDp dpId with
            submitting := (s.nextWorker, ofmsgs, onComplete) :: s.submitting }

/-- Pop the sender of the datapath id and stop it: the rest of `stop_sender`
after the cancel. -/
def popAndStop (s : State) (dpId : DpId) : State :=
  match s.senders dpId with
  | none => s
  | some w =>
      { s.setWorker w (s.workers w).stop with senders := Function.update s.senders dpId none }

end State

/-! ## The steps -/

/-- The steps of the threads, and what happens to connections. -/
inductive Action where
  /-- a switch connects: a new `ryu_dp` with this datapath id -/
  | connect (dpId : DpId)
  /-- `submit_to_sender` up to the call of the sender's `submit` -/
  | submit (ryuDp : ChannelId) (ofmsgs : List Ofmsg) (onComplete : Bool)
  /-- the call of the sender's `submit` -/
  | enqueue (index : Nat)
  /-- the worker takes an item from its queue -/
  | get (w : WorkerId)
  /-- the worker checks the stop flag at the head of the loop -/
  | check (w : WorkerId)
  /-- `send_msg` of a message that is not a barrier -/
  | send (w : WorkerId)
  /-- `set_xid` of a barrier and `register_barrier` -/
  | register (w : WorkerId) (xid : Xid)
  /-- `send_msg` of a barrier -/
  | sendBarrier (w : WorkerId)
  /-- `event.wait` returns true -/
  | wake (w : WorkerId)
  /-- `event.wait` times out and the channel is closed -/
  | timeout (w : WorkerId)
  /-- the `finally` clause of `_send_barrier` and its return -/
  | unwind (w : WorkerId)
  /-- the batch is drained: `on_complete`, and back to the queue -/
  | finish (w : WorkerId)
  /-- `set_xid` or `send_msg` raises -/
  | raise (w : WorkerId)
  /-- the reply to a barrier request arrives on the connection -/
  | reply (ryuDp : ChannelId) (xid : Xid)
  /-- `cancel_barriers` -/
  | cancelBarriers (dpId : DpId)
  /-- the connection is lost, or dropped by `send_flows`: `stop_sender` up to the cancel -/
  | disconnect (ryuDp : ChannelId)
  /-- the rest of a call of `stop_sender` -/
  | stopSender (index : Nat)
deriving DecidableEq, Repr

namespace State

/-- `_queue.get`, and the barrier that `_run` appends when a callback waits for it. -/
def get (s : State) (w : WorkerId) : Option State :=
  let sender := s.workers w
  match sender.point, sender.queue with
  | .get, .stopSentinel :: queue =>
      some (s.setWorker w { sender with queue := queue, point := .exited })
  | .get, .batch ofmsgs onComplete :: queue =>
      let batch := if onComplete && !endsWithBarrier ofmsgs then ofmsgs ++ [.barrierRequest]
        else ofmsgs
      some (s.setWorker w
        { sender with
          queue := queue
          point := .loop ⟨sender.taken, batch, 0, onComplete⟩
          taken := sender.taken + 1 })
  | _, _ => none

/-- The worker leaves `_send_batch` with false when the stop flag is set. -/
def check (s : State) (w : WorkerId) : Option State :=
  match (s.workers w).point with
  | .loop frame =>
      if frame.next < frame.batch.length then
        some (s.goto w (if (s.workers w).stopped then .exited else .checked frame))
      else none
  | _ => none

/-- `send_msg` of a message that is not a barrier. -/
def send (s : State) (w : WorkerId) : Option State :=
  match (s.workers w).point with
  | .checked frame =>
      match frame.current with
      | some (.message _) => some ((s.goto w (.loop frame.advance)).record (.sent w frame))
      | _ => none
  | _ => none

/-- A barrier gets its transaction id and is registered. -/
def register (s : State) (w : WorkerId) (xid : Xid) : Option State :=
  match (s.workers w).point with
  | .checked frame =>
      if frame.current = some .barrierRequest then
        let dpId := (s.workers w).dpId
        some (((s.registerBarrier dpId xid).goto w (.registered frame xid s.nextEvent)).record
          (.registered w frame dpId xid))
      else none
  | _ => none

/-- `send_msg` of the barrier. -/
def sendBarrier (s : State) (w : WorkerId) : Option State :=
  match (s.workers w).point with
  | .registered frame xid event =>
      let ryuDp := (s.workers w).ryuDp
      some ({ (s.goto w (.waiting frame xid event)).record (.sent w frame) with
        unanswered := if s.closed ryuDp then s.unanswered else (ryuDp, xid) :: s.unanswered })
  | _ => none

/-- The wait for the reply ends. -/
def wake (s : State) (w : WorkerId) : Option State :=
  match (s.workers w).point with
  | .waiting frame xid event =>
      if s.isSet event then some (s.goto w (.waited frame xid true)) else none
  | _ => none

/-- The wait for the reply times out. -/
def timeout (s : State) (w : WorkerId) : Option State :=
  match (s.workers w).point with
  | .waiting frame xid event =>
      if s.isSet event then none
      else some { s.goto w (.waited frame xid false) with
        closed := Function.update s.closed (s.workers w).ryuDp true }
  | _ => none

/-- `_send_barrier` returns. -/
def unwind (s : State) (w : WorkerId) : Option State :=
  match (s.workers w).point with
  | .waited frame xid acked =>
      some ((s.discardBarrier (s.workers w).dpId xid).goto w
        (if acked then .loop frame.advance else .exited))
  | _ => none

/-- The batch has been sent. -/
def finish (s : State) (w : WorkerId) : Option State :=
  match (s.workers w).point with
  | .loop frame =>
      if frame.next < frame.batch.length then none
      else if frame.onComplete then some ((s.goto w .get).record (.completed w frame))
      else some (s.goto w .get)
  | _ => none

/-- An exception out of `set_xid` or `send_msg` ends the worker; out of the
`send_msg` of a barrier it passes the `finally` clause first. -/
def raise (s : State) (w : WorkerId) : Option State :=
  match (s.workers w).point with
  | .checked _ => some (s.goto w .exited)
  | .registered _ xid _ => some ((s.discardBarrier (s.workers w).dpId xid).goto w .exited)
  | _ => none

/-- `barrier_reply_handler`. -/
def reply (s : State) (ryuDp : ChannelId) (xid : Xid) : Option State :=
  match s.channels[ryuDp]? with
  | some dpId =>
      if (ryuDp, xid) ∈ s.unanswered then
        some ({ (s.completeBarrier dpId xid).record (.replied dpId xid) with
          unanswered := s.unanswered.erase (ryuDp, xid) })
      else none
  | none => none

/-- A step; `none` when the thread is elsewhere. -/
def step (s : State) : Action → Option State
  | .connect dpId => some { s with channels := s.channels ++ [dpId] }
  | .submit ryuDp ofmsgs onComplete =>
      (s.channels[ryuDp]?).map fun dpId => s.submitToSender ryuDp dpId ofmsgs onComplete
  | .enqueue index =>
      (s.submitting[index]?).map fun (w, ofmsgs, onComplete) =>
        { s.setWorker w ((s.workers w).submit ofmsgs onComplete) with
          submitting := s.submitting.eraseIdx index }
  | .get w => s.get w
  | .check w => s.check w
  | .send w => s.send w
  | .register w xid => s.register w xid
  | .sendBarrier w => s.sendBarrier w
  | .wake w => s.wake w
  | .timeout w => s.timeout w
  | .unwind w => s.unwind w
  | .finish w => s.finish w
  | .raise w => s.raise w
  | .reply ryuDp xid => s.reply ryuDp xid
  | .cancelBarriers dpId => some (s.cancelBarriers dpId)
  | .disconnect ryuDp =>
      (s.channels[ryuDp]?).map fun dpId =>
        { s.cancelBarriers dpId with
          closed := Function.update s.closed ryuDp true
          stopping := (ryuDp, dpId) :: s.stopping }
  | .stopSender index =>
      (s.stopping[index]?).map fun (_, dpId) =>
        { s.popAndStop dpId with stopping := s.stopping.eraseIdx index }

/-! ## What each step does -/

section Cases

variable {s s' : State} {w : WorkerId}

@[simp] theorem goto_workers_self (s : State) (w : WorkerId) (point : Point) :
    (s.goto w point).workers w = { s.workers w with point := point } := by
  simp [goto, setWorker]

@[simp] theorem setWorker_self (s : State) (w : WorkerId) (sender : BarrierAwareSender) :
    (s.setWorker w sender).workers w = sender := by
  simp [setWorker]

theorem setWorker_other (s : State) {w w' : WorkerId} (other : w' ≠ w)
    (sender : BarrierAwareSender) : (s.setWorker w sender).workers w' = s.workers w' := by
  simp [setWorker, other]

theorem get_cases (taken : s.get w = some s') :
    (s.workers w).point = .get ∧
      ((∃ queue, (s.workers w).queue = .stopSentinel :: queue ∧
          s' = s.setWorker w { s.workers w with queue := queue, point := .exited }) ∨
        ∃ ofmsgs onComplete queue, (s.workers w).queue = .batch ofmsgs onComplete :: queue ∧
          s' = s.setWorker w
            { s.workers w with
              queue := queue
              point := .loop ⟨(s.workers w).taken,
                if onComplete && !endsWithBarrier ofmsgs then ofmsgs ++ [.barrierRequest]
                else ofmsgs, 0, onComplete⟩
              taken := (s.workers w).taken + 1 }) := by
  simp only [get] at taken
  split at taken
  next queue point items =>
    cases taken
    exact ⟨point, .inl ⟨queue, items, rfl⟩⟩
  next ofmsgs onComplete queue point items =>
    cases taken
    exact ⟨point, .inr ⟨ofmsgs, onComplete, queue, items, rfl⟩⟩
  next => cases taken

theorem check_cases (taken : s.check w = some s') :
    ∃ frame, (s.workers w).point = .loop frame ∧ frame.next < frame.batch.length ∧
      s' = s.goto w (if (s.workers w).stopped then .exited else .checked frame) := by
  unfold check at taken
  split at taken
  next frame point =>
    split at taken
    next inside =>
      cases taken
      exact ⟨frame, point, inside, rfl⟩
    next => cases taken
  next => cases taken

theorem send_cases (taken : s.send w = some s') :
    ∃ frame payload, (s.workers w).point = .checked frame ∧
      frame.current = some (.message payload) ∧
      s' = (s.goto w (.loop frame.advance)).record (.sent w frame) := by
  unfold send at taken
  split at taken
  next frame point =>
    split at taken
    next payload current =>
      cases taken
      exact ⟨frame, payload, point, current, rfl⟩
    next => cases taken
  next => cases taken

theorem register_cases {xid : Xid} (taken : s.register w xid = some s') :
    ∃ frame, (s.workers w).point = .checked frame ∧ frame.current = some .barrierRequest ∧
      s' = ((s.registerBarrier (s.workers w).dpId xid).goto w
        (.registered frame xid s.nextEvent)).record
          (.registered w frame (s.workers w).dpId xid) := by
  unfold register at taken
  split at taken
  next frame point =>
    split at taken
    next current =>
      cases taken
      exact ⟨frame, point, current, rfl⟩
    next => cases taken
  next => cases taken

theorem sendBarrier_cases (taken : s.sendBarrier w = some s') :
    ∃ frame xid event, (s.workers w).point = .registered frame xid event ∧
      s' = { (s.goto w (.waiting frame xid event)).record (.sent w frame) with
        unanswered := if s.closed (s.workers w).ryuDp then s.unanswered
          else ((s.workers w).ryuDp, xid) :: s.unanswered } := by
  unfold sendBarrier at taken
  split at taken
  next frame xid event point =>
    cases taken
    exact ⟨frame, xid, event, point, rfl⟩
  next => cases taken

theorem wake_cases (taken : s.wake w = some s') :
    ∃ frame xid event, (s.workers w).point = .waiting frame xid event ∧
      s.isSet event = true ∧ s' = s.goto w (.waited frame xid true) := by
  unfold wake at taken
  split at taken
  next frame xid event point =>
    split at taken
    next set =>
      cases taken
      exact ⟨frame, xid, event, point, set, rfl⟩
    next => cases taken
  next => cases taken

theorem timeout_cases (taken : s.timeout w = some s') :
    ∃ frame xid event, (s.workers w).point = .waiting frame xid event ∧
      s.isSet event = false ∧
      s' = { s.goto w (.waited frame xid false) with
        closed := Function.update s.closed (s.workers w).ryuDp true } := by
  unfold timeout at taken
  split at taken
  next frame xid event point =>
    split at taken
    next => cases taken
    next unset =>
      cases taken
      exact ⟨frame, xid, event, point, by simpa using unset, rfl⟩
  next => cases taken

theorem unwind_cases (taken : s.unwind w = some s') :
    ∃ frame xid acked, (s.workers w).point = .waited frame xid acked ∧
      s' = (s.discardBarrier (s.workers w).dpId xid).goto w
        (if acked then .loop frame.advance else .exited) := by
  unfold unwind at taken
  split at taken
  next frame xid acked point =>
    cases taken
    exact ⟨frame, xid, acked, point, rfl⟩
  next => cases taken

theorem finish_cases (taken : s.finish w = some s') :
    ∃ frame, (s.workers w).point = .loop frame ∧ frame.batch.length ≤ frame.next ∧
      (frame.onComplete = true ∧ s' = (s.goto w .get).record (.completed w frame) ∨
        frame.onComplete = false ∧ s' = s.goto w .get) := by
  unfold finish at taken
  split at taken
  next frame point =>
    split at taken
    next => cases taken
    next outside =>
      refine ⟨frame, point, Nat.not_lt.mp outside, ?_⟩
      split at taken
      next callback =>
        cases taken
        exact .inl ⟨callback, rfl⟩
      next callback =>
        cases taken
        exact .inr ⟨by simpa using callback, rfl⟩
  next => cases taken

theorem raise_cases (taken : s.raise w = some s') :
    (∃ frame, (s.workers w).point = .checked frame ∧ s' = s.goto w .exited) ∨
      ∃ frame xid event, (s.workers w).point = .registered frame xid event ∧
        s' = (s.discardBarrier (s.workers w).dpId xid).goto w .exited := by
  unfold raise at taken
  split at taken
  next frame point =>
    cases taken
    exact .inl ⟨frame, point, rfl⟩
  next frame xid event point =>
    cases taken
    exact .inr ⟨frame, xid, event, point, rfl⟩
  next => cases taken

theorem reply_cases {ryuDp : ChannelId} {xid : Xid} (taken : s.reply ryuDp xid = some s') :
    ∃ dpId, s.channels[ryuDp]? = some dpId ∧ (ryuDp, xid) ∈ s.unanswered ∧
      s' = { (s.completeBarrier dpId xid).record (.replied dpId xid) with
        unanswered := s.unanswered.erase (ryuDp, xid) } := by
  unfold reply at taken
  split at taken
  next dpId channel =>
    split at taken
    next member =>
      cases taken
      exact ⟨dpId, channel, member, rfl⟩
    next => cases taken
  next => cases taken

end Cases

end State

end Faucet.Send
