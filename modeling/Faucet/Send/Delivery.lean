import Faucet.Send.Lifetime

/-!
# No sender dies silently

When exceptions are raised only for a sender that is stopped or has lost its channel,
no worker exits for another reason, the sender that a batch for an open channel is handed
to is there, and the batch is sent after so many steps of that worker
(`neverSilent_of_raisesHarmless`).
-/

set_option autoImplicit false

namespace Faucet.Send

open TransitionSystem

variable {s s' : State} {action : Action} {w : WorkerId}

/-! ## What the manager relies on -/

/-- Every message of the worker's batch of this number has been sent. -/
def AllSent (s : State) (w : WorkerId) (number : Nat) (ofmsgs : List Ofmsg) (onComplete : Bool) :
    Prop :=
  ∀ i < (prepared ofmsgs onComplete).length,
    .sent w ⟨number, prepared ofmsgs onComplete, i, onComplete⟩ ∈ s.history

/-- The steps that a batch still takes once a message of it is at hand. -/
def Frame.rest (frame : Frame) : Nat := 5 * (frame.batch.length - frame.next - 1)

/-- The steps that the worker takes at most until it is back at its queue. -/
def Point.work : Point → Nat
  | .get | .exited => 0
  | .loop frame => 5 * (frame.batch.length - frame.next) + 1
  | .checked frame => frame.rest + 5
  | .registered frame _ _ => frame.rest + 4
  | .waiting frame _ _ => frame.rest + 3
  | .waited frame _ _ => frame.rest + 2

/-- The steps that an item of the queue takes at most. -/
def QueueItem.work : QueueItem → Nat
  | .batch ofmsgs _ => 5 * (ofmsgs.length + 1) + 2
  | .stopSentinel => 1

/-- The steps that the worker takes at most until its batch of this number is drained. -/
def BarrierAwareSender.left (sender : BarrierAwareSender) (number : Nat) : Nat :=
  if number + 1 < sender.taken then 0
  else sender.point.work +
    ((sender.queue.take (number + 1 - sender.taken)).map QueueItem.work).sum

/-- What the manager can rely on. -/
structure Delivers (s : State) : Prop where
  /-- The sender that a batch for an open channel is handed to is there to take it. -/
  alive : ∀ dpId w, s.senders dpId = some w → s.closed (s.workers w).ryuDp = false →
    (s.workers w).point ≠ .exited ∧ (s.workers w).stopped = false
  /-- A worker that has something to do can do it. -/
  moves : ∀ w, (s.workers w).point ≠ .exited →
    ((s.workers w).point = .get → (s.workers w).queue ≠ []) →
    ∃ action, action.worker? = some w ∧ action ≠ .raise w ∧ (s.step action).isSome = true
  /-- After so many steps of the worker a batch in its queue is sent. -/
  sends : ∀ actions finish w index ofmsgs onComplete,
    Allowed State.step RaisesHarmless s actions → exec State.step s actions = some finish →
    (s.workers w).queue[index]? = some (.batch ofmsgs onComplete) →
    (s.workers w).left ((s.workers w).taken + index) ≤
      (actions.filter fun action => action.worker? = some w).length →
    AllSent finish w ((s.workers w).taken + index) ofmsgs onComplete ∨ Released finish w

/-! ## A batch on its way -/

/-- The frame of the worker's batch, and how many of its messages have been sent. -/
def Point.inHand? : Point → Option (Frame × Nat)
  | .get | .exited => none
  | .loop frame | .checked frame | .registered frame _ _ => some (frame, frame.next)
  | .waiting frame _ _ | .waited frame _ _ => some (frame, frame.next + 1)

/-- The batch of this number is in the worker's queue, or the worker is at it and has
sent what comes before its place. -/
inductive Pending (s : State) (w : WorkerId) (number : Nat) (ofmsgs : List Ofmsg)
    (onComplete : Bool) : Prop where
  | queued {index : Nat} (counted : number = (s.workers w).taken + index)
      (item : (s.workers w).queue[index]? = some (.batch ofmsgs onComplete))
  | inHand {next done : Nat} (point : (s.workers w).point.inHand? =
        some (⟨number, prepared ofmsgs onComplete, next, onComplete⟩, done))
      (last : (s.workers w).taken = number + 1)
      (sent : ∀ i < done,
        .sent w ⟨number, prepared ofmsgs onComplete, i, onComplete⟩ ∈ s.history)

theorem length_prepared (ofmsgs : List Ofmsg) (onComplete : Bool) :
    (prepared ofmsgs onComplete).length ≤ ofmsgs.length + 1 := by
  rw [prepared]
  split <;> simp

theorem left_of_last {sender : BarrierAwareSender} {number : Nat}
    (last : sender.taken = number + 1) : sender.left number = sender.point.work := by
  simp [BarrierAwareSender.left, last]

theorem left_of_queued {sender : BarrierAwareSender} {number index : Nat}
    (counted : number = sender.taken + index) : sender.left number =
      sender.point.work + ((sender.queue.take (index + 1)).map QueueItem.work).sum := by
  have later : ¬ number + 1 < sender.taken := by omega
  have ahead : number + 1 - sender.taken = index + 1 := by omega
  rw [BarrierAwareSender.left, if_neg later, ahead]

variable {number : Nat} {ofmsgs : List Ofmsg} {onComplete : Bool}

/-- What is pending takes steps. -/
theorem Pending.left_pos (pending : Pending s w number ofmsgs onComplete) :
    0 < (s.workers w).left number := by
  cases pending with
  | @queued index counted item =>
      rw [left_of_queued counted]
      obtain ⟨inside, itemEq⟩ := List.getElem?_eq_some_iff.mp item
      have member : QueueItem.batch ofmsgs onComplete ∈ (s.workers w).queue.take (index + 1) := by
        rw [← itemEq]
        exact List.mem_take_iff_getElem.mpr ⟨index, by omega, rfl⟩
      have positive := List.sum_pos_iff_exists_pos_nat.mpr
        ⟨_, List.mem_map_of_mem (f := QueueItem.work) member, Nat.succ_pos _⟩
      omega
  | inHand point last =>
      rw [left_of_last last]
      generalize (s.workers w).point = place at point
      cases place with
      | get | exited => cases point
      | loop | checked | registered | waiting | waited => exact Nat.succ_pos _

/-- A step that keeps the queue, to a point with less work, with one more message sent if
the place in the batch says so. -/
theorem pending_onwards {point : Point} (pending : Pending s w number ofmsgs onComplete)
    (later : Later s s') (current : s'.workers w = { s.workers w with point := point })
    (less : point.work < (s.workers w).point.work)
    (hand : ∀ frame done, (s.workers w).point.inHand? = some (frame, done) →
      ∃ next done', point.inHand? = some ({ frame with next := next }, done') ∧
        ∀ i < done', i < done ∨ .sent w { frame with next := i } ∈ s'.history) :
    Pending s' w number ofmsgs onComplete ∧
      (s'.workers w).left number < (s.workers w).left number := by
  cases pending with
  | @queued index counted item =>
      have counted' : number = (s'.workers w).taken + index := by rw [current]; exact counted
      refine ⟨.queued counted' (by rw [current]; exact item), ?_⟩
      rw [left_of_queued counted, left_of_queued counted', current]
      exact Nat.add_lt_add_right less _
  | @inHand next done place last sent =>
      obtain ⟨next', done', place', sent'⟩ := hand _ _ place
      have last' : (s'.workers w).taken = number + 1 := by rw [current]; exact last
      refine ⟨.inHand (by rw [current]; exact place') last' fun i before => ?_, ?_⟩
      · rcases sent' i before with earlier | new
        · exact later.history _ (sent i earlier)
        · exact new
      · rw [left_of_last last, left_of_last last', current]
        exact less

/-- A step of the worker brings its batch nearer, if it does not end the worker. -/
theorem pending_of_moves (pending : Pending s w number ofmsgs onComplete) (later : Later s s')
    (moves : Moves s s' action w (s'.workers w)) :
    Pending s' w number ofmsgs onComplete ∧
        (s'.workers w).left number < (s.workers w).left number ∨
      AllSent s' w number ofmsgs onComplete ∨ (s'.workers w).point = .exited := by
  obtain ⟨sender, current⟩ : ∃ sender, s'.workers w = sender := ⟨_, rfl⟩
  rw [current] at moves
  cases moves with
  | sentinel | leave | lost | raise => exact .inr (.inr (by rw [current]))
  | @take ofmsgs' onComplete' queue point items =>
      refine .inl ?_
      have short := length_prepared ofmsgs' onComplete'
      cases pending with
      | inHand place =>
          rw [point] at place
          cases place
      | @queued index counted item =>
          rw [items] at item
          cases index with
          | zero =>
              cases item
              have last : (s'.workers w).taken = number + 1 := by rw [current, counted]
              have place : (s'.workers w).point.inHand? =
                  some (⟨number, prepared ofmsgs onComplete, 0, onComplete⟩, 0) := by
                rw [current, counted]
                rfl
              refine ⟨.inHand place last fun i before => (Nat.not_lt_zero i before).elim, ?_⟩
              rw [left_of_last last, left_of_queued counted, current, items, point]
              simp only [Point.work, List.take_succ_cons, List.take_zero, List.map_cons,
                List.map_nil, List.sum_cons, List.sum_nil, QueueItem.work]
              omega
          | succ index =>
              have counted' : number = (s'.workers w).taken + index := by
                rw [current, counted]
                exact Nat.add_right_comm .. |>.trans (Nat.add_assoc ..) |>.symm
              refine ⟨.queued counted' (by rw [current]; exact item), ?_⟩
              rw [left_of_queued counted', left_of_queued counted, current, items, point]
              simp only [Point.work, List.take_succ_cons, List.map_cons, List.sum_cons,
                QueueItem.work]
              omega
  | check point inside =>
      refine .inl (pending_onwards pending later current ?_ fun frame done place => ?_)
      · simp only [point, Point.work, Frame.rest]
        omega
      · rw [point] at place
        cases place
        exact ⟨_, _, rfl, fun _ => .inl⟩
  | send point sent =>
      refine .inl (pending_onwards pending later current ?_ fun frame done place => ?_)
      · simp only [point, Point.work, Frame.rest, Frame.advance]
        omega
      · rw [point] at place
        cases place
        refine ⟨_, _, rfl, fun i before => ?_⟩
        rcases Nat.lt_succ_iff_lt_or_eq.mp before with earlier | here
        · exact .inl earlier
        · exact .inr (here ▸ sent)
  | register point =>
      refine .inl (pending_onwards pending later current ?_ fun frame done place => ?_)
      · simp only [point, Point.work]
        omega
      · rw [point] at place
        cases place
        exact ⟨_, _, rfl, fun _ => .inl⟩
  | sendBarrier point sent =>
      refine .inl (pending_onwards pending later current ?_ fun frame done place => ?_)
      · simp only [point, Point.work]
        omega
      · rw [point] at place
        cases place
        refine ⟨_, _, rfl, fun i before => ?_⟩
        rcases Nat.lt_succ_iff_lt_or_eq.mp before with earlier | here
        · exact .inl earlier
        · exact .inr (here ▸ sent)
  | wait point closed =>
      refine .inl (pending_onwards pending later current ?_ fun frame done place => ?_)
      · simp only [point, Point.work]
        omega
      · rw [point] at place
        cases place
        exact ⟨_, _, rfl, fun _ => .inl⟩
  | unwind point =>
      refine .inl (pending_onwards pending later current ?_ fun frame done place => ?_)
      · simp only [point, Point.work, Frame.rest, Frame.advance]
        omega
      · rw [point] at place
        cases place
        exact ⟨_, _, rfl, fun _ => .inl⟩
  | finish point outside =>
      cases pending with
      | @queued index counted item =>
          have counted' : number = (s'.workers w).taken + index := by rw [current]; exact counted
          refine .inl ⟨.queued counted' (by rw [current]; exact item), ?_⟩
          rw [left_of_queued counted, left_of_queued counted', current, point]
          simp only [Point.work]
          omega
      | inHand place last sent =>
          rw [point] at place
          cases place
          exact .inr (.inl fun i before =>
            later.history _ (sent i (Nat.lt_of_lt_of_le before outside)))

/-- What other threads do to a worker comes after what it has in its queue. -/
theorem handled_queue {sender sender' : BarrierAwareSender} (handled : Handled sender sender') :
    sender'.point = sender.point ∧ sender'.taken = sender.taken ∧
      ∃ more, sender'.queue = sender.queue ++ more := by
  cases handled with
  | same => exact ⟨rfl, rfl, [], (List.append_nil _).symm⟩
  | stop =>
      rw [BarrierAwareSender.stop]
      split
      · exact ⟨rfl, rfl, [], (List.append_nil _).symm⟩
      · exact ⟨rfl, rfl, _, rfl⟩
  | submit ofmsgs onComplete =>
      rw [BarrierAwareSender.submit]
      split
      · exact ⟨rfl, rfl, [], (List.append_nil _).symm⟩
      · split
        · exact ⟨rfl, rfl, [], (List.append_nil _).symm⟩
        · exact ⟨rfl, rfl, _, rfl⟩

theorem pending_of_handled (pending : Pending s w number ofmsgs onComplete) (later : Later s s')
    (handled : Handled (s.workers w) (s'.workers w)) : Pending s' w number ofmsgs onComplete ∧
      (s'.workers w).left number = (s.workers w).left number := by
  obtain ⟨samePoint, sameTaken, more, queue⟩ := handled_queue handled
  cases pending with
  | @queued index counted item =>
      have inside := (List.getElem?_eq_some_iff.mp item).1
      have counted' : number = (s'.workers w).taken + index := by rw [sameTaken]; exact counted
      refine ⟨.queued counted' ?_, ?_⟩
      · rw [queue, List.getElem?_append_left inside]
        exact item
      · rw [left_of_queued counted, left_of_queued counted', samePoint, queue,
          List.take_append_of_le_length inside]
  | inHand place last sent =>
      have last' : (s'.workers w).taken = number + 1 := by rw [sameTaken]; exact last
      refine ⟨.inHand (by rw [samePoint]; exact place) last' fun i before => ?_, ?_⟩
      · exact later.history _ (sent i before)
      · rw [left_of_last last, left_of_last last', samePoint]

/-- What has been sent has been sent, and a stopped worker is not started again. -/
theorem settled_step (inside : w < s.nextWorker) (taken : s.step action = some s')
    (settled : AllSent s w number ofmsgs onComplete ∨ Released s w) :
    AllSent s' w number ofmsgs onComplete ∨ Released s' w := by
  have later := later_of_step taken
  refine settled.imp (fun sent i before => later.history _ (sent i before)) fun released => ?_
  by_cases own : action.worker? = some w
  · exact released_of_moves later (moves_of_step own taken) released
  · exact released_of_handled later (handled_of_step own inside taken) released

/-! ## Every run -/

/-- What holds in every state that harmless exceptions lead to. -/
structure LifetimeInvariant (s : State) : Prop where
  roster : Roster s
  worker : ∀ w, WorkerOk s w

namespace LifetimeInvariant

theorem initial : LifetimeInvariant State.initial where
  roster := ⟨fun _ _ => rfl, nofun, nofun⟩
  worker _ := workerOk_new rfl

theorem step (inv : LifetimeInvariant s) (harmless : RaisesHarmless s action)
    (taken : s.step action = some s') : LifetimeInvariant s' := by
  refine ⟨inv.roster.step taken, fun w => ?_⟩
  have later := later_of_step taken
  by_cases own : action.worker? = some w
  · exact workerOk_of_moves (inv.worker w) later harmless (moves_of_step own taken)
  · by_cases inside : w < s.nextWorker
    · exact workerOk_of_handled (inv.worker w) later (handled_of_step own inside taken)
    · obtain ⟨ryuDp, dpId, fresh⟩ := inv.roster.fresh_step taken (Nat.not_lt.mp inside)
      exact workerOk_new fresh

/-- The sender that the manager keeps for an open channel has not exited. -/
theorem alive (inv : LifetimeInvariant s) {dpId : DpId} (registered : s.senders dpId = some w)
    (opened : s.closed (s.workers w).ryuDp = false) :
    (s.workers w).point ≠ .exited ∧ (s.workers w).stopped = false := by
  have running := (inv.roster.sender dpId w registered).2.2
  refine ⟨fun exited => ?_, running⟩
  rcases (inv.worker w).exited exited with stopped | closed
  · exact Bool.false_ne_true (running.symm.trans stopped)
  · exact Bool.false_ne_true (opened.symm.trans closed)

/-- At every point there is a step to take, but for an empty queue. -/
theorem moves (inv : LifetimeInvariant s) (running : (s.workers w).point ≠ .exited)
    (busy : (s.workers w).point = .get → (s.workers w).queue ≠ []) :
    ∃ action, action.worker? = some w ∧ action ≠ .raise w ∧ (s.step action).isSome = true := by
  cases point : (s.workers w).point with
  | get =>
      refine ⟨.get w, rfl, by simp, ?_⟩
      change (s.get w).isSome = true
      cases items : (s.workers w).queue with
      | nil => exact absurd items (busy point)
      | cons item queue => cases item <;> simp [State.get, point, items]
  | loop frame =>
      by_cases inside : frame.next < frame.batch.length
      · refine ⟨.check w, rfl, by simp, ?_⟩
        simp [State.step, State.check, point, inside]
      · refine ⟨.finish w, rfl, by simp, ?_⟩
        change (s.finish w).isSome = true
        cases callback : frame.onComplete <;> simp [State.finish, point, inside, callback]
  | checked frame =>
      have inside := (inv.worker w).inside frame point
      cases current : frame.batch[frame.next] with
      | barrierRequest =>
          refine ⟨.register w 0, rfl, by simp, ?_⟩
          simp [State.step, State.register, point, Frame.current, inside, current]
      | message payload =>
          refine ⟨.send w, rfl, by simp, ?_⟩
          simp [State.step, State.send, point, Frame.current, inside, current]
  | registered frame xid event =>
      exact ⟨.sendBarrier w, rfl, by simp, by simp [State.step, State.sendBarrier, point]⟩
  | waiting frame xid event =>
      cases set : s.isSet event with
      | true => exact ⟨.wake w, rfl, by simp, by simp [State.step, State.wake, point, set]⟩
      | false => exact ⟨.timeout w, rfl, by simp, by simp [State.step, State.timeout, point, set]⟩
  | waited frame xid acked =>
      exact ⟨.unwind w, rfl, by simp, by simp [State.step, State.unwind, point]⟩
  | exited => exact absurd point running

theorem started (inv : LifetimeInvariant s) (pending : Pending s w number ofmsgs onComplete) :
    w < s.nextWorker := by
  by_contra outside
  have positive := pending.left_pos
  rw [inv.roster.unstarted w (Nat.not_lt.mp outside)] at positive
  simp [BarrierAwareSender.left, BarrierAwareSender.new, Point.work] at positive

/-- One step: the batch is nearer, or sent, or the worker has a reason to stop. -/
theorem pending_step (inv : LifetimeInvariant s) (harmless : RaisesHarmless s action)
    (taken : s.step action = some s') (pending : Pending s w number ofmsgs onComplete) :
    Pending s' w number ofmsgs onComplete ∧
        ((s'.workers w).left number < (s.workers w).left number ∨
          action.worker? ≠ some w ∧ (s'.workers w).left number = (s.workers w).left number) ∨
      AllSent s' w number ofmsgs onComplete ∨ Released s' w := by
  have later := later_of_step taken
  by_cases own : action.worker? = some w
  · rcases pending_of_moves pending later (moves_of_step own taken) with
      ⟨pending, nearer⟩ | sent | exited
    · exact .inl ⟨pending, .inl nearer⟩
    · exact .inr (.inl sent)
    · exact .inr (.inr (((inv.step harmless taken).worker w).exited exited))
  · have inside := inv.started pending
    obtain ⟨pending, same⟩ := pending_of_handled pending later (handled_of_step own inside taken)
    exact .inl ⟨pending, .inr ⟨own, same⟩⟩

/-- A batch that is pending is sent after so many steps of the worker. -/
theorem sends {actions : List Action} {finish : State} (inv : LifetimeInvariant s)
    (allowed : Allowed State.step RaisesHarmless s actions)
    (executed : exec State.step s actions = some finish) (inside : w < s.nextWorker)
    (waits : Pending s w number ofmsgs onComplete ∧ (s.workers w).left number ≤
        (actions.filter fun action => action.worker? = some w).length ∨
      AllSent s w number ofmsgs onComplete ∨ Released s w) :
    AllSent finish w number ofmsgs onComplete ∨ Released finish w := by
  induction actions generalizing s with
  | nil =>
      cases executed
      rcases waits with ⟨pending, none⟩ | settled
      · exact absurd none (Nat.not_le.mpr pending.left_pos)
      · exact settled
  | cons action rest ih =>
      obtain ⟨next, taken, executed⟩ := Option.bind_eq_some_iff.mp executed
      obtain ⟨harmless, allowed⟩ := allowed
      rw [taken] at allowed
      refine ih (inv.step harmless taken) allowed executed
        (Nat.lt_of_lt_of_le inside (nextWorker_step taken)) ?_
      rcases waits with ⟨pending, enough⟩ | settled
      · rcases inv.pending_step harmless taken pending with ⟨pending, steps⟩ | settled
        · refine .inl ⟨pending, ?_⟩
          rw [List.filter_cons] at enough
          rcases steps with nearer | ⟨other, same⟩
          · split at enough
            · rw [List.length_cons] at enough
              omega
            · omega
          · rw [if_neg (by simpa using other)] at enough
            omega
        · exact .inr settled
      · exact .inr (settled_step inside taken settled)

theorem delivers (inv : LifetimeInvariant s) : Delivers s where
  alive _ _ := inv.alive
  moves _ := inv.moves
  sends actions finish w index ofmsgs onComplete allowed executed item enough := by
    have pending : Pending s w ((s.workers w).taken + index) ofmsgs onComplete := .queued rfl item
    exact inv.sends allowed executed (inv.started pending) (.inl ⟨pending, enough⟩)

end LifetimeInvariant

/-- **Senders do not die silently** in runs where exceptions are harmless: a worker has
exited only if it was stopped or its channel closed, and batches for an open channel are
taken and sent. -/
theorem neverSilent_of_raisesHarmless
    (reaches : Reaches State.step RaisesHarmless State.initial s) :
    NeverSilent s ∧ Delivers s := by
  have inv : LifetimeInvariant s :=
    reaches.invariant LifetimeInvariant .initial fun inv harmless taken => inv.step harmless taken
  exact ⟨fun w => (inv.worker w).exited, inv.delivers⟩

/-- A batch is sent, and the next one raises once the connection is lost and the sender
stopped; then the datapath connects again. -/
def healthyRun : List Action :=
  [.connect 1, .submit 0 [.message 7] false, .enqueue 0, .get 0, .check 0, .send 0, .finish 0,
    .submit 0 [.message 8] true, .enqueue 0, .get 0, .check 0, .disconnect 0, .stopSender 0, .raise 0,
    .connect 1, .submit 1 [.message 9] false, .enqueue 0]

theorem neverSilent_healthyRun : ∃ s, exec State.step State.initial healthyRun = some s ∧
    NeverSilent s ∧ Delivers s :=
  ⟨_, rfl, neverSilent_of_raisesHarmless (.of_exec healthyRun ⟨trivial, trivial, trivial, trivial,
    trivial, trivial, trivial, trivial, trivial, trivial, trivial, trivial, trivial, .inl rfl,
    trivial, trivial, trivial, trivial⟩ rfl)⟩

/-- The second message of a batch raises, and a batch that follows is for the dead sender. -/
def crashRun : List Action :=
  [.connect 1, .submit 0 [.message 7, .message 8] false, .enqueue 0, .get 0, .check 0, .send 0,
    .check 0, .raise 0, .submit 0 [.message 9] false, .enqueue 0]

theorem not_neverSilent_of_crash : ¬ ∀ actions s,
    exec State.step State.initial actions = some s → NeverSilent s := by
  intro always
  obtain ⟨s, executed, exited, released⟩ : ∃ s,
      exec State.step State.initial crashRun = some s ∧ (s.workers 0).point = .exited ∧
        ¬ Released s 0 := ⟨_, rfl, by decide, by decide⟩
  exact released (always crashRun s executed 0 exited)

end Faucet.Send
