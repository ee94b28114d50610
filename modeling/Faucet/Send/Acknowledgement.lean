import Faucet.Send.Registry

/-!
# What a batch's callback acknowledges

`AckSafe` says of a history that a message was sent, and a callback ran, only
after every barrier before it in its batch had been answered: the reply to the
xid of its waiter was delivered on the datapath id after the waiter was
registered.

`cancel_barriers` sets the event of a waiter exactly as a reply does, and
`_send_barrier` returns true in both cases. The worker then runs the callback,
or sends the next message when the stop flag is not yet set
(`not_ackSafe_of_disconnect`). The runs in which no cancel meets a barrier that
its worker will pass are safe (`ackSafe_of_cancelsHarmless`).
-/

set_option autoImplicit false

namespace Faucet.Send

open TransitionSystem

/-! ## Statements about histories -/

/-- The barrier at an index of the worker's batch was answered: a reply to the
xid of its waiter was delivered after the waiter was registered. -/
def Answered (history : List Event) (w : WorkerId) (frame : Frame) (index : Nat) : Prop :=
  ∃ dpId xid after before, history = after ++ .replied dpId xid :: before ∧
    .registered w { frame with next := index } dpId xid ∈ before

/-- Every barrier of the batch before the frame's index was answered. -/
def AllAnswered (history : List Event) (w : WorkerId) (frame : Frame) : Prop :=
  ∀ index < frame.next, frame.batch[index]? = some .barrierRequest →
    Answered history w frame index

/-- What must have happened before an event. A callback runs at the end of a
batch that ends with a barrier. -/
def EventSafe (earlier : List Event) : Event → Prop
  | .sent w frame => AllAnswered earlier w frame
  | .completed w frame => AllAnswered earlier w frame ∧ frame.next = frame.batch.length ∧
      endsWithBarrier frame.batch = true
  | .registered .. | .replied .. => True

/-- Every event of the history happened after what must happen before it. -/
def AckSafe : List Event → Prop
  | [] => True
  | event :: earlier => EventSafe earlier event ∧ AckSafe earlier

theorem Answered.cons {history : List Event} {w : WorkerId} {frame : Frame} {index : Nat}
    (event : Event) (answered : Answered history w frame index) :
    Answered (event :: history) w frame index := by
  obtain ⟨dpId, xid, after, before, rfl, registered⟩ := answered
  exact ⟨dpId, xid, event :: after, before, rfl, registered⟩

theorem Answered.append {history : List Event} {w : WorkerId} {frame : Frame} {index : Nat}
    (answered : Answered history w frame index) :
    ∀ recent : List Event, Answered (recent ++ history) w frame index
  | [] => answered
  | event :: recent => (answered.append recent).cons event

theorem AllAnswered.append {history : List Event} {w : WorkerId} {frame : Frame}
    (answered : AllAnswered history w frame) (recent : List Event) :
    AllAnswered (recent ++ history) w frame :=
  fun index before barrier => (answered index before barrier).append recent

theorem allAnswered_start (history : List Event) (w : WorkerId) (number : Nat)
    (batch : List Ofmsg) (onComplete : Bool) :
    AllAnswered history w ⟨number, batch, 0, onComplete⟩ :=
  fun _ before => absurd before (Nat.not_lt_zero _)

/-- Past a message that is not a barrier nothing more has to be answered. -/
theorem AllAnswered.advance_of_message {history : List Event} {w : WorkerId} {frame : Frame}
    (answered : AllAnswered history w frame) (message : frame.current ≠ some .barrierRequest) :
    AllAnswered history w frame.advance := by
  intro index before barrier
  rcases Nat.lt_succ_iff_lt_or_eq.mp before with earlier | rfl
  · exact answered index earlier barrier
  · exact absurd barrier message

/-- Past an answered barrier every barrier so far is answered. -/
theorem AllAnswered.advance_of_answered {history : List Event} {w : WorkerId} {frame : Frame}
    (answered : AllAnswered history w frame) (last : Answered history w frame frame.next) :
    AllAnswered history w frame.advance := by
  intro index before barrier
  rcases Nat.lt_succ_iff_lt_or_eq.mp before with earlier | rfl
  · exact answered index earlier barrier
  · exact last

/-! ## The condition on cancels -/

/-- Standing at the head of the loop with this frame, the worker neither sends
another message of the batch nor runs its callback. -/
def Unwinds (sender : BarrierAwareSender) (frame : Frame) : Prop :=
  if frame.next < frame.batch.length then sender.stopped = true else frame.onComplete = false

instance (sender : BarrierAwareSender) (frame : Frame) : Decidable (Unwinds sender frame) := by
  unfold Unwinds
  infer_instance

/-- Every worker with a waiter registered under the datapath id unwinds after
its barrier. -/
def HarmlessCancel (s : State) (dpId : DpId) : Prop :=
  ∀ w frame xid event, (s.workers w).point.barrier? = some (frame, xid, event) →
    (s.workers w).dpId = dpId → ⟨dpId, xid, event⟩ ∈ s.barrierWaiters →
      Unwinds (s.workers w) frame.advance

/-- Barriers are cancelled only where that is harmless. -/
def CancelsHarmless (s : State) : Action → Prop
  | .cancelBarriers dpId => HarmlessCancel s dpId
  | .disconnect ryuDp => ∀ dpId, s.channels[ryuDp]? = some dpId → HarmlessCancel s dpId
  | _ => True

/-! ## The invariant -/

/-- What is known of a worker from where it stands. -/
def Progress (history : List Event) (isSet : EventId → Bool) (w : WorkerId)
    (sender : BarrierAwareSender) : Prop :=
  match sender.point with
  | .loop frame => AllAnswered history w frame ∨ Unwinds sender frame
  | .checked frame => AllAnswered history w frame
  | .registered frame _ event | .waiting frame _ event => AllAnswered history w frame ∧
      (isSet event = true → Answered history w frame frame.next ∨ Unwinds sender frame.advance)
  | .waited frame _ true => AllAnswered history w frame ∧
      (Answered history w frame frame.next ∨ Unwinds sender frame.advance)
  | .waited _ _ false | .get | .exited => True

/-- The frame a worker stands at stays inside its batch, and the batch of a
callback ends with a barrier. -/
def FrameOk (frame : Frame) : Prop :=
  frame.next ≤ frame.batch.length ∧ (frame.onComplete = true → endsWithBarrier frame.batch = true)

/-- The frame at which a worker stands at the head of the loop, or will stand
when it leaves its barrier. -/
def Point.frame? : Point → Option Frame
  | .get | .exited | .waited _ _ false => none
  | .loop frame => some frame
  | .checked frame | .registered frame _ _ | .waiting frame _ _ | .waited frame _ true =>
      some frame.advance

/-- The invariant: a barrier counts as acknowledged only by a reply to it. -/
structure AckInvariant (s : State) : Prop where
  safe : AckSafe s.history
  registry : RegistryInvariant s
  heldRegistered : ∀ w frame xid event,
    (s.workers w).point.barrier? = some (frame, xid, event) →
      .registered w frame (s.workers w).dpId xid ∈ s.history
  frameOk : ∀ w frame, (s.workers w).point.frame? = some frame → FrameOk frame
  progress : ∀ w, Progress s.history s.isSet w (s.workers w)

theorem Unwinds.of_stopped {sender sender' : BarrierAwareSender} {frame : Frame}
    (stays : sender.stopped = true → sender'.stopped = true) (unwinds : Unwinds sender frame) :
    Unwinds sender' frame := by
  unfold Unwinds at *
  split
  next inside => exact stays (by simpa only [if_pos inside] using unwinds)
  next outside => simpa only [if_neg outside] using unwinds

/-- What is known of a worker stays known while others act. -/
theorem Progress.mono {history : List Event} (recent : List Event) {isSet isSet' : EventId → Bool} {w : WorkerId}
    {sender sender' : BarrierAwareSender} (progress : Progress history isSet w sender)
    (samePoint : sender'.point = sender.point)
    (stays : sender.stopped = true → sender'.stopped = true)
    (unset : ∀ frame xid event, sender.point.barrier? = some (frame, xid, event) →
      isSet' event = true → isSet event = true) :
    Progress (recent ++ history) isSet' w sender' := by
  unfold Progress at *
  rw [samePoint]
  split at progress
  next frame _ => exact progress.imp (·.append _) (·.of_stopped stays)
  next frame _ => exact progress.append _
  next frame xid event point =>
    exact ⟨progress.1.append _, fun set =>
      (progress.2 (unset frame xid event (by rw [point]; rfl) set)).imp (·.append _)
        (·.of_stopped stays)⟩
  next frame xid event point =>
    exact ⟨progress.1.append _, fun set =>
      (progress.2 (unset frame xid event (by rw [point]; rfl) set)).imp (·.append _)
        (·.of_stopped stays)⟩
  next => exact ⟨progress.1.append _, progress.2.imp (·.append _) (·.of_stopped stays)⟩
  all_goals trivial

namespace AckInvariant

variable {s s' : State}

theorem initial : AckInvariant State.initial where
  safe := trivial
  registry := .initial
  heldRegistered := by simp [State.initial, BarrierAwareSender.new, Point.barrier?]
  frameOk := by simp [State.initial, BarrierAwareSender.new, Point.frame?]
  progress := fun _ => trivial

/-- A step in which one worker moves on, registers no waiter and sets no event. -/
theorem worker (inv : AckInvariant s) (registry : RegistryInvariant s') {w : WorkerId}
    {sender : BarrierAwareSender} (recent : List Event)
    (workers : s'.workers = Function.update s.workers w sender)
    (history : s'.history = recent ++ s.history) (safe : AckSafe (recent ++ s.history))
    (sameSet : s'.isSet = s.isSet)
    (point : ∀ held, sender.point.barrier? = some held →
      (s.workers w).point.barrier? = some held ∧ sender.dpId = (s.workers w).dpId)
    (frame : ∀ frame, sender.point.frame? = some frame → FrameOk frame)
    (progress : Progress (recent ++ s.history) s.isSet w sender) : AckInvariant s' := by
  refine ⟨by rwa [history], registry, fun w' frame' xid event held => ?_, fun w' frame' stands => ?_,
    fun w' => ?_⟩
  all_goals
    rw [workers] at *
    by_cases same : w' = w
  · subst same
    rw [Function.update_self] at held ⊢
    obtain ⟨before, sameDp⟩ := point _ held
    rw [history, sameDp]
    exact List.mem_append_right _ (inv.heldRegistered w' frame' xid event before)
  · rw [Function.update_of_ne same] at held ⊢
    rw [history]
    exact List.mem_append_right _ (inv.heldRegistered w' frame' xid event held)
  · subst same
    rw [Function.update_self] at stands
    exact frame frame' stands
  · rw [Function.update_of_ne same] at stands
    exact inv.frameOk w' frame' stands
  · subst same
    rw [Function.update_self, history, sameSet]
    exact progress
  · rw [Function.update_of_ne same, history, sameSet]
    exact (inv.progress w').mono recent rfl id fun _ _ _ _ set => set

/-- The progress of a worker, read at its point. -/
theorem progressAt (inv : AckInvariant s) {w : WorkerId} {point : Point}
    (at_ : (s.workers w).point = point) :
    Progress s.history s.isSet w { s.workers w with point := point } := by
  have progress := inv.progress w
  rwa [show s.workers w = { s.workers w with point := point } by rw [← at_]] at progress

theorem frameAt (inv : AckInvariant s) {w : WorkerId} {point : Point} {frame : Frame}
    (at_ : (s.workers w).point = point) (stands : point.frame? = some frame) : FrameOk frame :=
  inv.frameOk w frame (by rw [at_, stands])

/-- The invariant reads the workers, the events, the waiters and the history only. -/
theorem congr (inv : AckInvariant s) (workers : s'.workers = s.workers)
    (history : s'.history = s.history) (waiters : s'.barrierWaiters = s.barrierWaiters)
    (sameSet : s'.isSet = s.isSet) (sameNext : s'.nextEvent = s.nextEvent) : AckInvariant s' := by
  refine ⟨?_, inv.registry.congr workers waiters sameSet sameNext, ?_, ?_, ?_⟩
  · rw [history]
    exact inv.safe
  · rw [workers, history]
    exact inv.heldRegistered
  · rw [workers]
    exact inv.frameOk
  · rw [workers, history, sameSet]
    exact inv.progress

/-- A worker is replaced by one that stands at the same point, with the stop
flag set if it was. -/
theorem setWorker (inv : AckInvariant s) {w : WorkerId} {sender : BarrierAwareSender}
    (samePoint : sender.point = (s.workers w).point) (sameDp : sender.dpId = (s.workers w).dpId)
    (stays : (s.workers w).stopped = true → sender.stopped = true) :
    AckInvariant (s.setWorker w sender) := by
  have held : ∀ held, sender.point.barrier? = some held →
      (s.workers w).point.barrier? = some held ∧ sender.dpId = (s.workers w).dpId := by
    intro held at_
    exact ⟨by rwa [← samePoint], sameDp⟩
  refine inv.worker (inv.registry.setWorker held) [] rfl rfl inv.safe rfl held ?_ ?_
  · intro frame at_
    exact inv.frameOk w frame (by rwa [← samePoint])
  · exact (inv.progress w).mono [] samePoint stays fun _ _ _ _ set => set

theorem stop (inv : AckInvariant s) (w : WorkerId) :
    AckInvariant (s.setWorker w (s.workers w).stop) := by
  apply inv.setWorker <;> simp

theorem newSender (inv : AckInvariant s) (ryuDp : ChannelId) (dpId : DpId) :
    AckInvariant (s.newSender ryuDp dpId) :=
  inv.worker (inv.registry.newSender ryuDp dpId) [] rfl rfl inv.safe rfl
    (fun _ held => by cases held) (fun _ stands => by cases stands) trivial

theorem submitToSender (inv : AckInvariant s) (ryuDp : ChannelId) (dpId : DpId)
    (ofmsgs : List Ofmsg) (onComplete : Bool) :
    AckInvariant (s.submitToSender ryuDp dpId ofmsgs onComplete) := by
  unfold State.submitToSender
  split
  · exact inv
  · split
    next => exact (inv.newSender ryuDp dpId).congr rfl rfl rfl rfl rfl
    next w _ =>
      split
      · exact inv.congr rfl rfl rfl rfl rfl
      · exact ((inv.stop w).newSender ryuDp dpId).congr rfl rfl rfl rfl rfl

theorem popAndStop (inv : AckInvariant s) (dpId : DpId) : AckInvariant (s.popAndStop dpId) := by
  unfold State.popAndStop
  split
  next => exact inv
  next w _ => exact (inv.stop w).congr rfl rfl rfl rfl rfl

theorem enqueue (inv : AckInvariant s) (w : WorkerId) (ofmsgs : List Ofmsg) (onComplete : Bool) :
    AckInvariant (s.setWorker w ((s.workers w).submit ofmsgs onComplete)) := by
  apply inv.setWorker <;> simp

/-! ### The steps of a worker -/

theorem endsWithBarrier_append (ofmsgs : List Ofmsg) :
    endsWithBarrier (ofmsgs ++ [.barrierRequest]) = true := by
  simp [endsWithBarrier]

theorem get (inv : AckInvariant s) {w : WorkerId} (taken : s.get w = some s') :
    AckInvariant s' := by
  have registry : RegistryInvariant s' := inv.registry.step (show s.step (.get w) = _ from taken)
  obtain ⟨_, ⟨queue, _, rfl⟩ | ⟨ofmsgs, onComplete, queue, _, rfl⟩⟩ := State.get_cases taken
  · exact inv.worker registry [] rfl rfl inv.safe rfl
      (fun _ held => by cases held) (fun _ stands => by cases stands) trivial
  · refine inv.worker registry [] rfl rfl inv.safe rfl
      (fun _ held => by cases held) ?_ (.inl (allAnswered_start _ _ _ _ _))
    rintro frame ⟨⟩
    refine ⟨Nat.zero_le _, fun callback => ?_⟩
    cases ends : endsWithBarrier ofmsgs <;> simp_all [endsWithBarrier_append]

theorem check (inv : AckInvariant s) {w : WorkerId} (taken : s.check w = some s') :
    AckInvariant s' := by
  have registry : RegistryInvariant s' := inv.registry.step (show s.step (.check w) = _ from taken)
  obtain ⟨frame, point, inside, rfl⟩ := State.check_cases taken
  have ok : FrameOk frame := inv.frameAt point rfl
  have progress := inv.progressAt point
  cases stopped : (s.workers w).stopped with
  | true =>
      rw [stopped] at registry
      exact inv.worker registry [] rfl rfl inv.safe rfl
        (fun _ held => by cases held) (fun _ stands => by cases stands) trivial
  | false =>
      rw [stopped] at registry
      refine inv.worker registry [] rfl rfl inv.safe rfl
        (fun _ held => by cases held) ?_ ?_
      · rintro frame' ⟨⟩
        exact ⟨inside, ok.2⟩
      · rcases progress with answered | unwinds
        · exact answered
        · simp [Unwinds, inside, stopped] at unwinds

theorem send (inv : AckInvariant s) {w : WorkerId} (taken : s.send w = some s') :
    AckInvariant s' := by
  have registry : RegistryInvariant s' := inv.registry.step (show s.step (.send w) = _ from taken)
  obtain ⟨frame, payload, point, current, rfl⟩ := State.send_cases taken
  have answered : AllAnswered s.history w frame := inv.progressAt point
  refine inv.worker registry [.sent w frame] rfl rfl ⟨answered, inv.safe⟩ rfl
    (fun _ held => by cases held) ?_ (.inl ?_)
  · rintro frame' ⟨⟩
    exact inv.frameAt point rfl
  · exact (answered.append [_]).advance_of_message (by rw [current]; simp)

theorem sendBarrier (inv : AckInvariant s) {w : WorkerId} (taken : s.sendBarrier w = some s') :
    AckInvariant s' := by
  have registry : RegistryInvariant s' := inv.registry.step (show s.step (.sendBarrier w) = _ from taken)
  obtain ⟨frame, xid, event, point, rfl⟩ := State.sendBarrier_cases taken
  have progress := inv.progressAt point
  refine inv.worker registry [.sent w frame] rfl rfl ⟨progress.1, inv.safe⟩ rfl ?_ ?_ ?_
  · rintro held ⟨⟩
    exact ⟨by rw [point]; rfl, rfl⟩
  · rintro frame' ⟨⟩
    exact inv.frameAt point rfl
  · have waiting : Progress s.history s.isSet w
        { s.workers w with point := .waiting frame xid event } := progress
    exact waiting.mono [_] rfl id fun _ _ _ _ set => set

theorem wake (inv : AckInvariant s) {w : WorkerId} (taken : s.wake w = some s') :
    AckInvariant s' := by
  have registry : RegistryInvariant s' := inv.registry.step (show s.step (.wake w) = _ from taken)
  obtain ⟨frame, xid, event, point, set, rfl⟩ := State.wake_cases taken
  have progress := inv.progressAt point
  refine inv.worker registry [] rfl rfl inv.safe rfl
    (fun _ held => by cases held) ?_ ⟨progress.1, progress.2 set⟩
  rintro frame' ⟨⟩
  exact inv.frameAt point rfl

theorem timeout (inv : AckInvariant s) {w : WorkerId} (taken : s.timeout w = some s') :
    AckInvariant s' := by
  have registry : RegistryInvariant s' := inv.registry.step (show s.step (.timeout w) = _ from taken)
  obtain ⟨frame, xid, event, _, _, rfl⟩ := State.timeout_cases taken
  exact inv.worker registry [] rfl rfl inv.safe rfl
    (fun _ held => by cases held) (fun _ stands => by cases stands) trivial

theorem unwind (inv : AckInvariant s) {w : WorkerId} (taken : s.unwind w = some s') :
    AckInvariant s' := by
  have registry : RegistryInvariant s' := inv.registry.step (show s.step (.unwind w) = _ from taken)
  obtain ⟨frame, xid, acked, point, rfl⟩ := State.unwind_cases taken
  cases acked with
  | false =>
      exact inv.worker registry [] rfl rfl inv.safe rfl
        (fun _ held => by cases held) (fun _ stands => by cases stands) trivial
  | true =>
      have progress := inv.progressAt point
      refine inv.worker registry [] rfl rfl inv.safe rfl
        (fun _ held => by cases held) ?_ ?_
      · rintro frame' ⟨⟩
        exact inv.frameAt point rfl
      · exact progress.2.imp progress.1.advance_of_answered id

theorem finish (inv : AckInvariant s) {w : WorkerId} (taken : s.finish w = some s') :
    AckInvariant s' := by
  have registry : RegistryInvariant s' := inv.registry.step (show s.step (.finish w) = _ from taken)
  obtain ⟨frame, point, outside, ⟨callback, rfl⟩ | ⟨_, rfl⟩⟩ := State.finish_cases taken
  · have ok : FrameOk frame := inv.frameAt point rfl
    have answered : AllAnswered s.history w frame := by
      rcases inv.progressAt point with answered | unwinds
      · exact answered
      · simp [Unwinds, Nat.not_lt.mpr outside, callback] at unwinds
    exact inv.worker registry [.completed w frame] rfl rfl
      ⟨⟨answered, Nat.le_antisymm ok.1 outside, ok.2 callback⟩, inv.safe⟩ rfl (fun _ held => by cases held)
      (fun _ stands => by cases stands) trivial
  · exact inv.worker registry [] rfl rfl inv.safe rfl
      (fun _ held => by cases held) (fun _ stands => by cases stands) trivial

theorem raise (inv : AckInvariant s) {w : WorkerId} (taken : s.raise w = some s') :
    AckInvariant s' := by
  have registry : RegistryInvariant s' := inv.registry.step (show s.step (.raise w) = _ from taken)
  obtain ⟨frame, _, rfl⟩ | ⟨frame, xid, event, _, rfl⟩ := State.raise_cases taken
  · exact inv.worker registry [] rfl rfl inv.safe rfl
      (fun _ held => by cases held) (fun _ stands => by cases stands) trivial
  · exact inv.worker registry [] rfl rfl inv.safe rfl
      (fun _ held => by cases held) (fun _ stands => by cases stands) trivial

theorem register (inv : AckInvariant s) {w : WorkerId} {xid : Xid}
    (taken : s.register w xid = some s') : AckInvariant s' := by
  have registry : RegistryInvariant s' :=
    inv.registry.step (show s.step (.register w xid) = _ from taken)
  obtain ⟨frame, point, _, rfl⟩ := State.register_cases taken
  have answered : AllAnswered s.history w frame := inv.progressAt point
  have unset : s.isSet s.nextEvent ≠ true :=
    fun set => Nat.lt_irrefl _ (inv.registry.setEvent _ set)
  have self : (((s.registerBarrier (s.workers w).dpId xid).goto w
      (.registered frame xid s.nextEvent)).record
        (.registered w frame (s.workers w).dpId xid)).workers w =
      { s.workers w with point := .registered frame xid s.nextEvent } :=
    Function.update_self ..
  have other : ∀ w', w' ≠ w → (((s.registerBarrier (s.workers w).dpId xid).goto w
      (.registered frame xid s.nextEvent)).record
        (.registered w frame (s.workers w).dpId xid)).workers w' = s.workers w' :=
    fun w' different => Function.update_of_ne different ..
  refine ⟨⟨trivial, inv.safe⟩, registry, fun w' frame' xid' event held => ?_,
    fun w' frame' stands => ?_, fun w' => ?_⟩
  all_goals by_cases same : w' = w
  · subst same
    rw [self] at held ⊢
    cases held
    exact List.mem_cons_self
  · rw [other w' same] at held ⊢
    exact List.mem_cons_of_mem _ (inv.heldRegistered w' frame' xid' event held)
  · subst same
    rw [self] at stands
    cases stands
    exact inv.frameAt point rfl
  · rw [other w' same] at stands
    exact inv.frameOk w' frame' stands
  · subst same
    rw [self]
    exact ⟨answered.append [_], fun set => absurd set unset⟩
  · rw [other w' same]
    exact (inv.progress w').mono [_] rfl id fun _ _ _ _ set => set

/-! ### Releasing waiters -/

/-- Popping waiters and setting their events keeps the invariant when every
worker that holds one was answered or unwinds. -/
theorem release (inv : AckInvariant s) (registry : RegistryInvariant s') {gone : List Waiter}
    (recent : List Event) (history : s'.history = recent ++ s.history)
    (safe : AckSafe (recent ++ s.history)) (workers : s'.workers = s.workers)
    (set_ : s'.isSet = fun event => s.isSet event || gone.any (·.event == event))
    (released : ∀ w frame xid event, (s.workers w).point.barrier? = some (frame, xid, event) →
      ∀ waiter ∈ gone, waiter.event = event →
        Answered (recent ++ s.history) w frame frame.next ∨
          Unwinds (s.workers w) frame.advance) : AckInvariant s' where
  safe := by rwa [history]
  registry := registry
  heldRegistered w frame xid event held := by
    rw [workers] at held ⊢
    rw [history]
    exact List.mem_append_right _ (inv.heldRegistered w frame xid event held)
  frameOk := by
    rw [workers]
    exact inv.frameOk
  progress w := by
    rw [workers, history]
    have progress := inv.progress w
    have setNow : ∀ frame xid event, (s.workers w).point.barrier? = some (frame, xid, event) →
        (s.isSet event = true → Answered s.history w frame frame.next ∨
          Unwinds (s.workers w) frame.advance) → s'.isSet event = true →
        Answered (recent ++ s.history) w frame frame.next ∨
          Unwinds (s.workers w) frame.advance := by
      intro frame xid event held before set
      rw [set_, Bool.or_eq_true, List.any_eq_true] at set
      rcases set with old | ⟨waiter, member, same⟩
      · exact (before old).imp_left (·.append _)
      · exact released w frame xid event held waiter member (beq_iff_eq.mp same)
    unfold Progress at progress ⊢
    split at progress
    next frame _ => exact progress.imp_left (·.append _)
    next frame _ => exact progress.append _
    next frame xid event point =>
      exact ⟨progress.1.append _, setNow frame xid event (by rw [point]; rfl) progress.2⟩
    next frame xid event point =>
      exact ⟨progress.1.append _, setNow frame xid event (by rw [point]; rfl) progress.2⟩
    next => exact ⟨progress.1.append _, progress.2.imp_left (·.append _)⟩
    all_goals trivial

theorem reply (inv : AckInvariant s) {ryuDp : ChannelId} {xid : Xid}
    (taken : s.reply ryuDp xid = some s') : AckInvariant s' := by
  have registry : RegistryInvariant s' :=
    inv.registry.step (show s.step (.reply ryuDp xid) = _ from taken)
  obtain ⟨dpId, _, _, rfl⟩ := State.reply_cases taken
  refine inv.release registry [.replied dpId xid] rfl ⟨trivial, inv.safe⟩ rfl rfl ?_
  intro w frame xid' event held waiter member same
  obtain ⟨present, keys⟩ := List.mem_filter.mp member
  rw [Bool.and_eq_true, beq_iff_eq, beq_iff_eq] at keys
  obtain ⟨sameDp, sameXid⟩ := inv.registry.heldKey w frame xid' event held waiter present same
  have registered := inv.heldRegistered w frame xid' event held
  rw [← sameDp, ← sameXid, keys.1, keys.2] at registered
  exact .inl ⟨dpId, xid, [], s.history, rfl, registered⟩

theorem cancelBarriers (inv : AckInvariant s) {dpId : DpId} (harmless : HarmlessCancel s dpId) :
    AckInvariant (s.cancelBarriers dpId) := by
  refine inv.release (inv.registry.cancelBarriers dpId) [] rfl inv.safe rfl rfl ?_
  intro w frame xid event held waiter member same
  obtain ⟨present, key⟩ := List.mem_filter.mp member
  rw [beq_iff_eq] at key
  obtain ⟨sameDp, sameXid⟩ := inv.registry.heldKey w frame xid event held waiter present same
  have itself : waiter = ⟨dpId, xid, event⟩ := by rw [← key, ← sameXid, ← same]
  exact .inr (harmless w frame xid event held (by rw [← sameDp, key]) (itself ▸ present))

/-- **Every step keeps the invariant** when it cancels only where that is harmless. -/
theorem step (inv : AckInvariant s) {action : Action} (harmless : CancelsHarmless s action)
    (taken : s.step action = some s') : AckInvariant s' := by
  cases action with
  | connect dpId =>
      cases taken
      exact inv.congr rfl rfl rfl rfl rfl
  | submit ryuDp ofmsgs onComplete =>
      obtain ⟨dpId, _, rfl⟩ := Option.map_eq_some_iff.mp taken
      exact inv.submitToSender ryuDp dpId ofmsgs onComplete
  | enqueue index =>
      obtain ⟨⟨w, ofmsgs, onComplete⟩, _, rfl⟩ := Option.map_eq_some_iff.mp taken
      exact (inv.enqueue w ofmsgs onComplete).congr rfl rfl rfl rfl rfl
  | get w => exact inv.get taken
  | check w => exact inv.check taken
  | send w => exact inv.send taken
  | register w xid => exact inv.register taken
  | sendBarrier w => exact inv.sendBarrier taken
  | wake w => exact inv.wake taken
  | timeout w => exact inv.timeout taken
  | unwind w => exact inv.unwind taken
  | finish w => exact inv.finish taken
  | raise w => exact inv.raise taken
  | reply ryuDp xid => exact inv.reply taken
  | cancelBarriers dpId =>
      cases taken
      exact inv.cancelBarriers harmless
  | disconnect ryuDp =>
      obtain ⟨dpId, channel, rfl⟩ := Option.map_eq_some_iff.mp taken
      exact (inv.cancelBarriers (harmless dpId channel)).congr rfl rfl rfl rfl rfl
  | stopSender index =>
      obtain ⟨⟨ryuDp, dpId⟩, _, rfl⟩ := Option.map_eq_some_iff.mp taken
      exact (inv.popAndStop dpId).congr rfl rfl rfl rfl rfl

end AckInvariant

/-- An answered barrier has a reply in the history. -/
theorem Answered.exists_reply {history : List Event} {w : WorkerId} {frame : Frame} {index : Nat}
    (answered : Answered history w frame index) : ∃ dpId xid, .replied dpId xid ∈ history := by
  obtain ⟨dpId, xid, after, before, rfl, _⟩ := answered
  exact ⟨dpId, xid, by simp⟩

/-- **A message is sent and a callback runs only past answered barriers**, in
every run that cancels barriers only where their workers unwind. -/
theorem ackSafe_of_cancelsHarmless {s : State}
    (reaches : Reaches State.step CancelsHarmless State.initial s) : AckSafe s.history :=
  (reaches.invariant AckInvariant AckInvariant.initial
    fun inv harmless taken => inv.step harmless taken).safe

/-- Where no waiter of the datapath id is registered, a cancel is harmless. -/
theorem HarmlessCancel.of_no_waiter {s : State} {dpId : DpId}
    (none : ∀ waiter ∈ s.barrierWaiters, waiter.dpId ≠ dpId) : HarmlessCancel s dpId :=
  fun _ _ _ _ _ _ member => absurd rfl (none _ member)

/-- One batch with a callback, acknowledged by the switch, and a disconnect
afterwards. -/
def acknowledgedRun : List Action :=
  [.connect 1, .submit 0 [.message 7] true, .enqueue 0, .get 0, .check 0, .send 0, .check 0,
    .register 0 5, .sendBarrier 0, .reply 0 5, .wake 0, .unwind 0, .finish 0, .disconnect 0,
    .stopSender 0, .get 0]

/-- The same batch, with the disconnect in place of the reply. -/
def disconnectedRun : List Action :=
  [.connect 1, .submit 0 [.message 7] true, .enqueue 0, .get 0, .check 0, .send 0, .check 0,
    .register 0 5, .sendBarrier 0, .disconnect 0, .wake 0, .unwind 0, .finish 0]

theorem ackSafe_acknowledgedRun :
    ∃ s, exec State.step State.initial acknowledgedRun = some s ∧
      .completed 0 ⟨0, [.message 7, .barrierRequest], 2, true⟩ ∈ s.history ∧
      AckSafe s.history := by
  have allowed : Allowed State.step CancelsHarmless State.initial acknowledgedRun := by
    refine ⟨trivial, trivial, trivial, trivial, trivial, trivial, trivial, trivial, trivial,
      trivial, trivial, trivial, trivial, ?_, trivial, trivial, trivial⟩
    intro dpId _
    exact .of_no_waiter fun _ member => by cases member
  exact ⟨_, rfl, List.mem_cons_self,
    ackSafe_of_cancelsHarmless (.of_exec _ allowed rfl)⟩

/-- A disconnect that cancels the last barrier of a batch lets its callback run
without any reply. -/
theorem not_ackSafe_of_disconnect :
    ¬ ∀ s, Reaches State.step anyStep State.initial s → AckSafe s.history := by
  intro safe
  have ran : AckSafe [.completed 0 ⟨0, [.message 7, .barrierRequest], 2, true⟩,
      .sent 0 ⟨0, [.message 7, .barrierRequest], 1, true⟩,
      .registered 0 ⟨0, [.message 7, .barrierRequest], 1, true⟩ 1 5,
      .sent 0 ⟨0, [.message 7, .barrierRequest], 0, true⟩] :=
    safe _ (.of_exec disconnectedRun (allowed_anyStep _ _) rfl)
  obtain ⟨dpId, xid, reply⟩ := (ran.1.1 1 (by decide) rfl).exists_reply
  simp at reply

end Faucet.Send
