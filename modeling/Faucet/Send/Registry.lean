import Faucet.Send.Sender

/-!
# Workers, their steps and the barrier registry

A step of a worker changes that worker only, and of the registry at most the
entry of an xid that the worker holds or registers (`WorkerStep`). Every waiter
is stored under the datapath id and the xid of the worker that holds its event
(`RegistryInvariant`), in every state the system can reach.
-/

set_option autoImplicit false

namespace Faucet.Send

open TransitionSystem

/-- The barrier whose waiter the worker has registered and not yet left. -/
def Point.barrier? : Point → Option (Frame × Xid × EventId)
  | .registered frame xid event | .waiting frame xid event => some (frame, xid, event)
  | _ => none

/-- The xid that the worker's `_send_barrier` is at. -/
def Point.xid? : Point → Option Xid
  | .registered _ xid _ | .waiting _ xid _ | .waited _ xid _ => some xid
  | _ => none

theorem Point.xid?_of_barrier? {point : Point} {frame : Frame} {xid : Xid} {event : EventId}
    (held : point.barrier? = some (frame, xid, event)) : point.xid? = some xid := by
  cases point <;> cases held <;> rfl

/-- The worker whose step an action is. -/
def Action.worker? : Action → Option WorkerId
  | .get w | .check w | .send w | .register w _ | .sendBarrier w | .wake w | .timeout w
  | .unwind w | .finish w | .raise w => some w
  | _ => none

/-- What a step of a worker changes. -/
structure WorkerStep (s : State) (action : Action) (s' : State) (w : WorkerId) : Prop where
  workers : ∃ sender, s'.workers = Function.update s.workers w sender ∧
    sender.ryuDp = (s.workers w).ryuDp ∧ sender.dpId = (s.workers w).dpId ∧
    (∀ xid, sender.point.xid? = some xid →
      (s.workers w).point.xid? = some xid ∨ action = .register w xid) ∧
    ∀ held, sender.point.barrier? = some held →
      (s.workers w).point.barrier? = some held ∨
        ∃ frame xid, held = (frame, xid, s.nextEvent) ∧ action = .register w xid
  nextWorker : s'.nextWorker = s.nextWorker
  senders : s'.senders = s.senders
  channels : s'.channels = s.channels
  submitting : s'.submitting = s.submitting
  stopping : s'.stopping = s.stopping
  isSet : s'.isSet = s.isSet
  closed : ∀ ryuDp, ryuDp ≠ (s.workers w).ryuDp → s'.closed ryuDp = s.closed ryuDp
  unanswered : ∀ ryuDp xid, (ryuDp, xid) ∈ s'.unanswered → (ryuDp, xid) ∈ s.unanswered ∨
    ryuDp = (s.workers w).ryuDp ∧ (s.workers w).point.xid? = some xid
  kept : ∀ waiter ∈ s.barrierWaiters, waiter ∈ s'.barrierWaiters ∨
    waiter.dpId = (s.workers w).dpId ∧
      ((s.workers w).point.xid? = some waiter.xid ∨ action = .register w waiter.xid)
  added : ∀ waiter ∈ s'.barrierWaiters, waiter ∈ s.barrierWaiters ∨
    ∃ xid, waiter = ⟨(s.workers w).dpId, xid, s.nextEvent⟩ ∧ action = .register w xid ∧
      ∃ frame, (s'.workers w).point.barrier? = some (frame, xid, s.nextEvent)
  nextEvent : s.nextEvent ≤ s'.nextEvent
  fresh : ∀ xid, action = .register w xid → s.nextEvent < s'.nextEvent

section Steps

variable {s s' : State} {action : Action} {w : WorkerId}

theorem discardBarrier_kept (s : State) (dpId : DpId) (xid : Xid) :
    ∀ waiter ∈ s.barrierWaiters, waiter ∈ (s.discardBarrier dpId xid).barrierWaiters ∨
      waiter.dpId = dpId ∧ waiter.xid = xid := by
  intro waiter member
  by_cases key : waiter.dpId = dpId ∧ waiter.xid = xid
  · exact .inr key
  · refine .inl (List.mem_filter.mpr ⟨member, ?_⟩)
    rw [Bool.not_eq_true', Bool.and_eq_false_iff, beq_eq_false_iff_ne, beq_eq_false_iff_ne]
    exact Decidable.not_and_iff_not_or_not.mp key

/-- A step that only moves the worker to a point where it holds no new xid. -/
theorem WorkerStep.move {sender : BarrierAwareSender}
    (workers : s'.workers = Function.update s.workers w sender)
    (sameChannel : sender.ryuDp = (s.workers w).ryuDp) (sameDp : sender.dpId = (s.workers w).dpId)
    (xid : ∀ xid, sender.point.xid? = some xid → (s.workers w).point.xid? = some xid)
    (barrier : ∀ held, sender.point.barrier? = some held →
      (s.workers w).point.barrier? = some held)
    (nextWorker : s'.nextWorker = s.nextWorker) (senders : s'.senders = s.senders)
    (channels : s'.channels = s.channels) (submitting : s'.submitting = s.submitting)
    (stopping : s'.stopping = s.stopping) (isSet : s'.isSet = s.isSet)
    (closed : ∀ ryuDp, ryuDp ≠ (s.workers w).ryuDp → s'.closed ryuDp = s.closed ryuDp)
    (unanswered : ∀ ryuDp xid, (ryuDp, xid) ∈ s'.unanswered → (ryuDp, xid) ∈ s.unanswered ∨
      ryuDp = (s.workers w).ryuDp ∧ (s.workers w).point.xid? = some xid)
    (kept : ∀ waiter ∈ s.barrierWaiters, waiter ∈ s'.barrierWaiters ∨
      waiter.dpId = (s.workers w).dpId ∧ (s.workers w).point.xid? = some waiter.xid)
    (fewer : ∀ waiter ∈ s'.barrierWaiters, waiter ∈ s.barrierWaiters)
    (nextEvent : s'.nextEvent = s.nextEvent) (other : ∀ xid, action ≠ .register w xid) :
    WorkerStep s action s' w where
  workers := ⟨sender, workers, sameChannel, sameDp, fun x holds => .inl (xid x holds),
    fun held holds => .inl (barrier held holds)⟩
  nextWorker := nextWorker
  senders := senders
  channels := channels
  submitting := submitting
  stopping := stopping
  isSet := isSet
  closed := closed
  unanswered := unanswered
  kept waiter member := (kept waiter member).imp_right fun key => ⟨key.1, .inl key.2⟩
  added waiter member := .inl (fewer waiter member)
  nextEvent := Nat.le_of_eq nextEvent.symm
  fresh xid acts := absurd acts (other xid)

/-- **A step of a worker** changes what `WorkerStep` says. -/
theorem workerStep (acts : action.worker? = some w) (taken : s.step action = some s') :
    WorkerStep s action s' w := by
  cases action <;> cases acts
  case get =>
    obtain ⟨_, ⟨queue, _, rfl⟩ | ⟨ofmsgs, onComplete, queue, _, rfl⟩⟩ := State.get_cases taken
    all_goals
      exact .move rfl rfl rfl (fun _ holds => by cases holds) (fun _ holds => by cases holds)
        rfl rfl rfl rfl rfl rfl (fun _ _ => rfl) (fun _ _ member => .inl member)
        (fun _ member => .inl member) (fun _ member => member) rfl nofun
  case check =>
    obtain ⟨frame, _, _, rfl⟩ := State.check_cases taken
    refine .move rfl rfl rfl (fun _ holds => ?_) (fun _ holds => ?_)
      rfl rfl rfl rfl rfl rfl (fun _ _ => rfl) (fun _ _ member => .inl member)
      (fun _ member => .inl member) (fun _ member => member) rfl nofun
    all_goals
      dsimp only at holds
      split at holds <;> cases holds
  case send =>
    obtain ⟨frame, payload, _, _, rfl⟩ := State.send_cases taken
    exact .move rfl rfl rfl (fun _ holds => by cases holds) (fun _ holds => by cases holds)
      rfl rfl rfl rfl rfl rfl (fun _ _ => rfl) (fun _ _ member => .inl member)
      (fun _ member => .inl member) (fun _ member => member) rfl nofun
  case register xid =>
    obtain ⟨frame, point, _, rfl⟩ := State.register_cases taken
    constructor
    case workers =>
      refine ⟨{ s.workers w with point := .registered frame xid s.nextEvent }, rfl, rfl, rfl, ?_, ?_⟩
      · rintro _ ⟨⟩
        exact .inr rfl
      · rintro _ ⟨⟩
        exact .inr ⟨frame, xid, rfl, rfl⟩
    case kept =>
      intro waiter member
      rcases discardBarrier_kept s (s.workers w).dpId xid waiter member with kept | ⟨dpId, rfl⟩
      · exact .inl (List.mem_cons_of_mem _ kept)
      · exact .inr ⟨dpId, .inr rfl⟩
    case added =>
      intro waiter member
      rcases List.mem_cons.mp member with rfl | old
      · refine .inr ⟨xid, rfl, rfl, frame, ?_⟩
        change (Function.update s.workers w _ w).point.barrier? = _
        rw [Function.update_self]
        rfl
      · exact .inl (List.mem_of_mem_filter old)
    case unanswered => exact fun _ _ member => .inl member
    case closed => exact fun _ _ => rfl
    case nextEvent => exact Nat.le_succ _
    case fresh => exact fun _ _ => Nat.lt_succ_self _
    all_goals rfl
  case sendBarrier =>
    obtain ⟨frame, xid, event, point, rfl⟩ := State.sendBarrier_cases taken
    refine .move rfl rfl rfl (fun _ holds => ?_) (fun _ holds => ?_)
      rfl rfl rfl rfl rfl rfl (fun _ _ => rfl) (fun ryuDp x member => ?_)
      (fun _ member => .inl member) (fun _ member => member) rfl nofun
    · rwa [point]
    · rwa [point]
    · dsimp only at member
      split at member
      · exact .inl member
      · rcases List.mem_cons.mp member with same | old
        · cases same
          exact .inr ⟨rfl, by rw [point]; rfl⟩
        · exact .inl old
  case wake =>
    obtain ⟨frame, xid, event, point, _, rfl⟩ := State.wake_cases taken
    refine .move rfl rfl rfl (fun _ holds => ?_) (fun _ holds => by cases holds)
      rfl rfl rfl rfl rfl rfl (fun _ _ => rfl) (fun _ _ member => .inl member)
      (fun _ member => .inl member) (fun _ member => member) rfl nofun
    rwa [point]
  case timeout =>
    obtain ⟨frame, xid, event, point, _, rfl⟩ := State.timeout_cases taken
    refine .move rfl rfl rfl (fun _ holds => ?_) (fun _ holds => by cases holds)
      rfl rfl rfl rfl rfl rfl (fun ryuDp other => Function.update_of_ne other ..)
      (fun _ _ member => .inl member) (fun _ member => .inl member) (fun _ member => member) rfl nofun
    rwa [point]
  case unwind =>
    obtain ⟨frame, xid, acked, point, rfl⟩ := State.unwind_cases taken
    refine .move rfl rfl rfl (fun _ holds => ?_) (fun _ holds => ?_)
      rfl rfl rfl rfl rfl rfl (fun _ _ => rfl) (fun _ _ member => .inl member)
      (fun waiter member => ?_) (fun _ member => List.mem_of_mem_filter member) rfl nofun
    · dsimp only at holds
      split at holds <;> cases holds
    · dsimp only at holds
      split at holds <;> cases holds
    · refine (discardBarrier_kept s _ xid waiter member).imp_right fun key => ⟨key.1, ?_⟩
      rw [point, key.2]
      rfl
  case finish =>
    obtain ⟨frame, _, _, ⟨_, rfl⟩ | ⟨_, rfl⟩⟩ := State.finish_cases taken
    all_goals
      exact .move rfl rfl rfl (fun _ holds => by cases holds) (fun _ holds => by cases holds)
        rfl rfl rfl rfl rfl rfl (fun _ _ => rfl) (fun _ _ member => .inl member)
        (fun _ member => .inl member) (fun _ member => member) rfl nofun
  case raise =>
    obtain ⟨frame, _, rfl⟩ | ⟨frame, xid, event, point, rfl⟩ := State.raise_cases taken
    · exact .move rfl rfl rfl (fun _ holds => by cases holds) (fun _ holds => by cases holds)
        rfl rfl rfl rfl rfl rfl (fun _ _ => rfl) (fun _ _ member => .inl member)
        (fun _ member => .inl member) (fun _ member => member) rfl nofun
    · refine .move rfl rfl rfl (fun _ holds => by cases holds) (fun _ holds => by cases holds)
        rfl rfl rfl rfl rfl rfl (fun _ _ => rfl) (fun _ _ member => .inl member)
        (fun waiter member => ?_) (fun _ member => List.mem_of_mem_filter member) rfl nofun
      refine (discardBarrier_kept s _ xid waiter member).imp_right fun key => ⟨key.1, ?_⟩
      rw [point, key.2]
      rfl

end Steps

/-! ## The registry -/

/-- Events are handed out once, and a waiter is stored under the datapath id and
the xid of the worker that holds its event. -/
structure RegistryInvariant (s : State) : Prop where
  waiterEvent : ∀ waiter ∈ s.barrierWaiters, waiter.event < s.nextEvent
  setEvent : ∀ event, s.isSet event = true → event < s.nextEvent
  heldEvent : ∀ w frame xid event, (s.workers w).point.barrier? = some (frame, xid, event) →
    event < s.nextEvent
  heldOnce : ∀ w w' frame frame' xid xid' event,
    (s.workers w).point.barrier? = some (frame, xid, event) →
    (s.workers w').point.barrier? = some (frame', xid', event) → w = w'
  heldKey : ∀ w frame xid event, (s.workers w).point.barrier? = some (frame, xid, event) →
    ∀ waiter ∈ s.barrierWaiters, waiter.event = event →
      waiter.dpId = (s.workers w).dpId ∧ waiter.xid = xid

namespace RegistryInvariant

variable {s s' : State}

theorem initial : RegistryInvariant State.initial where
  waiterEvent := by simp [State.initial]
  setEvent := by simp [State.initial]
  heldEvent := by simp [State.initial, BarrierAwareSender.new, Point.barrier?]
  heldOnce := by simp [State.initial, BarrierAwareSender.new, Point.barrier?]
  heldKey := by simp [State.initial, BarrierAwareSender.new, Point.barrier?]

/-- A step that registers no waiter and sets events of registered waiters only. -/
theorem release (inv : RegistryInvariant s)
    (waiters : ∀ waiter ∈ s'.barrierWaiters, waiter ∈ s.barrierWaiters)
    (sets : ∀ event, s'.isSet event = true →
      s.isSet event = true ∨ ∃ waiter ∈ s.barrierWaiters, waiter.event = event)
    (sameNext : s'.nextEvent = s.nextEvent)
    (points : ∀ w held, (s'.workers w).point.barrier? = some held →
      (s.workers w).point.barrier? = some held ∧ (s'.workers w).dpId = (s.workers w).dpId) :
    RegistryInvariant s' where
  waiterEvent waiter member := by
    rw [sameNext]
    exact inv.waiterEvent waiter (waiters waiter member)
  setEvent event set := by
    rw [sameNext]
    rcases sets event set with old | ⟨waiter, member, rfl⟩
    · exact inv.setEvent event old
    · exact inv.waiterEvent waiter member
  heldEvent w frame xid event held := by
    rw [sameNext]
    exact inv.heldEvent w frame xid event (points w _ held).1
  heldOnce w w' frame frame' xid xid' event held held' :=
    inv.heldOnce w w' frame frame' xid xid' event (points w _ held).1 (points w' _ held').1
  heldKey w frame xid event held waiter member same := by
    obtain ⟨held, sameDp⟩ := points w _ held
    rw [sameDp]
    exact inv.heldKey w frame xid event held waiter (waiters waiter member) same

/-- A step that leaves the registry alone. -/
theorem still (inv : RegistryInvariant s) (sameWaiters : s'.barrierWaiters = s.barrierWaiters)
    (sameSet : s'.isSet = s.isSet) (sameNext : s'.nextEvent = s.nextEvent)
    (points : ∀ w held, (s'.workers w).point.barrier? = some held →
      (s.workers w).point.barrier? = some held ∧ (s'.workers w).dpId = (s.workers w).dpId) :
    RegistryInvariant s' :=
  inv.release (fun _ member => sameWaiters ▸ member) (fun _ set => .inl (sameSet ▸ set)) sameNext
    points

theorem setWorker (inv : RegistryInvariant s) {w : WorkerId} {sender : BarrierAwareSender}
    (points : ∀ held, sender.point.barrier? = some held →
      (s.workers w).point.barrier? = some held ∧ sender.dpId = (s.workers w).dpId) :
    RegistryInvariant (s.setWorker w sender) := by
  refine inv.still rfl rfl rfl fun w' held holds => ?_
  by_cases same : w' = w
  · subst same
    rw [State.setWorker_self] at holds ⊢
    exact points held holds
  · rw [State.setWorker_other s same] at holds ⊢
    exact ⟨holds, rfl⟩

/-- The invariant reads the workers, the events and the waiters only. -/
theorem congr (inv : RegistryInvariant s) (workers : s'.workers = s.workers)
    (waiters : s'.barrierWaiters = s.barrierWaiters) (sameSet : s'.isSet = s.isSet)
    (sameNext : s'.nextEvent = s.nextEvent) : RegistryInvariant s' := by
  refine inv.still waiters sameSet sameNext fun w held holds => ?_
  rw [workers] at holds ⊢
  exact ⟨holds, rfl⟩

theorem stop (inv : RegistryInvariant s) (w : WorkerId) :
    RegistryInvariant (s.setWorker w (s.workers w).stop) := by
  refine inv.setWorker fun held holds => ?_
  rw [BarrierAwareSender.stop_point] at holds
  exact ⟨holds, BarrierAwareSender.stop_dpId _⟩

theorem newSender (inv : RegistryInvariant s) (ryuDp : ChannelId) (dpId : DpId) :
    RegistryInvariant (s.newSender ryuDp dpId) :=
  have started : RegistryInvariant (s.setWorker s.nextWorker (.new ryuDp dpId)) :=
    inv.setWorker fun _ holds => by cases holds
  started.congr rfl rfl rfl rfl

theorem submitToSender (inv : RegistryInvariant s) (ryuDp : ChannelId) (dpId : DpId)
    (ofmsgs : List Ofmsg) (onComplete : Bool) :
    RegistryInvariant (s.submitToSender ryuDp dpId ofmsgs onComplete) := by
  unfold State.submitToSender
  split
  · exact inv
  · split
    next => exact (inv.newSender ryuDp dpId).congr rfl rfl rfl rfl
    next w _ =>
      split
      · exact inv.congr rfl rfl rfl rfl
      · exact ((inv.stop w).newSender ryuDp dpId).congr rfl rfl rfl rfl

theorem enqueue (inv : RegistryInvariant s) (w : WorkerId) (ofmsgs : List Ofmsg)
    (onComplete : Bool) :
    RegistryInvariant (s.setWorker w ((s.workers w).submit ofmsgs onComplete)) := by
  refine inv.setWorker fun held holds => ?_
  rw [BarrierAwareSender.submit_point] at holds
  exact ⟨holds, BarrierAwareSender.submit_dpId ..⟩

theorem popAndStop (inv : RegistryInvariant s) (dpId : DpId) :
    RegistryInvariant (s.popAndStop dpId) := by
  unfold State.popAndStop
  split
  next => exact inv
  next w _ => exact (inv.stop w).congr rfl rfl rfl rfl

theorem signal_of_filter {waiters : List Waiter} {event : EventId} {keep : Waiter → Bool}
    {isSet : EventId → Bool}
    (set : (isSet event || (waiters.filter keep).any (·.event == event)) = true) :
    isSet event = true ∨ ∃ waiter ∈ waiters, waiter.event = event := by
  rw [Bool.or_eq_true, List.any_eq_true] at set
  refine set.imp_right ?_
  rintro ⟨waiter, member, same⟩
  exact ⟨waiter, List.mem_of_mem_filter member, beq_iff_eq.mp same⟩

theorem cancelBarriers (inv : RegistryInvariant s) (dpId : DpId) :
    RegistryInvariant (s.cancelBarriers dpId) :=
  inv.release (fun _ member => List.mem_of_mem_filter member) (fun _ set => signal_of_filter set)
    rfl fun _ _ holds => ⟨holds, rfl⟩

theorem completeBarrier (inv : RegistryInvariant s) (dpId : DpId) (xid : Xid) :
    RegistryInvariant (s.completeBarrier dpId xid) :=
  inv.release (fun _ member => List.mem_of_mem_filter member) (fun _ set => signal_of_filter set)
    rfl fun _ _ holds => ⟨holds, rfl⟩

/-- A worker that registers gets an event that nobody else has. -/
theorem ofWorkerStep (inv : RegistryInvariant s) {action : Action} {w : WorkerId}
    (change : WorkerStep s action s' w) : RegistryInvariant s' := by
  obtain ⟨sender, workers, _, sameDp, _, barrier⟩ := change.workers
  have self : s'.workers w = sender := by rw [workers, Function.update_self]
  have other : ∀ w', w' ≠ w → s'.workers w' = s.workers w' := fun w' different => by
    rw [workers, Function.update_of_ne different]
  have fresh : ∀ w' frame xid, (s.workers w').point.barrier? ≠ some (frame, xid, s.nextEvent) :=
    fun w' frame xid held => Nat.lt_irrefl _ (inv.heldEvent w' frame xid _ held)
  constructor
  case waiterEvent =>
    intro waiter member
    rcases change.added waiter member with old | ⟨xid, rfl, acts, _⟩
    · exact Nat.lt_of_lt_of_le (inv.waiterEvent waiter old) change.nextEvent
    · exact change.fresh _ acts
  case setEvent =>
    intro event set
    rw [change.isSet] at set
    exact Nat.lt_of_lt_of_le (inv.setEvent event set) change.nextEvent
  case heldEvent =>
    intro w' frame xid event held
    by_cases same : w' = w
    · subst same
      rw [self] at held
      rcases barrier _ held with old | ⟨_, _, new, acts⟩
      · exact Nat.lt_of_lt_of_le (inv.heldEvent w' frame xid event old) change.nextEvent
      · cases new
        exact change.fresh _ acts
    · rw [other w' same] at held
      exact Nat.lt_of_lt_of_le (inv.heldEvent w' frame xid event held) change.nextEvent
  case heldOnce =>
    intro w₁ w₂ frame₁ frame₂ xid₁ xid₂ event held₁ held₂
    by_cases same₁ : w₁ = w <;> by_cases same₂ : w₂ = w
    · rw [same₁, same₂]
    · subst same₁
      rw [self] at held₁
      rw [other w₂ same₂] at held₂
      rcases barrier _ held₁ with old | ⟨_, _, new, _⟩
      · exact inv.heldOnce w₁ w₂ frame₁ frame₂ xid₁ xid₂ event old held₂
      · cases new
        exact absurd held₂ (fresh _ _ _)
    · subst same₂
      rw [self] at held₂
      rw [other w₁ same₁] at held₁
      rcases barrier _ held₂ with old | ⟨_, _, new, _⟩
      · exact inv.heldOnce w₁ w₂ frame₁ frame₂ xid₁ xid₂ event held₁ old
      · cases new
        exact absurd held₁ (fresh _ _ _)
    · rw [other w₁ same₁] at held₁
      rw [other w₂ same₂] at held₂
      exact inv.heldOnce w₁ w₂ frame₁ frame₂ xid₁ xid₂ event held₁ held₂
  case heldKey =>
    intro w' frame xid event held waiter member sameEvent
    have sameDp' : (s'.workers w').dpId = (s.workers w').dpId := by
      by_cases same : w' = w
      · subst same
        rw [self, sameDp]
      · rw [other w' same]
    rw [sameDp']
    have old : (s.workers w').point.barrier? = some (frame, xid, event) ∨
        w' = w ∧ event = s.nextEvent := by
      by_cases same : w' = w
      · subst same
        rw [self] at held
        refine (barrier _ held).imp_right ?_
        rintro ⟨_, _, new, _⟩
        cases new
        exact ⟨rfl, rfl⟩
      · rw [other w' same] at held
        exact .inl held
    rcases change.added waiter member with there | ⟨xid', rfl, _, frame', registered⟩
    · rcases old with old | ⟨_, rfl⟩
      · exact inv.heldKey w' frame xid event old waiter there sameEvent
      · exact absurd (inv.waiterEvent waiter there) (by rw [sameEvent]; exact Nat.lt_irrefl _)
    · cases sameEvent
      rcases old with old | ⟨rfl, _⟩
      · exact absurd old (fresh _ _ _)
      · cases held.symm.trans registered
        exact ⟨rfl, rfl⟩

/-- **Every step keeps the registry in order.** -/
theorem step (inv : RegistryInvariant s) {action : Action} (taken : s.step action = some s') :
    RegistryInvariant s' := by
  cases acts : action.worker? with
  | some w => exact inv.ofWorkerStep (workerStep acts taken)
  | none =>
      cases action <;> cases acts
      case connect.refl =>
        cases taken
        exact inv.congr rfl rfl rfl rfl
      case submit.refl ryuDp ofmsgs onComplete =>
        obtain ⟨dpId, _, rfl⟩ := Option.map_eq_some_iff.mp taken
        exact inv.submitToSender ryuDp dpId ofmsgs onComplete
      case enqueue.refl index =>
        obtain ⟨⟨w, ofmsgs, onComplete⟩, _, rfl⟩ := Option.map_eq_some_iff.mp taken
        exact (inv.enqueue w ofmsgs onComplete).congr rfl rfl rfl rfl
      case reply.refl ryuDp xid =>
        obtain ⟨dpId, _, _, rfl⟩ := State.reply_cases taken
        exact (inv.completeBarrier dpId xid).congr rfl rfl rfl rfl
      case cancelBarriers.refl dpId =>
        cases taken
        exact inv.cancelBarriers dpId
      case disconnect.refl ryuDp =>
        obtain ⟨dpId, _, rfl⟩ := Option.map_eq_some_iff.mp taken
        exact (inv.cancelBarriers dpId).congr rfl rfl rfl rfl
      case stopSender.refl index =>
        obtain ⟨⟨ryuDp, dpId⟩, _, rfl⟩ := Option.map_eq_some_iff.mp taken
        exact (inv.popAndStop dpId).congr rfl rfl rfl rfl

end RegistryInvariant

end Faucet.Send
