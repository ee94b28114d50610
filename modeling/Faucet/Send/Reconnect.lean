import Faucet.Send.Registry

/-!
# Two connections of one datapath

A switch that reconnects has two connections of one datapath id for a while,
and the manager keys its senders by datapath id and its waiters by datapath id
and xid. `Untouched` says that a step leaves all that belongs to a connection
alone; `Isolated` that a step of an older connection does so to every newer one.

A disconnect cancels and pops whatever the datapath id has, and two connections
may use one xid, so not every run is isolated. `KeepsApart` is the condition on
the single steps under which a run is (`isolated_of_keepsApart`).
-/

set_option autoImplicit false

namespace Faucet.Send

open TransitionSystem

/-- The connection whose event or thread an action is. -/
def connectionOf (s : State) : Action → Option ChannelId
  | .connect _ | .cancelBarriers _ => none
  | .submit ryuDp _ _ | .reply ryuDp _ | .disconnect ryuDp => some ryuDp
  | .enqueue index => (s.submitting[index]?).map fun entry => (s.workers entry.1).ryuDp
  | .stopSender index => (s.stopping[index]?).map Prod.fst
  | .get w | .check w | .send w | .register w _ | .sendBarrier w | .wake w | .timeout w
  | .unwind w | .finish w | .raise w => some (s.workers w).ryuDp

/-- `newer` is a later connection of the datapath of `older`. -/
def Replaces (s : State) (older newer : ChannelId) : Prop :=
  older < newer ∧ ∃ dpId, s.channels[older]? = some dpId ∧ s.channels[newer]? = some dpId

/-- The workers of a connection. -/
def Serves (s : State) (ryuDp : ChannelId) (w : WorkerId) : Prop :=
  w < s.nextWorker ∧ (s.workers w).ryuDp = ryuDp

/-- The worker holds a barrier whose waiter is still registered. -/
def HasWaiter (s : State) (w : WorkerId) : Prop :=
  ∃ frame xid event, (s.workers w).point.barrier? = some (frame, xid, event) ∧
    ∃ waiter ∈ s.barrierWaiters, waiter.event = event

/-- What belongs to the connection is as before: its senders and their place in
the manager, the barriers they wait for, and the batches on their way to them. -/
structure Untouched (s s' : State) (ryuDp : ChannelId) : Prop where
  worker : ∀ w, Serves s ryuDp w → s'.workers w = s.workers w
  sender : ∀ w dpId, Serves s ryuDp w → s.senders dpId = some w → s'.senders dpId = some w
  waiter : ∀ w frame xid event, Serves s ryuDp w →
    (s.workers w).point.barrier? = some (frame, xid, event) →
    s'.isSet event = s.isSet event ∧
      ∀ waiter ∈ s.barrierWaiters, waiter.event = event → waiter ∈ s'.barrierWaiters
  batch : ∀ w, Serves s ryuDp w →
    s'.submitting.filter (·.1 == w) = s.submitting.filter (·.1 == w)
  closed : s'.closed ryuDp = s.closed ryuDp

/-- The step of a connection leaves alone what belongs to a later connection of
the same datapath. -/
def Isolated (s : State) (action : Action) (s' : State) : Prop :=
  ∀ older newer, connectionOf s action = some older → Replaces s older newer →
    Untouched s s' newer

/-- The connection has the xid in use: a barrier of it is unanswered, or a worker
of it is in `_send_barrier` with it. -/
def UsesXid (s : State) (ryuDp : ChannelId) (dpId : DpId) (xid : Xid) : Prop :=
  s.channels[ryuDp]? = some dpId ∧
    ((ryuDp, xid) ∈ s.unanswered ∨
      ∃ w, Serves s ryuDp w ∧ (s.workers w).point.xid? = some xid)

/-- The steps that cannot harm a later connection: a disconnect finds no waiter
of it and no sender of it, a message for the older one does not find its sender,
and no xid is registered that another connection of the datapath has in use. -/
def KeepsApart (s : State) : Action → Prop
  | .disconnect older => ∀ newer w, Replaces s older newer → Serves s newer w → ¬ HasWaiter s w
  | .stopSender index => ∀ older dpId w, s.stopping[index]? = some (older, dpId) →
      s.senders dpId = some w → ¬ Replaces s older (s.workers w).ryuDp
  | .submit older ofmsgs onComplete => (ofmsgs.isEmpty && !onComplete) = true ∨
      ∀ dpId w, s.channels[older]? = some dpId → s.senders dpId = some w →
        ¬ Replaces s older (s.workers w).ryuDp
  | .register w xid => ∀ ryuDp, UsesXid s ryuDp (s.workers w).dpId xid →
      ryuDp = (s.workers w).ryuDp
  | _ => True

/-! ## The invariant -/

/-- Every sender is bound to a connection of its datapath id, and two
connections of one datapath id have no xid in common. -/
structure ChannelInvariant (s : State) : Prop where
  registry : RegistryInvariant s
  unstarted : ∀ w, s.nextWorker ≤ w → s.workers w = .new 0 0
  workerChannel : ∀ w, w < s.nextWorker →
    s.channels[(s.workers w).ryuDp]? = some (s.workers w).dpId
  sender : ∀ dpId w, s.senders dpId = some w → w < s.nextWorker ∧ (s.workers w).dpId = dpId
  submitted : ∀ entry ∈ s.submitting, entry.1 < s.nextWorker
  stopped : ∀ ryuDp dpId, (ryuDp, dpId) ∈ s.stopping → s.channels[ryuDp]? = some dpId
  asked : ∀ ryuDp xid, (ryuDp, xid) ∈ s.unanswered → ryuDp < s.channels.length
  apart : ∀ ryuDp ryuDp' dpId xid, UsesXid s ryuDp dpId xid → UsesXid s ryuDp' dpId xid →
    ryuDp = ryuDp'

section Frames

variable {s s' : State}

theorem State.step_worker_started (unstarted : ∀ w, s.nextWorker ≤ w → s.workers w = .new 0 0)
    {action : Action} {w : WorkerId} (acts : action.worker? = some w)
    (taken : s.step action = some s') : w < s.nextWorker := by
  by_contra outside
  have fresh := unstarted w (Nat.not_lt.mp outside)
  have point : (s.workers w).point = .get := by rw [fresh]; rfl
  have queue : (s.workers w).queue = [] := by rw [fresh]; rfl
  cases action <;> cases acts
  case get =>
    obtain ⟨_, ⟨_, items, _⟩ | ⟨_, _, _, items, _⟩⟩ := State.get_cases taken
    all_goals
      rw [queue] at items
      cases items
  case check =>
    obtain ⟨_, there, _⟩ := State.check_cases taken
    cases point.symm.trans there
  case send =>
    obtain ⟨_, _, there, _⟩ := State.send_cases taken
    cases point.symm.trans there
  case register =>
    obtain ⟨_, there, _⟩ := State.register_cases taken
    cases point.symm.trans there
  case sendBarrier =>
    obtain ⟨_, _, _, there, _⟩ := State.sendBarrier_cases taken
    cases point.symm.trans there
  case wake =>
    obtain ⟨_, _, _, there, _⟩ := State.wake_cases taken
    cases point.symm.trans there
  case timeout =>
    obtain ⟨_, _, _, there, _⟩ := State.timeout_cases taken
    cases point.symm.trans there
  case unwind =>
    obtain ⟨_, _, _, there, _⟩ := State.unwind_cases taken
    cases point.symm.trans there
  case finish =>
    obtain ⟨_, there, _⟩ := State.finish_cases taken
    cases point.symm.trans there
  case raise =>
    obtain ⟨_, there, _⟩ | ⟨_, _, _, there, _⟩ := State.raise_cases taken
    all_goals cases point.symm.trans there

theorem State.popAndStop_stopping (s : State) (dpId : DpId) :
    (s.popAndStop dpId).stopping = s.stopping := by
  unfold State.popAndStop
  split <;> rfl

end Frames

/-- The worker is bound as before and is at the same barrier, if any. -/
def SameBinding (sender sender' : BarrierAwareSender) : Prop :=
  sender'.ryuDp = sender.ryuDp ∧ sender'.dpId = sender.dpId ∧
    sender'.point.xid? = sender.point.xid?

theorem SameBinding.refl (sender : BarrierAwareSender) : SameBinding sender sender :=
  ⟨rfl, rfl, rfl⟩

theorem sameBinding_stop (sender : BarrierAwareSender) : SameBinding sender sender.stop :=
  ⟨BarrierAwareSender.stop_ryuDp _, BarrierAwareSender.stop_dpId _,
    congrArg Point.xid? (BarrierAwareSender.stop_point _)⟩

theorem sameBinding_submit (sender : BarrierAwareSender) (ofmsgs : List Ofmsg)
    (onComplete : Bool) : SameBinding sender (sender.submit ofmsgs onComplete) :=
  ⟨BarrierAwareSender.submit_ryuDp .., BarrierAwareSender.submit_dpId ..,
    congrArg Point.xid? (BarrierAwareSender.submit_point ..)⟩

theorem sameBinding_setWorker {s : State} {w : WorkerId} {sender : BarrierAwareSender}
    (same : SameBinding (s.workers w) sender) (w' : WorkerId) :
    SameBinding (s.workers w') ((s.setWorker w sender).workers w') := by
  by_cases itself : w' = w
  · subst itself
    rwa [State.setWorker_self]
  · rw [State.setWorker_other s itself]
    exact .refl _

namespace ChannelInvariant

variable {s s' : State}

theorem initial : ChannelInvariant State.initial where
  registry := .initial
  unstarted _ _ := rfl
  workerChannel _ inside := absurd inside (Nat.not_lt_zero _)
  sender _ _ registered := by cases registered
  submitted _ member := by cases member
  stopped _ _ member := by cases member
  asked _ _ member := by cases member
  apart _ _ _ _ uses := by cases uses.1

/-- A step that starts no worker, opens no connection, takes no xid into use and
puts no sender in the manager. -/
theorem still (inv : ChannelInvariant s) (registry : RegistryInvariant s')
    (sameNext : s'.nextWorker = s.nextWorker) (sameChannels : s'.channels = s.channels)
    (bindings : ∀ w, SameBinding (s.workers w) (s'.workers w))
    (unstarted : ∀ w, s.nextWorker ≤ w → s'.workers w = s.workers w)
    (senders : ∀ dpId w, s'.senders dpId = some w → s.senders dpId = some w)
    (submitted : ∀ entry ∈ s'.submitting, entry ∈ s.submitting)
    (stopped : ∀ entry ∈ s'.stopping, s.channels[entry.1]? = some entry.2)
    (asked : ∀ entry ∈ s'.unanswered, entry ∈ s.unanswered) : ChannelInvariant s' := by
  have uses : ∀ {ryuDp dpId xid}, UsesXid s' ryuDp dpId xid → UsesXid s ryuDp dpId xid := by
    rintro ryuDp dpId xid ⟨channel, member | ⟨w, ⟨inside, bound⟩, holds⟩⟩
    · exact ⟨sameChannels ▸ channel, .inl (asked _ member)⟩
    · obtain ⟨sameRyuDp, _, sameXid⟩ := bindings w
      exact ⟨sameChannels ▸ channel,
        .inr ⟨w, ⟨sameNext ▸ inside, sameRyuDp ▸ bound⟩, sameXid ▸ holds⟩⟩
  constructor
  case registry => exact registry
  case unstarted =>
    intro w outside
    rw [sameNext] at outside
    rw [unstarted w outside, inv.unstarted w outside]
  case workerChannel =>
    intro w inside
    rw [sameNext] at inside
    rw [(bindings w).1, (bindings w).2.1, sameChannels]
    exact inv.workerChannel w inside
  case sender =>
    intro dpId w registered
    rw [sameNext, (bindings w).2.1]
    exact inv.sender dpId w (senders dpId w registered)
  case submitted =>
    intro entry member
    rw [sameNext]
    exact inv.submitted entry (submitted entry member)
  case stopped =>
    intro ryuDp dpId member
    rw [sameChannels]
    exact stopped _ member
  case asked =>
    intro ryuDp xid member
    rw [sameChannels]
    exact inv.asked ryuDp xid (asked _ member)
  case apart => exact fun _ _ _ _ first second => inv.apart _ _ _ _ (uses first) (uses second)

theorem setWorker (inv : ChannelInvariant s) {w : WorkerId} {sender : BarrierAwareSender}
    (registry : RegistryInvariant (s.setWorker w sender)) (inside : w < s.nextWorker)
    (same : SameBinding (s.workers w) sender) : ChannelInvariant (s.setWorker w sender) :=
  inv.still registry rfl rfl (sameBinding_setWorker same)
    (fun _ outside => s.setWorker_other (Nat.ne_of_gt (Nat.lt_of_lt_of_le inside outside)) sender)
    (fun _ _ registered => registered) (fun _ member => member)
    (fun _ member => inv.stopped _ _ member) (fun _ member => member)

theorem stop (inv : ChannelInvariant s) {w : WorkerId} (inside : w < s.nextWorker) :
    ChannelInvariant (s.setWorker w (s.workers w).stop) :=
  inv.setWorker (inv.registry.stop w) inside (sameBinding_stop _)

/-- A new sender is at no barrier. -/
theorem newSender (inv : ChannelInvariant s) {ryuDp : ChannelId} {dpId : DpId}
    (channel : s.channels[ryuDp]? = some dpId) : ChannelInvariant (s.newSender ryuDp dpId) := by
  have self : (s.newSender ryuDp dpId).workers s.nextWorker = .new ryuDp dpId :=
    s.setWorker_self ..
  have other : ∀ w, w ≠ s.nextWorker → (s.newSender ryuDp dpId).workers w = s.workers w :=
    fun w different => s.setWorker_other different _
  have uses : ∀ {ryuDp' dpId' xid}, UsesXid (s.newSender ryuDp dpId) ryuDp' dpId' xid →
      UsesXid s ryuDp' dpId' xid := by
    rintro ryuDp' dpId' xid ⟨channel', member | ⟨w, ⟨inside, bound⟩, holds⟩⟩
    · exact ⟨channel', .inl member⟩
    · by_cases itself : w = s.nextWorker
      · rw [itself, self] at holds
        cases holds
      · rw [other w itself] at bound holds
        exact ⟨channel', .inr ⟨w, ⟨Nat.lt_of_le_of_ne (Nat.le_of_lt_succ inside) itself, bound⟩,
          holds⟩⟩
  constructor
  case registry => exact inv.registry.newSender ryuDp dpId
  case unstarted =>
    intro w outside
    rw [other w (Nat.ne_of_gt outside)]
    exact inv.unstarted w (Nat.le_of_succ_le outside)
  case workerChannel =>
    intro w inside
    by_cases itself : w = s.nextWorker
    · rw [itself, self]
      exact channel
    · rw [other w itself]
      exact inv.workerChannel w (Nat.lt_of_le_of_ne (Nat.le_of_lt_succ inside) itself)
  case sender =>
    intro dpId' w registered
    change Function.update s.senders dpId (some s.nextWorker) dpId' = some w at registered
    by_cases sameDp : dpId' = dpId
    · subst sameDp
      rw [Function.update_self] at registered
      cases registered
      exact ⟨Nat.lt_succ_self _, by rw [self]; rfl⟩
    · rw [Function.update_of_ne sameDp] at registered
      obtain ⟨inside, bound⟩ := inv.sender dpId' w registered
      refine ⟨Nat.lt_succ_of_lt inside, ?_⟩
      rwa [other w (Nat.ne_of_lt inside)]
  case submitted => exact fun entry member => Nat.lt_succ_of_lt (inv.submitted entry member)
  case stopped => exact inv.stopped
  case asked => exact inv.asked
  case apart => exact fun _ _ _ _ first second => inv.apart _ _ _ _ (uses first) (uses second)

/-- A batch on its way to a sender that has been started. -/
theorem submitting (inv : ChannelInvariant s) {entry : WorkerId × List Ofmsg × Bool}
    (inside : entry.1 < s.nextWorker) :
    ChannelInvariant { s with submitting := entry :: s.submitting } where
  registry := inv.registry.congr rfl rfl rfl rfl
  unstarted := inv.unstarted
  workerChannel := inv.workerChannel
  sender := inv.sender
  submitted entry' member := by
    rcases List.mem_cons.mp member with rfl | old
    · exact inside
    · exact inv.submitted entry' old
  stopped := inv.stopped
  asked := inv.asked
  apart := inv.apart

theorem submitToSender (inv : ChannelInvariant s) {ryuDp : ChannelId} {dpId : DpId}
    (channel : s.channels[ryuDp]? = some dpId) (ofmsgs : List Ofmsg) (onComplete : Bool) :
    ChannelInvariant (s.submitToSender ryuDp dpId ofmsgs onComplete) := by
  unfold State.submitToSender
  split
  · exact inv
  · split
    next =>
      have started := inv.newSender channel
      exact started.submitting (Nat.lt_succ_self _)
    next w registered =>
      have inside := (inv.sender dpId w registered).1
      split
      · exact inv.submitting inside
      · have started := (inv.stop inside).newSender channel
        exact started.submitting (Nat.lt_succ_self _)

theorem connect (inv : ChannelInvariant s) (dpId : DpId) :
    ChannelInvariant { s with channels := s.channels ++ [dpId] } := by
  have old : ∀ {ryuDp dpId'}, s.channels[ryuDp]? = some dpId' →
      (s.channels ++ [dpId])[ryuDp]? = some dpId' := fun {ryuDp _} channel => by
    obtain ⟨inside, _⟩ := List.getElem?_eq_some_iff.mp channel
    rwa [List.getElem?_append_left inside]
  have back : ∀ {ryuDp dpId'}, ryuDp < s.channels.length →
      (s.channels ++ [dpId])[ryuDp]? = some dpId' → s.channels[ryuDp]? = some dpId' :=
    fun inside channel => by rwa [List.getElem?_append_left inside] at channel
  have uses : ∀ {ryuDp dpId' xid},
      UsesXid { s with channels := s.channels ++ [dpId] } ryuDp dpId' xid →
      UsesXid s ryuDp dpId' xid := by
    rintro ryuDp dpId' xid ⟨channel, member | ⟨w, ⟨inside, rfl⟩, holds⟩⟩
    · exact ⟨back (inv.asked _ _ member) channel, .inl member⟩
    · obtain ⟨bound, _⟩ := List.getElem?_eq_some_iff.mp (inv.workerChannel w inside)
      exact ⟨back bound channel, .inr ⟨w, ⟨inside, rfl⟩, holds⟩⟩
  constructor
  case registry => exact inv.registry.congr rfl rfl rfl rfl
  case unstarted => exact inv.unstarted
  case workerChannel => exact fun w inside => old (inv.workerChannel w inside)
  case sender => exact inv.sender
  case submitted => exact inv.submitted
  case stopped => exact fun ryuDp dpId' member => old (inv.stopped ryuDp dpId' member)
  case asked =>
    intro ryuDp xid member
    rw [List.length_append]
    exact Nat.lt_add_right _ (inv.asked ryuDp xid member)
  case apart => exact fun _ _ _ _ first second => inv.apart _ _ _ _ (uses first) (uses second)

theorem popAndStop (inv : ChannelInvariant s) (dpId : DpId) :
    ChannelInvariant (s.popAndStop dpId) := by
  have registry := inv.registry.popAndStop dpId
  unfold State.popAndStop at registry ⊢
  split at registry
  next => exact inv
  next w registered =>
    have stopped := inv.stop (inv.sender dpId w registered).1
    refine stopped.still registry rfl rfl (fun _ => .refl _) (fun _ _ => rfl) ?_
      (fun _ member => member) (fun _ member => inv.stopped _ _ member) (fun _ member => member)
    intro dpId' w' registered'
    change Function.update s.senders dpId none dpId' = some w' at registered'
    by_cases same : dpId' = dpId
    · subst same
      rw [Function.update_self] at registered'
      cases registered'
    · rwa [Function.update_of_ne same] at registered'

/-- A worker takes a new xid into use only when it registers it. -/
theorem usesXid_of_workerStep (inv : ChannelInvariant s) {action : Action} {w : WorkerId}
    (change : WorkerStep s action s' w) (inside : w < s.nextWorker) {ryuDp : ChannelId}
    {dpId : DpId} {xid : Xid} (uses : UsesXid s' ryuDp dpId xid) :
    UsesXid s ryuDp dpId xid ∨
      action = .register w xid ∧ ryuDp = (s.workers w).ryuDp ∧ dpId = (s.workers w).dpId := by
  obtain ⟨sender, workers, sameRyuDp, sameDp, holdsXid, _⟩ := change.workers
  obtain ⟨channel, member | ⟨w', ⟨inside', rfl⟩, holds⟩⟩ := uses
  · rw [change.channels] at channel
    rcases change.unanswered ryuDp xid member with old | ⟨rfl, holds⟩
    · exact .inl ⟨channel, .inl old⟩
    · exact .inl ⟨channel, .inr ⟨w, ⟨inside, rfl⟩, holds⟩⟩
  · rw [change.nextWorker] at inside'
    rw [change.channels] at channel
    by_cases itself : w' = w
    · subst itself
      rw [workers, Function.update_self] at channel holds ⊢
      rw [sameRyuDp] at channel ⊢
      rcases holdsXid xid holds with old | acts
      · exact .inl ⟨channel, .inr ⟨w', ⟨inside, rfl⟩, old⟩⟩
      · exact .inr ⟨acts, rfl, Option.some.inj (channel.symm.trans (inv.workerChannel w' inside))⟩
    · rw [workers, Function.update_of_ne itself] at channel holds ⊢
      exact .inl ⟨channel, .inr ⟨w', ⟨inside', rfl⟩, holds⟩⟩

theorem ofWorkerStep (inv : ChannelInvariant s) {action : Action} {w : WorkerId}
    (change : WorkerStep s action s' w) (inside : w < s.nextWorker)
    (keeps : KeepsApart s action) : ChannelInvariant s' := by
  obtain ⟨sender, workers, sameRyuDp, sameDp, _, _⟩ := change.workers
  have bound : ∀ w', (s'.workers w').ryuDp = (s.workers w').ryuDp ∧
      (s'.workers w').dpId = (s.workers w').dpId := by
    intro w'
    by_cases itself : w' = w
    · subst itself
      rw [workers, Function.update_self]
      exact ⟨sameRyuDp, sameDp⟩
    · rw [workers, Function.update_of_ne itself]
      exact ⟨rfl, rfl⟩
  constructor
  case registry => exact inv.registry.ofWorkerStep change
  case unstarted =>
    intro w' outside
    rw [change.nextWorker] at outside
    rw [workers, Function.update_of_ne (Nat.ne_of_gt (Nat.lt_of_lt_of_le inside outside))]
    exact inv.unstarted w' outside
  case workerChannel =>
    intro w' inside'
    rw [change.nextWorker] at inside'
    rw [(bound w').1, (bound w').2, change.channels]
    exact inv.workerChannel w' inside'
  case sender =>
    intro dpId w' registered
    rw [change.senders] at registered
    rw [change.nextWorker, (bound w').2]
    exact inv.sender dpId w' registered
  case submitted =>
    intro entry member
    rw [change.submitting] at member
    rw [change.nextWorker]
    exact inv.submitted entry member
  case stopped =>
    intro ryuDp dpId member
    rw [change.stopping] at member
    rw [change.channels]
    exact inv.stopped ryuDp dpId member
  case asked =>
    intro ryuDp xid member
    rw [change.channels]
    rcases change.unanswered ryuDp xid member with old | ⟨rfl, _⟩
    · exact inv.asked ryuDp xid old
    · obtain ⟨inside', _⟩ := List.getElem?_eq_some_iff.mp (inv.workerChannel w inside)
      exact inside'
  case apart =>
    intro ryuDp ryuDp' dpId xid first second
    rcases inv.usesXid_of_workerStep change inside first with old | ⟨rfl, mine, dp⟩ <;>
      rcases inv.usesXid_of_workerStep change inside second with old' | ⟨acts, mine', dp'⟩
    · exact inv.apart _ _ _ _ old old'
    · subst acts dp'
      rw [mine']
      exact keeps ryuDp old
    · rw [mine]
      exact (keeps ryuDp' (dp ▸ old')).symm
    · rw [mine, mine']

/-- **Every step keeps the invariant** when it keeps the connections apart. -/
theorem step (inv : ChannelInvariant s) {action : Action} (keeps : KeepsApart s action)
    (taken : s.step action = some s') : ChannelInvariant s' := by
  have registry := inv.registry.step taken
  cases acts : action.worker? with
  | some w =>
      exact inv.ofWorkerStep (workerStep acts taken)
        (State.step_worker_started inv.unstarted acts taken) keeps
  | none =>
      cases action <;> cases acts
      case connect.refl dpId =>
        cases taken
        exact inv.connect dpId
      case submit.refl ryuDp ofmsgs onComplete =>
        obtain ⟨dpId, channel, rfl⟩ := Option.map_eq_some_iff.mp taken
        exact inv.submitToSender channel ofmsgs onComplete
      case enqueue.refl index =>
        obtain ⟨⟨w, ofmsgs, onComplete⟩, there, rfl⟩ := Option.map_eq_some_iff.mp taken
        have inside := inv.submitted _ (List.mem_of_getElem? there)
        exact (inv.setWorker (inv.registry.enqueue w ofmsgs onComplete) inside
          (sameBinding_submit _ ofmsgs onComplete)).still registry rfl rfl (fun _ => .refl _)
          (fun _ _ => rfl) (fun _ _ registered => registered)
          (fun _ member => List.mem_of_mem_eraseIdx member)
          (fun _ member => inv.stopped _ _ member) (fun _ member => member)
      case reply.refl ryuDp xid =>
        obtain ⟨dpId, _, _, rfl⟩ := State.reply_cases taken
        exact inv.still registry rfl rfl (fun _ => .refl _) (fun _ _ => rfl)
          (fun _ _ registered => registered) (fun _ member => member)
          (fun _ member => inv.stopped _ _ member) (fun _ member => List.mem_of_mem_erase member)
      case cancelBarriers.refl dpId =>
        cases taken
        exact inv.still registry rfl rfl (fun _ => .refl _) (fun _ _ => rfl)
          (fun _ _ registered => registered) (fun _ member => member)
          (fun _ member => inv.stopped _ _ member) (fun _ member => member)
      case disconnect.refl ryuDp =>
        obtain ⟨dpId, channel, rfl⟩ := Option.map_eq_some_iff.mp taken
        refine inv.still registry rfl rfl (fun _ => .refl _) (fun _ _ => rfl)
          (fun _ _ registered => registered) (fun _ member => member) ?_ (fun _ member => member)
        intro entry member
        rcases List.mem_cons.mp member with rfl | old
        · exact channel
        · exact inv.stopped _ _ old
      case stopSender.refl index =>
        obtain ⟨⟨ryuDp, dpId⟩, there, rfl⟩ := Option.map_eq_some_iff.mp taken
        have popped := inv.popAndStop dpId
        exact popped.still registry rfl rfl (fun _ => .refl _) (fun _ _ => rfl)
          (fun _ _ registered => registered) (fun _ member => member)
          (fun _ member => popped.stopped _ _ (by
            rw [State.popAndStop_stopping]
            exact List.mem_of_mem_eraseIdx member))
          (fun _ member => member)

end ChannelInvariant

/-! ## Isolation -/

section Isolation

variable {s s' : State} {older newer : ChannelId}

theorem Replaces.ne (replaces : Replaces s older newer) : newer ≠ older :=
  Nat.ne_of_gt replaces.1

/-- A worker of the newer connection is not one of the older. -/
theorem Replaces.worker_ne (replaces : Replaces s older newer) {w w' : WorkerId}
    (serves : Serves s newer w') (bound : (s.workers w).ryuDp = older) : w' ≠ w := by
  rintro rfl
  exact replaces.ne (serves.2.symm.trans bound)

/-- The waiter of a worker is stored under the worker's key, which the worker's
connection has in use. -/
theorem ChannelInvariant.waiter_key (inv : ChannelInvariant s) {w : WorkerId} {frame : Frame}
    {xid : Xid} {event : EventId} (serves : Serves s newer w)
    (held : (s.workers w).point.barrier? = some (frame, xid, event)) {waiter : Waiter}
    (member : waiter ∈ s.barrierWaiters) (same : waiter.event = event) :
    s.channels[newer]? = some waiter.dpId ∧ UsesXid s newer waiter.dpId waiter.xid := by
  obtain ⟨sameDp, sameXid⟩ := inv.registry.heldKey w frame xid event held waiter member same
  have channel := inv.workerChannel w serves.1
  rw [serves.2, ← sameDp] at channel
  refine ⟨channel, channel, .inr ⟨w, serves, ?_⟩⟩
  rw [sameXid]
  exact Point.xid?_of_barrier? held

/-- A step of a worker of the older connection. -/
theorem ChannelInvariant.untouched_workerStep (inv : ChannelInvariant s) {action : Action}
    {w : WorkerId} (change : WorkerStep s action s' w) (inside : w < s.nextWorker)
    (keeps : KeepsApart s action) (replaces : Replaces s (s.workers w).ryuDp newer) :
    Untouched s s' newer := by
  obtain ⟨sender, workers, _⟩ := change.workers
  constructor
  case worker =>
    intro w' serves
    rw [workers, Function.update_of_ne (replaces.worker_ne serves rfl)]
  case sender =>
    intro w' dpId _ registered
    rw [change.senders]
    exact registered
  case waiter =>
    intro w' frame xid event serves held
    refine ⟨by rw [change.isSet], fun waiter member same => ?_⟩
    rcases change.kept waiter member with kept | ⟨sameDp, key⟩
    · exact kept
    · obtain ⟨_, uses⟩ := inv.waiter_key serves held member same
      have mine : newer = (s.workers w).ryuDp := by
        rcases key with atXid | rfl
        · rw [sameDp] at uses
          exact inv.apart _ _ _ _ uses
            ⟨inv.workerChannel w inside, .inr ⟨w, ⟨inside, rfl⟩, atXid⟩⟩
        · exact keeps newer (sameDp ▸ uses)
      exact absurd mine replaces.ne
  case batch =>
    intro w' _
    rw [change.submitting]
  case closed => exact change.closed newer replaces.ne

theorem Untouched.refl (s : State) (newer : ChannelId) : Untouched s s newer where
  worker _ _ := rfl
  sender _ _ _ registered := registered
  waiter _ _ _ _ _ _ := ⟨rfl, fun _ member _ => member⟩
  batch _ _ := rfl
  closed := rfl

/-- A step that leaves the registry and the channel alone. -/
theorem Untouched.still (workers : ∀ w, Serves s newer w → s'.workers w = s.workers w)
    (senders : ∀ w dpId, Serves s newer w → s.senders dpId = some w → s'.senders dpId = some w)
    (sameSet : s'.isSet = s.isSet) (sameWaiters : s'.barrierWaiters = s.barrierWaiters)
    (batches : ∀ w, Serves s newer w →
      s'.submitting.filter (·.1 == w) = s.submitting.filter (·.1 == w))
    (sameClosed : s'.closed = s.closed) : Untouched s s' newer where
  worker := workers
  sender := senders
  waiter _ _ _ _ _ _ := ⟨by rw [sameSet], fun waiter member _ => by rwa [sameWaiters]⟩
  batch := batches
  closed := by rw [sameClosed]

/-- A step that releases waiters, none of them of the newer connection. -/
theorem Untouched.release (released : Waiter → Bool)
    (spares : ∀ w frame xid event, Serves s newer w →
      (s.workers w).point.barrier? = some (frame, xid, event) →
      ∀ waiter ∈ s.barrierWaiters, waiter.event = event → released waiter = false)
    (workers : s'.workers = s.workers) (senders : s'.senders = s.senders)
    (waiters : s'.barrierWaiters = s.barrierWaiters.filter fun waiter => !released waiter)
    (sets : ∀ event, s'.isSet event =
      (s.isSet event || (s.barrierWaiters.filter released).any (·.event == event)))
    (submitting : s'.submitting = s.submitting) (closed : s'.closed newer = s.closed newer) :
    Untouched s s' newer where
  worker w _ := by rw [workers]
  sender w dpId _ registered := by rwa [senders]
  waiter w frame xid event serves held := by
    have spared := spares w frame xid event serves held
    constructor
    · have unset : (s.barrierWaiters.filter released).any (·.event == event) = false := by
        rw [List.any_eq_false]
        intro waiter member same
        obtain ⟨present, released⟩ := List.mem_filter.mp member
        rw [spared waiter present (beq_iff_eq.mp same)] at released
        cases released
      rw [sets, unset, Bool.or_false]
    · intro waiter member same
      rw [waiters]
      exact List.mem_filter.mpr ⟨member, by rw [spared waiter member same]; rfl⟩
  batch w _ := by rw [submitting]
  closed := closed

theorem filter_cons_other {w w' : WorkerId} (other : w' ≠ w) (item : List Ofmsg × Bool)
    (items : List (WorkerId × List Ofmsg × Bool)) :
    ((w, item) :: items).filter (·.1 == w') = items.filter (·.1 == w') :=
  List.filter_cons_of_neg (by simpa using Ne.symm other)

/-- The older connection's message finds no sender, or one that is not newer. -/
theorem untouched_submit {dpId : DpId}
    (channel : s.channels[older]? = some dpId) {ofmsgs : List Ofmsg} {onComplete : Bool}
    (keeps : KeepsApart s (.submit older ofmsgs onComplete)) (replaces : Replaces s older newer) :
    Untouched s (s.submitToSender older dpId ofmsgs onComplete) newer := by
  -- the sender that is looked up is never one of the newer connection
  have found : (ofmsgs.isEmpty && !onComplete) = false → ∀ w, s.senders dpId = some w →
      (s.workers w).ryuDp ≠ newer := by
    rintro sends w registered rfl
    rcases keeps with idle | keeps
    · rw [sends] at idle
      cases idle
    · exact keeps dpId w channel registered replaces
  have kept : (ofmsgs.isEmpty && !onComplete) = false → ∀ w dpId' next, Serves s newer w →
      s.senders dpId' = some w →
      Function.update s.senders dpId (some next) dpId' = some w := by
    intro sends w dpId' next serves registered
    by_cases same : dpId' = dpId
    · subst same
      exact absurd serves.2 (found sends w registered)
    · rwa [Function.update_of_ne same]
  unfold State.submitToSender
  split
  next => exact .refl s newer
  next sends =>
    have sends := Bool.not_eq_true _ ▸ sends
    split
    next =>
      exact .still (fun w serves => s.setWorker_other (Nat.ne_of_lt serves.1) _)
        (fun w dpId' serves => kept sends w dpId' _ serves) rfl rfl
        (fun w serves => filter_cons_other (Nat.ne_of_lt serves.1) ..) rfl
    next w registered =>
      have notNewer := found sends w registered
      split
      next bound =>
        exact .still (fun _ _ => rfl) (fun _ _ _ registered => registered) rfl rfl
          (fun w' serves => filter_cons_other (replaces.worker_ne serves bound) ..) rfl
      next =>
        refine .still (fun w' serves => ?_) (fun w' dpId' serves => kept sends w' dpId' _ serves)
          rfl rfl (fun w' serves => filter_cons_other (Nat.ne_of_lt serves.1) ..) rfl
        have other : w' ≠ w := by
          rintro rfl
          exact notNewer serves.2
        exact (State.setWorker_other _ (Nat.ne_of_lt serves.1) _).trans
          (s.setWorker_other other _)

theorem filter_eraseIdx {α : Type*} {p : α → Bool} {xs : List α} {index : Nat} {x : α}
    (there : xs[index]? = some x) (drops : p x = false) :
    (xs.eraseIdx index).filter p = xs.filter p := by
  induction xs generalizing index with
  | nil => rfl
  | cons y ys ih =>
      cases index with
      | zero =>
          cases there
          rw [List.eraseIdx_cons_zero, List.filter_cons_of_neg (by simp [drops])]
      | succ index =>
          rw [List.eraseIdx_cons_succ, List.filter_cons, List.filter_cons, ih there]

/-- The sender that is popped is not one of the newer connection. -/
theorem untouched_popAndStop {dpId : DpId}
    (keeps : ∀ w, s.senders dpId = some w → ¬ Replaces s older (s.workers w).ryuDp)
    (replaces : Replaces s older newer) : Untouched s (s.popAndStop dpId) newer := by
  have notNewer : ∀ w, s.senders dpId = some w → (s.workers w).ryuDp ≠ newer := by
    rintro w registered rfl
    exact keeps w registered replaces
  unfold State.popAndStop
  split
  next => exact .refl s newer
  next w registered =>
    refine .still (fun w' serves => s.setWorker_other ?_ _) (fun w' dpId' serves registered' => ?_)
      rfl rfl (fun _ _ => rfl) rfl
    · rintro rfl
      exact notNewer w' registered serves.2
    · change Function.update s.senders dpId none dpId' = some w'
      by_cases same : dpId' = dpId
      · subst same
        exact absurd serves.2 (notNewer w' registered')
      · rwa [Function.update_of_ne same]

/-- **A step that keeps the connections apart** leaves every newer connection alone. -/
theorem ChannelInvariant.isolated (inv : ChannelInvariant s) {action : Action}
    (keeps : KeepsApart s action) (taken : s.step action = some s') : Isolated s action s' := by
  intro older newer mine replaces
  cases acts : action.worker? with
  | some w =>
      have inside := State.step_worker_started inv.unstarted acts taken
      have bound : (s.workers w).ryuDp = older := by
        cases action <;> cases acts <;> exact Option.some.inj mine
      subst bound
      exact inv.untouched_workerStep (workerStep acts taken) inside keeps replaces
  | none =>
      cases action <;> cases acts
      case connect.refl => cases mine
      case cancelBarriers.refl => cases mine
      case submit.refl ryuDp ofmsgs onComplete =>
        cases mine
        obtain ⟨dpId, channel, rfl⟩ := Option.map_eq_some_iff.mp taken
        exact untouched_submit channel keeps replaces
      case enqueue.refl index =>
        obtain ⟨⟨w, ofmsgs, onComplete⟩, there, rfl⟩ := Option.map_eq_some_iff.mp taken
        obtain ⟨_, there', bound⟩ := Option.map_eq_some_iff.mp mine
        cases there.symm.trans there'
        have other : ∀ w', Serves s newer w' → w' ≠ w :=
          fun w' serves => replaces.worker_ne serves bound
        exact .still (fun w' serves => s.setWorker_other (other w' serves) _)
          (fun _ _ _ registered => registered) rfl rfl
          (fun w' serves => filter_eraseIdx there (by simpa using Ne.symm (other w' serves))) rfl
      case reply.refl ryuDp xid =>
        cases mine
        obtain ⟨dpId, channel, asked, rfl⟩ := State.reply_cases taken
        refine .release (fun waiter => waiter.dpId == dpId && waiter.xid == xid) ?_ rfl rfl rfl
          (fun _ => rfl) rfl rfl
        intro w frame xid' event serves held waiter member same
        obtain ⟨_, uses⟩ := inv.waiter_key serves held member same
        rw [Bool.and_eq_false_iff, beq_eq_false_iff_ne, beq_eq_false_iff_ne,
          ← Decidable.not_and_iff_not_or_not]
        rintro ⟨sameDp, sameXid⟩
        rw [sameDp, sameXid] at uses
        exact replaces.ne (inv.apart _ _ _ _ uses ⟨channel, .inl asked⟩)
      case disconnect.refl ryuDp =>
        cases mine
        obtain ⟨dpId, channel, rfl⟩ := Option.map_eq_some_iff.mp taken
        refine .release (fun waiter => waiter.dpId == dpId) ?_ rfl rfl rfl
          (fun _ => rfl) rfl (Function.update_of_ne replaces.ne ..)
        intro w frame xid event serves held waiter member same
        exact absurd ⟨frame, xid, event, held, waiter, member, same⟩
          (keeps newer w replaces serves)
      case stopSender.refl index =>
        obtain ⟨⟨ryuDp, dpId⟩, there, rfl⟩ := Option.map_eq_some_iff.mp taken
        obtain ⟨_, there', bound⟩ := Option.map_eq_some_iff.mp mine
        cases there.symm.trans there'
        cases bound
        have popped := untouched_popAndStop
          (fun w registered => keeps ryuDp dpId w there registered) replaces
        exact ⟨popped.worker, popped.sender, popped.waiter, popped.batch, popped.closed⟩

end Isolation

/-- **No step of an older connection touches a newer one** of the same datapath, in
every run whose steps keep the connections apart. -/
theorem isolated_of_keepsApart {s s' : State} {action : Action}
    (reaches : Reaches State.step KeepsApart State.initial s) (keeps : KeepsApart s action)
    (taken : s.step action = some s') : Isolated s action s' :=
  (reaches.invariant ChannelInvariant ChannelInvariant.initial
    fun inv keeps taken => inv.step keeps taken).isolated keeps taken

/-- The second connection has a batch on its way when the first one is lost. -/
def reconnectRun : List Action := [.connect 1, .connect 1, .submit 1 [.message 7] true]

theorem isolated_reconnectRun :
    ∃ s s', exec State.step State.initial reconnectRun = some s ∧ Replaces s 0 1 ∧
      Serves s 1 0 ∧ s.step (.disconnect 0) = some s' ∧ Isolated s (.disconnect 0) s' := by
  have allowed : Allowed State.step KeepsApart State.initial reconnectRun :=
    ⟨trivial, trivial, .inr nofun, trivial⟩
  refine ⟨_, _, rfl, ⟨Nat.one_pos, 1, rfl, rfl⟩, ⟨Nat.one_pos, rfl⟩, rfl,
    isolated_of_keepsApart (.of_exec _ allowed rfl) ?_ rfl⟩
  rintro newer w - ⟨inside, _⟩ ⟨frame, xid, event, held, _⟩
  cases Nat.lt_one_iff.mp inside
  cases held

/-- The disconnect of the first connection, handled after the second one has a
sender. -/
def lateDisconnectRun : List Action :=
  [.connect 1, .connect 1, .submit 1 [.message 7] true, .disconnect 0]

/-- A late disconnect of the older connection stops the sender of the newer one. -/
theorem not_isolated_of_late_disconnect :
    ¬ ∀ s action s', Reaches State.step anyStep State.initial s → s.step action = some s' →
      Isolated s action s' := by
  intro isolated
  have untouched := isolated _ (.stopSender 0) _
    (.of_exec lateDisconnectRun (allowed_anyStep _ _) rfl) rfl 0 1 rfl
    ⟨Nat.one_pos, 1, rfl, rfl⟩
  have kept := untouched.sender 0 1 ⟨Nat.one_pos, rfl⟩ rfl
  cases kept

end Faucet.Send
