import Faucet.Send.ConfigApplied

/-!
# Which marks of applied configurations are true

A mark says that the switch has acknowledged what the last application of a configuration
made for it, or a cold start that began after it.

The callback of a batch does not know which configuration its batch was made for: a batch
that is still on its way at the next application marks its datapath later
(`not_truthful_of_reload`), and a datapath that connects is marked before it has answered
anything. From any state in which a datapath is not marked and none of its batches of an
earlier application can still call back, its mark is true in every run in which no
application finds such a batch, the datapath connects only while it is marked, and no
cancel is taken for a reply (`truthful_of_timely`).
-/

set_option autoImplicit false

namespace Faucet.Send

open TransitionSystem

/-! ## What a mark says -/

/-- The switch has answered every barrier of the worker's batch of this number, which has
been sent to its end. -/
def Acked (history : List Event) (w : WorkerId) (number : Nat) : Prop :=
  ∃ frame : Frame, frame.number = number ∧ frame.next = frame.batch.length ∧
    AllAnswered history w frame ∧
    (.completed w frame ∈ history ∨
      .sent w { frame with next := frame.batch.length - 1 } ∈ history)

/-- The batch of this number is in the worker's queue, or at hand. -/
def BarrierAwareSender.Holds (sender : BarrierAwareSender) (number : Nat) : Prop :=
  sender.point ≠ .exited ∧
    (sender.taken ≤ number ∨ ∃ frame, sender.point.frame? = some frame ∧ frame.number = number)

namespace Manager

/-- The switch has acknowledged what the last application made for it, or a cold start
that began after it. -/
def Acknowledged (m : Manager) (dpId : DpId) : Prop :=
  ∃ w number, ((m.batches w)[number]? = some (.apply dpId m.application) ∨
    (m.batches w)[number]? = some (.coldStart dpId m.application)) ∧
    Acked m.send.history w number

/-- The mark of the datapath is true. -/
def Truthful (m : Manager) (dpId : DpId) : Prop :=
  m.configApplied dpId = true → m.Acknowledged dpId

/-- The end of a batch that an earlier application made for the datapath marks nothing. -/
def NeverStale (m : Manager) (dpId : DpId) (command : Command) (next : Manager) : Prop :=
  ∀ w application, command = .thread (.finish w) →
    m.callback? w = some (dpId, application) → application ≠ m.application →
    next.configApplied = m.configApplied

/-- A batch that this application has made for the datapath can still call back. -/
def InFlight (m : Manager) (dpId : DpId) (application : Nat) : Prop :=
  .apply dpId application ∈ m.origins ∨
    ∃ w number, (m.batches w)[number]? = some (.apply dpId application) ∧
      (m.send.workers w).Holds number

/-- Barriers are cancelled only where that is harmless. -/
def Harmless (m : Manager) : Command → Prop
  | .thread action => CancelsHarmless m.send action
  | .reload (some ryuDp) none => CancelsHarmless m.send (.disconnect ryuDp)
  | _ => True

/-- No configuration is applied while a batch can still call back for the datapath, and the
datapath connects only while it is marked. -/
def Timely (dpId : DpId) (m : Manager) (command : Command) : Prop :=
  m.Harmless command ∧
    match command with
    | .applyConfigs (some _) => ∀ application, ¬ m.InFlight dpId application
    | .datapathConnect ryuDp _ =>
        m.send.channels[ryuDp]? = some dpId → m.configApplied dpId = true
    | _ => True

end Manager

/-! ## What is acknowledged stays acknowledged -/

section Grows

variable {s s' : State} {action : Action} {m next : Manager} {w : WorkerId} {dpId : DpId}
  {number : Nat} {history : List Event}

/-- Nothing that was done is forgotten. -/
theorem history_step (taken : s.step action = some s') :
    ∃ recent, s'.history = recent ++ s.history := by
  cases action
  case get =>
    obtain ⟨_, ⟨_, _, rfl⟩ | ⟨_, _, _, _, rfl⟩⟩ := State.get_cases taken
    all_goals exact ⟨[], rfl⟩
  case check =>
    obtain ⟨_, _, _, rfl⟩ := State.check_cases taken
    exact ⟨[], rfl⟩
  case send =>
    obtain ⟨_, _, _, _, rfl⟩ := State.send_cases taken
    exact ⟨[_], rfl⟩
  case register =>
    obtain ⟨_, _, _, rfl⟩ := State.register_cases taken
    exact ⟨[_], rfl⟩
  case sendBarrier =>
    obtain ⟨_, _, _, _, rfl⟩ := State.sendBarrier_cases taken
    exact ⟨[_], rfl⟩
  case wake =>
    obtain ⟨_, _, _, _, _, rfl⟩ := State.wake_cases taken
    exact ⟨[], rfl⟩
  case timeout =>
    obtain ⟨_, _, _, _, _, rfl⟩ := State.timeout_cases taken
    exact ⟨[], rfl⟩
  case unwind =>
    obtain ⟨_, _, _, _, rfl⟩ := State.unwind_cases taken
    exact ⟨[], rfl⟩
  case finish =>
    obtain ⟨_, _, _, ⟨_, rfl⟩ | ⟨_, rfl⟩⟩ := State.finish_cases taken
    · exact ⟨[_], rfl⟩
    · exact ⟨[], rfl⟩
  case raise =>
    obtain ⟨_, _, rfl⟩ | ⟨_, _, _, _, rfl⟩ := State.raise_cases taken
    all_goals exact ⟨[], rfl⟩
  case connect =>
    cases taken
    exact ⟨[], rfl⟩
  case submit =>
    obtain ⟨_, _, rfl⟩ := Option.map_eq_some_iff.mp taken
    exact ⟨[], (closed_submitToSender ..).2⟩
  case enqueue =>
    obtain ⟨_, _, rfl⟩ := Option.map_eq_some_iff.mp taken
    exact ⟨[], rfl⟩
  case reply =>
    obtain ⟨_, _, _, rfl⟩ := State.reply_cases taken
    exact ⟨[_], rfl⟩
  case cancelBarriers =>
    cases taken
    exact ⟨[], rfl⟩
  case disconnect =>
    obtain ⟨_, _, rfl⟩ := Option.map_eq_some_iff.mp taken
    exact ⟨[], rfl⟩
  case stopSender =>
    obtain ⟨⟨_, dpId⟩, _, rfl⟩ := Option.map_eq_some_iff.mp taken
    exact ⟨[], (closed_popAndStop dpId).2⟩

theorem Acked.append (acked : Acked history w number) (recent : List Event) :
    Acked (recent ++ history) w number := by
  obtain ⟨frame, counted, atEnd, answered, done⟩ := acked
  exact ⟨frame, counted, atEnd, answered.append recent,
    done.imp (List.mem_append_right _) (List.mem_append_right _)⟩

/-- The batches and the history only grow, within one application. -/
structure Manager.Grows (m next : Manager) : Prop where
  application : next.application = m.application
  history : ∃ recent, next.send.history = recent ++ m.send.history
  batches : ∀ w, m.batches w <+: next.batches w

theorem Manager.Acknowledged.grows (acknowledged : m.Acknowledged dpId) (grows : m.Grows next) :
    next.Acknowledged dpId := by
  obtain ⟨w, number, origin, acked⟩ := acknowledged
  obtain ⟨recent, history⟩ := grows.history
  have kept : ∀ {origin}, (m.batches w)[number]? = some origin →
      (next.batches w)[number]? = some origin := by
    intro origin found
    obtain ⟨later, batches⟩ := grows.batches w
    rw [← batches, List.getElem?_append_left (List.getElem?_eq_some_iff.mp found).1]
    exact found
  refine ⟨w, number, ?_, history ▸ acked.append recent⟩
  rw [grows.application]
  exact origin.imp kept kept

theorem Manager.grows_submit {ryuDp : ChannelId} {ofmsgs : List Ofmsg} {origin : Origin}
    (taken : m.submit ryuDp ofmsgs origin = some next) : m.Grows next := by
  obtain ⟨send, sent, rfl⟩ := Option.map_eq_some_iff.mp taken
  exact ⟨rfl, history_step sent, fun _ => List.prefix_refl _⟩

theorem Manager.grows_enqueue {index : Nat} (taken : m.enqueue index = some next) :
    m.Grows next := by
  unfold Manager.enqueue at taken
  split at taken
  next w _ origin _ _ =>
    obtain ⟨send, sent, rfl⟩ := Option.map_eq_some_iff.mp taken
    refine ⟨rfl, history_step sent, fun w' => ?_⟩
    dsimp only
    split
    · exact List.prefix_refl _
    · by_cases same : w' = w
      · subst same
        rw [Function.update_self]
        exact List.prefix_append _ _
      · simp only [Function.update_of_ne same, List.prefix_refl]
  next => cases taken

end Grows

/-! ## Which batches are in flight -/

section Holds

variable {s s' : State} {action : Action} {w : WorkerId} {number : Nat}
  {sender sender' : BarrierAwareSender}

/-- A worker that moves holds no batch that it has not held. -/
theorem holds_of_moves (moves : Moves s s' action w sender) (holds : sender.Holds number) :
    (s.workers w).Holds number := by
  obtain ⟨running, held⟩ := holds
  cases moves with
  | sentinel | leave | lost | raise => exact absurd rfl running
  | take point items =>
      refine ⟨by simp [point], .inl ?_⟩
      rcases held with queued | ⟨frame, stands, rfl⟩
      · exact Nat.le_of_succ_le queued
      · cases stands
        exact Nat.le_refl _
  | finish point outside =>
      refine ⟨by simp [point], .inl (held.resolve_right ?_)⟩
      rintro ⟨frame, stands, _⟩
      cases stands
  | check point | send point | register point | sendBarrier point | unwind point =>
      refine ⟨by simp [point], held.imp_right ?_⟩
      rintro ⟨frame, stands, rfl⟩
      cases stands
      exact ⟨_, congrArg Point.frame? point, rfl⟩
  | @wait frame xid event acked point =>
      refine ⟨by simp [point], held.imp_right ?_⟩
      rintro ⟨frame, stands, rfl⟩
      cases acked <;> cases stands
      exact ⟨_, congrArg Point.frame? point, rfl⟩

theorem holds_of_handled (handled : Handled sender sender') (holds : sender'.Holds number) :
    sender.Holds number := by
  unfold BarrierAwareSender.Holds at *
  cases handled with
  | same => exact holds
  | stop => simpa using holds
  | submit => simpa using holds

theorem holds_of_step (taken : s.step action = some s') (inside : w < s.nextWorker)
    (holds : (s'.workers w).Holds number) : (s.workers w).Holds number := by
  by_cases acts : action.worker? = some w
  · exact holds_of_moves (moves_of_step acts taken) holds
  · exact holds_of_handled (handled_of_step acts inside taken) holds

end Holds

namespace Manager

variable {m next : Manager} {command : Command} {w : WorkerId} {dpId : DpId}

/-- What the next state has submitted and handed over was there, or is submitted for the
last application. -/
structure Delivers (m next : Manager) : Prop where
  send : next.send = m.send ∨ ∃ action, m.send.step action = some next.send
  origins : ∀ dpId application, .apply dpId application ∈ next.origins →
    .apply dpId application ∈ m.origins ∨ application = m.application
  batches : ∀ (w : WorkerId) (number : Nat) (origin : Origin),
    (next.batches w)[number]? = some origin →
      (m.batches w)[number]? = some origin ∨ origin ∈ m.origins

theorem delivers_of_eq (send : next.send = m.send) (origins : next.origins = m.origins)
    (batches : next.batches = m.batches) : m.Delivers next where
  send := .inl send
  origins _ _ member := .inl (origins ▸ member)
  batches _ _ _ found := .inl (batches ▸ found)

theorem delivers_submit {ryuDp : ChannelId} {ofmsgs : List Ofmsg} {origin : Origin}
    (last : ∀ dpId application, origin = .apply dpId application → application = m.application)
    (taken : m.submit ryuDp ofmsgs origin = some next) : m.Delivers next := by
  obtain ⟨send, sent, rfl⟩ := Option.map_eq_some_iff.mp taken
  refine ⟨.inr ⟨_, sent⟩, fun dpId application member => ?_, fun _ _ _ found => .inl found⟩
  dsimp only at member
  split at member
  · exact .inl member
  · rcases List.mem_cons.mp member with same | old
    · exact .inr (last dpId application same.symm)
    · exact .inl old

theorem delivers_thread {action : Action} (taken : m.thread action = some next) :
    m.Delivers next := by
  obtain ⟨send, sent, rfl⟩ := Option.map_eq_some_iff.mp taken
  exact ⟨.inr ⟨_, sent⟩, fun _ _ => .inl, fun _ _ _ => .inl⟩

theorem delivers_finish (taken : m.finish w = some next) : m.Delivers next := by
  obtain ⟨send, sent, rfl⟩ := Option.map_eq_some_iff.mp taken
  split
  · exact ⟨.inr ⟨_, sent⟩, fun _ _ => .inl, fun _ _ _ => .inl⟩
  · exact ⟨.inr ⟨_, sent⟩, fun _ _ => .inl, fun _ _ _ => .inl⟩

theorem delivers_enqueue {index : Nat} (taken : m.enqueue index = some next) :
    m.Delivers next := by
  unfold Manager.enqueue at taken
  split at taken
  next w _ origin _ submitted =>
    obtain ⟨send, sent, rfl⟩ := Option.map_eq_some_iff.mp taken
    refine ⟨.inr ⟨_, sent⟩, fun _ _ member => .inl (List.mem_of_mem_eraseIdx member),
      fun w' number origin' found => ?_⟩
    dsimp only at found
    split at found
    · exact .inl found
    · by_cases same : w' = w
      · subst same
        rw [Function.update_self, List.getElem?_append] at found
        split at found
        · exact .inl found
        · have new := List.mem_singleton.mp (List.mem_of_getElem? found)
          exact .inr (new ▸ List.mem_of_getElem? submitted)
      · rw [Function.update_of_ne same] at found
        exact .inl found
  next => cases taken

theorem delivers_of_step (taken : m.step command = some next) : m.Delivers next := by
  cases does_of_step taken with
  | submit taken => exact delivers_submit (fun _ _ other => by cases other) taken
  | enqueue taken => exact delivers_enqueue taken
  | finish taken => exact delivers_finish taken
  | thread _ taken => exact delivers_thread taken
  | rejected | applied | skipped => exact delivers_of_eq rfl rfl rfl
  | reloaded taken =>
      have delivers := delivers_submit (fun _ _ same => by cases same; rfl) taken
      exact ⟨delivers.send, delivers.origins, delivers.batches⟩
  | restarted taken =>
      have delivers := delivers_thread taken
      exact ⟨delivers.send, delivers.origins, delivers.batches⟩
  | connected _ taken =>
      have delivers := delivers_submit (fun _ _ other => by cases other) taken
      exact ⟨delivers.send, delivers.origins, delivers.batches⟩

/-- What can call back after a step could do so before, or is of the last application. -/
theorem inFlight_of_step (aligned : m.Aligned) {application : Nat}
    (taken : m.step command = some next) (inFlight : next.InFlight dpId application) :
    m.InFlight dpId application ∨ application = m.application := by
  have delivers := delivers_of_step taken
  rcases inFlight with submitted | ⟨w, number, found, holds⟩
  · exact (delivers.origins dpId application submitted).imp_left .inl
  · rcases delivers.batches w number _ found with old | new
    · refine .inl (.inr ⟨w, number, old, ?_⟩)
      have started : w < m.send.nextWorker := by
        by_contra outside
        rw [aligned.unstarted w (Nat.le_of_not_lt outside)] at old
        cases old
      rcases delivers.send with same | ⟨action, sent⟩
      · exact same ▸ holds
      · exact holds_of_step sent started holds
    · exact .inl (.inl new)

end Manager

/-! ## The invariant -/

namespace Manager

variable {m next : Manager} {command : Command} {w : WorkerId} {dpId : DpId}

theorem acks_thread (acks : AckInvariant m.send) {action : Action}
    (harmless : CancelsHarmless m.send action) (taken : m.thread action = some next) :
    AckInvariant next.send := by
  obtain ⟨send, sent, rfl⟩ := Option.map_eq_some_iff.mp taken
  exact acks.step harmless sent

theorem acks_submit (acks : AckInvariant m.send) {ryuDp : ChannelId} {ofmsgs : List Ofmsg}
    {origin : Origin} (taken : m.submit ryuDp ofmsgs origin = some next) :
    AckInvariant next.send := by
  obtain ⟨send, sent, rfl⟩ := Option.map_eq_some_iff.mp taken
  have harmless : CancelsHarmless m.send (.submit ryuDp ofmsgs origin.onComplete) := trivial
  exact acks.step harmless sent

/-- While cancels are harmless, nothing is taken for an answer that is none. -/
theorem acks_step (acks : AckInvariant m.send) (harmless : m.Harmless command)
    (taken : m.step command = some next) : AckInvariant next.send := by
  cases does_of_step taken with
  | submit taken => exact acks_submit acks taken
  | @enqueue index _ taken =>
      have harmless : CancelsHarmless m.send (.enqueue index) := harmless
      unfold Manager.enqueue at taken
      split at taken
      · obtain ⟨send, sent, rfl⟩ := Option.map_eq_some_iff.mp taken
        exact acks.step harmless sent
      · cases taken
  | @finish w _ taken =>
      have harmless : CancelsHarmless m.send (.finish w) := harmless
      obtain ⟨send, sent, rfl⟩ := Option.map_eq_some_iff.mp taken
      split <;> exact acks.step harmless sent
  | thread _ taken => exact acks_thread acks harmless taken
  | rejected | applied | skipped => exact acks
  | @reloaded _ _ _ rest _ taken =>
      exact acks_submit (m := { m with reloading := rest }) acks taken
  | @restarted ryuDp rest _ taken =>
      have harmless : CancelsHarmless m.send (.disconnect ryuDp) := harmless
      exact acks_thread (m := { m with reloading := rest }) acks harmless taken
  | @connected _ _ dpId _ _ taken => exact acks_submit (m := m.markApplied dpId) acks taken

/-- The senders are as they should be, only batches of the last application can call back for
the datapath, and its mark is true. -/
structure Invariant (m : Manager) (dpId : DpId) : Prop where
  acks : AckInvariant m.send
  aligned : m.Aligned
  current : ∀ application, m.InFlight dpId application → application = m.application
  truthful : m.Truthful dpId

theorem markApplied_of_ne {other : DpId} (same : other ≠ dpId) :
    (m.markApplied dpId).configApplied other = m.configApplied other :=
  Function.update_of_ne same _ _

theorem Truthful.grows (truthful : m.Truthful dpId) (grows : m.Grows next)
    (marks : next.configApplied dpId = true → m.configApplied dpId = true) :
    next.Truthful dpId :=
  fun marked => (truthful (marks marked)).grows grows

theorem grows_thread {action : Action} (taken : m.thread action = some next) :
    m.Grows next := by
  obtain ⟨send, sent, rfl⟩ := Option.map_eq_some_iff.mp taken
  exact ⟨rfl, history_step sent, fun _ => List.prefix_refl _⟩

theorem configApplied_submit {ryuDp : ChannelId} {ofmsgs : List Ofmsg} {origin : Origin}
    (taken : m.submit ryuDp ofmsgs origin = some next) :
    next.configApplied = m.configApplied := by
  obtain ⟨send, _, rfl⟩ := Option.map_eq_some_iff.mp taken
  rfl

theorem configApplied_enqueue {index : Nat} (taken : m.enqueue index = some next) :
    next.configApplied = m.configApplied := by
  unfold Manager.enqueue at taken
  split at taken
  · obtain ⟨send, _, rfl⟩ := Option.map_eq_some_iff.mp taken
    rfl
  · cases taken

theorem configApplied_thread {action : Action} (taken : m.thread action = some next) :
    next.configApplied = m.configApplied := by
  obtain ⟨send, _, rfl⟩ := Option.map_eq_some_iff.mp taken
  rfl

theorem callback_cases {application : Nat} (called : m.callback? w = some (dpId, application)) :
    ∃ frame, (m.send.workers w).point = .loop frame ∧ frame.onComplete = true ∧
      (m.batches w)[frame.number]? = some (.apply dpId application) := by
  unfold callback? at called
  split at called
  next frame point =>
    split at called
    next onComplete =>
      split at called
      next dpId application origin =>
        cases called
        exact ⟨frame, point, onComplete, origin⟩
      next => cases called
    next => cases called
  next => cases called

/-- A batch that completes has been acknowledged. -/
theorem acked_of_finish {send : State} {frame : Frame} (acks : AckInvariant send)
    (point : (m.send.workers w).point = .loop frame) (onComplete : frame.onComplete = true)
    (sent : m.send.step (.finish w) = some send) : Acked send.history w frame.number := by
  obtain ⟨frame', point', _, ⟨_, rfl⟩ | ⟨unasked, _⟩⟩ := State.finish_cases sent
  · cases point.symm.trans point'
    obtain ⟨⟨answered, atEnd, _⟩, _⟩ := acks.safe
    exact ⟨frame, rfl, atEnd, answered.append [_], .inl List.mem_cons_self⟩
  · cases point.symm.trans point'
    rw [onComplete] at unasked
    cases unasked

/-- A batch that is about to call back is in flight. -/
theorem inFlight_of_callback {application : Nat}
    (called : m.callback? w = some (dpId, application)) : m.InFlight dpId application := by
  obtain ⟨frame, point, _, origin⟩ := callback_cases called
  refine .inr ⟨w, frame.number, origin, by simp [point], .inr ⟨frame, ?_, rfl⟩⟩
  rw [point]
  rfl

/-- The batch that marks its datapath is of the last application, and has been acknowledged. -/
theorem Invariant.finish (inv : m.Invariant dpId) (taken : m.finish w = some next) :
    next.Truthful dpId := by
  obtain ⟨send, sent, rfl⟩ := Option.map_eq_some_iff.mp taken
  have harmless : CancelsHarmless m.send (.finish w) := trivial
  have grows : ∀ marks, m.Grows { m with send := send, configApplied := marks } :=
    fun _ => ⟨rfl, history_step sent, fun _ => List.prefix_refl _⟩
  split
  next dpId' application called =>
    by_cases same : dpId = dpId'
    · subst same
      obtain rfl := inv.current application (inFlight_of_callback called)
      obtain ⟨frame, point, onComplete, origin⟩ := callback_cases called
      exact fun _ => ⟨w, frame.number, .inl origin,
        acked_of_finish (inv.acks.step harmless sent) point onComplete sent⟩
    · intro marked
      rw [markApplied_of_ne same] at marked
      exact (inv.truthful marked).grows (grows _)
  next => exact inv.truthful.grows (grows _) id

/-- A timely step leaves the mark true. -/
theorem Invariant.truthful_step (inv : m.Invariant dpId) (timely : m.Timely dpId command)
    (taken : m.step command = some next) : next.Truthful dpId := by
  cases does_of_step taken with
  | submit taken =>
      exact inv.truthful.grows (grows_submit taken) fun marked => configApplied_submit taken ▸ marked
  | enqueue taken =>
      exact inv.truthful.grows (grows_enqueue taken)
        fun marked => configApplied_enqueue taken ▸ marked
  | finish taken => exact inv.finish taken
  | thread _ taken =>
      exact inv.truthful.grows (grows_thread taken) fun marked => configApplied_thread taken ▸ marked
  | rejected | applied => exact fun marked => absurd marked Bool.false_ne_true
  | skipped => exact inv.truthful
  | @reloaded _ _ _ rest _ taken =>
      have waiting : Truthful { m with reloading := rest } dpId := inv.truthful
      exact waiting.grows (grows_submit taken) fun marked => configApplied_submit taken ▸ marked
  | @restarted _ rest _ taken =>
      have waiting : Truthful { m with reloading := rest } dpId := inv.truthful
      exact waiting.grows (grows_thread taken) fun marked => configApplied_thread taken ▸ marked
  | @connected ryuDp ofmsgs dpId' _ channel taken =>
      have marked : (m.markApplied dpId').Truthful dpId := by
        by_cases same : dpId = dpId'
        · subst same
          exact fun _ => inv.truthful (timely.2 channel)
        · intro marked
          rw [markApplied_of_ne same] at marked
          exact inv.truthful marked
      exact marked.grows (grows_submit taken) fun marked => configApplied_submit taken ▸ marked

theorem application_step (taken : m.step command = some next) :
    next.application = m.application ∨ ∃ dps, command = .applyConfigs (some dps) := by
  cases does_of_step taken with
  | submit taken => exact .inl (grows_submit taken).application
  | enqueue taken => exact .inl (grows_enqueue taken).application
  | finish taken =>
      obtain ⟨send, sent, rfl⟩ := Option.map_eq_some_iff.mp taken
      split <;> exact .inl rfl
  | thread _ taken => exact .inl (grows_thread taken).application
  | rejected | skipped => exact .inl rfl
  | applied dps => exact .inr ⟨dps, rfl⟩
  | @reloaded _ _ _ rest _ taken =>
      exact .inl (grows_submit (m := { m with reloading := rest }) taken).application
  | @restarted _ rest _ taken =>
      exact .inl (grows_thread (m := { m with reloading := rest }) taken).application
  | @connected _ _ dpId' _ _ taken =>
      exact .inl (grows_submit (m := m.markApplied dpId') taken).application

/-- **Every timely step keeps the invariant.** -/
theorem Invariant.step (inv : m.Invariant dpId) (timely : m.Timely dpId command)
    (taken : m.step command = some next) : next.Invariant dpId where
  acks := acks_step inv.acks timely.1 taken
  aligned := inv.aligned.step taken
  truthful := inv.truthful_step timely taken
  current application inFlight := by
    have before := inFlight_of_step inv.aligned taken inFlight
    rcases application_step taken with same | ⟨dps, rfl⟩
    · rw [same]
      exact before.elim (inv.current application) id
    · -- an application finds nothing that could call back, and submits nothing itself
      cases does_of_step taken
      exact absurd inFlight (timely.2 application)

/-- **The mark of a datapath is true** from any state on, whatever has happened before, in
which it is not marked and no batch of an earlier application can call back for it, along
all timely steps; and no batch of an earlier application marks it. -/
theorem truthful_of_timely {start : Manager} (before : Reaches Manager.step Harmless .initial start)
    (unmarked : start.configApplied dpId = false)
    (current : ∀ application, start.InFlight dpId application → application = start.application)
    (reaches : Reaches Manager.step (Timely dpId) start m) :
    m.Truthful dpId ∧ ∀ command next, m.step command = some next →
      m.NeverStale dpId command next := by
  have acks : AckInvariant start.send :=
    before.invariant (fun m => AckInvariant m.send) AckInvariant.initial acks_step
  have aligned : start.Aligned :=
    before.invariant Aligned aligned_initial fun aligned _ taken => aligned.step taken
  have first : start.Invariant dpId :=
    ⟨acks, aligned, current, fun marked => absurd (unmarked.symm.trans marked) Bool.false_ne_true⟩
  have inv := reaches.invariant (Invariant · dpId) first fun inv timely taken => inv.step timely taken
  refine ⟨inv.truthful, fun command next taken w application ends called stale => ?_⟩
  exact absurd (inv.current application (inFlight_of_callback called)) stale

/-! ## Runs -/

/-- A datapath connects for the first time and is cold started, and then a configuration is
applied again. -/
def coldRun : List Command :=
  [.applyConfigs (some [1]), .thread (.connect 1), .datapathConnect 0 [.message 7],
    .thread (.enqueue 0), .thread (.get 0), .thread (.check 0), .thread (.send 0),
    .thread (.finish 0), .applyConfigs (some [1])]

/-- The switch answers its reload, reconnects while it is marked, and is reloaded again. -/
def reloadsRun : List Command :=
  [.reload (some 0) (some [.message 8]), .thread (.enqueue 0), .thread (.get 0),
    .thread (.check 0), .thread (.send 0), .thread (.check 0), .thread (.register 0 5),
    .thread (.sendBarrier 0), .thread (.reply 0 5), .thread (.wake 0), .thread (.unwind 0),
    .thread (.finish 0),
    .thread (.disconnect 0), .thread (.stopSender 0), .thread (.connect 1),
    .datapathConnect 1 [.message 7], .thread (.enqueue 0), .thread (.get 1), .thread (.check 1),
    .thread (.send 1), .thread (.finish 1),
    .applyConfigs (some [1]), .reload (some 1) (some [.message 9]), .thread (.enqueue 0),
    .thread (.get 1), .thread (.check 1), .thread (.send 1), .thread (.check 1),
    .thread (.register 1 6), .thread (.sendBarrier 1), .thread (.reply 1 6), .thread (.wake 1),
    .thread (.unwind 1), .thread (.finish 1)]

/-- Only the second batch of the first worker was made by an application. -/
theorem secondBatch {w : WorkerId} {number application : Nat}
    (found : (Function.update (Function.update (Function.update (fun _ => [])
      0 [.coldStart 1 1]) 0 [.coldStart 1 1, .apply 1 2]) 1 [.coldStart 1 2] w)[number]? =
        some (Origin.apply 1 application)) : w = 0 ∧ number = 1 := by
  by_cases second : w = 1
  · subst second
    rcases number with _ | number <;> simp at found
  · by_cases first : w = 0
    · subst first
      rcases number with _ | _ | number
      · simp at found
      · exact ⟨rfl, rfl⟩
      · simp at found
    · simp [first, second] at found

theorem truthful_reloadsRun :
    ∃ start m, exec Manager.step .initial coldRun = some start ∧
      exec Manager.step start reloadsRun = some m ∧ m.configApplied 1 = true ∧
      m.Truthful 1 ∧ ∀ command next, m.step command = some next → m.NeverStale 1 command next := by
  have before : Allowed Manager.step Harmless .initial coldRun :=
    ⟨trivial, trivial, trivial, trivial, trivial, trivial, trivial, trivial, trivial, trivial⟩
  obtain ⟨start, cold, unmarked, origins, batches, rest⟩ :
      ∃ start, exec Manager.step .initial coldRun = some start ∧
        start.configApplied 1 = false ∧ start.origins = [] ∧
        start.batches = Function.update (fun _ => []) 0 [.coldStart 1 1] ∧
        ∃ m, exec Manager.step start reloadsRun = some m ∧ m.configApplied 1 = true ∧
          Allowed Manager.step (Timely 1) start reloadsRun := by
    refine ⟨_, rfl, rfl, rfl, rfl, _, rfl, rfl, ?_⟩
    refine ⟨⟨trivial, trivial⟩, ⟨trivial, trivial⟩, ⟨trivial, trivial⟩, ⟨trivial, trivial⟩,
      ⟨trivial, trivial⟩, ⟨trivial, trivial⟩, ⟨trivial, trivial⟩, ⟨trivial, trivial⟩,
      ⟨trivial, trivial⟩, ⟨trivial, trivial⟩, ⟨trivial, trivial⟩, ⟨trivial, trivial⟩, ⟨?_, trivial⟩,
      ⟨trivial, trivial⟩, ⟨trivial, trivial⟩, ⟨trivial, fun _ => rfl⟩, ⟨trivial, trivial⟩,
      ⟨trivial, trivial⟩, ⟨trivial, trivial⟩, ⟨trivial, trivial⟩, ⟨trivial, trivial⟩, ⟨trivial, ?_⟩,
      ⟨trivial, trivial⟩, ⟨trivial, trivial⟩, ⟨trivial, trivial⟩, ⟨trivial, trivial⟩,
      ⟨trivial, trivial⟩, ⟨trivial, trivial⟩, ⟨trivial, trivial⟩, ⟨trivial, trivial⟩,
      ⟨trivial, trivial⟩, ⟨trivial, trivial⟩, ⟨trivial, trivial⟩, ⟨trivial, trivial⟩, trivial⟩
    · intro dpId _ w frame xid event _ _ listed
      exact absurd listed List.not_mem_nil
    · rintro application (submitted | ⟨w, number, found, _, holds⟩)
      · exact absurd submitted List.not_mem_nil
      · obtain ⟨rfl, rfl⟩ : w = 0 ∧ number = 1 := secondBatch found
        rcases holds with queued | ⟨frame, stands, _⟩
        · exact absurd queued (show ¬ 2 ≤ 1 by decide)
        · cases stands
  obtain ⟨m, executed, marked, timely⟩ := rest
  have current : ∀ application, start.InFlight 1 application → application = start.application := by
    rintro application (submitted | ⟨w, number, found, _⟩)
    · rw [origins] at submitted
      cases submitted
    · rw [batches] at found
      by_cases first : w = 0
      · subst first
        rcases number with _ | number <;> simp at found
      · simp [first] at found
  exact ⟨start, m, cold, executed, marked, truthful_of_timely (.of_exec coldRun before cold)
    unmarked current (.of_exec reloadsRun timely executed)⟩

/-- A datapath is cold started and reloaded, and is reloaded again before it answers; its
answer to the first reload then counts for the second. -/
def reloadRun : List Command :=
  [.applyConfigs (some [1]), .thread (.connect 1), .datapathConnect 0 [.message 7],
    .thread (.enqueue 0), .thread (.get 0), .thread (.check 0), .thread (.send 0),
    .thread (.finish 0),
    .applyConfigs (some [1]), .reload (some 0) (some [.message 8]), .thread (.enqueue 0),
    .thread (.get 0), .thread (.check 0), .thread (.send 0), .thread (.check 0),
    .thread (.register 0 5), .thread (.sendBarrier 0),
    .applyConfigs (some [1]), .reload (some 0) (some [.message 9]), .thread (.enqueue 0),
    .thread (.reply 0 5), .thread (.wake 0), .thread (.unwind 0), .thread (.finish 0)]

/-- After a reload that overtakes the answer to another, a datapath is marked that has not
acknowledged the last configuration. -/
theorem not_truthful_of_reload :
    ¬ ∀ m, Reaches Manager.step anyStep .initial m → ∀ dpId,
      m.Truthful dpId ∧
        ∀ command next, m.step command = some next → m.NeverStale dpId command next := by
  intro truthful
  obtain ⟨m, ran, marked, current, batches, history⟩ :
      ∃ m, exec Manager.step .initial reloadRun = some m ∧ m.configApplied 1 = true ∧
        m.application = 3 ∧
        m.batches = Function.update (Function.update (Function.update (fun _ => [])
          0 [.coldStart 1 1]) 0 [.coldStart 1 1, .apply 1 2])
          0 [.coldStart 1 1, .apply 1 2, .apply 1 3] ∧
        m.send.history = [.completed 0 ⟨1, [.message 8, .barrierRequest], 2, true⟩, .replied 1 5,
          .sent 0 ⟨1, [.message 8, .barrierRequest], 1, true⟩,
          .registered 0 ⟨1, [.message 8, .barrierRequest], 1, true⟩ 1 5,
          .sent 0 ⟨1, [.message 8, .barrierRequest], 0, true⟩,
          .sent 0 ⟨0, [.message 7], 0, false⟩] :=
    ⟨_, rfl, rfl, rfl, rfl, rfl⟩
  obtain ⟨w, number, origin, frame, counted, _, _, done⟩ :=
    (truthful m (.of_exec reloadRun (allowed_anyStep _ _) ran) 1).1 marked
  have earlier : frame.number ≤ 1 := by
    rw [history] at done
    rcases done with done | done
    · have ended : frame.number = 1 := by simp_all
      omega
    · simp only [List.mem_cons, Event.sent.injEq, Frame.mk.injEq, reduceCtorEq, false_or,
        List.not_mem_nil, or_false] at done
      rcases done with ⟨_, second, _⟩ | ⟨_, second, _⟩ | ⟨_, first, _⟩ <;> omega
  by_cases first : w = 0
  · subst first
    rw [current, batches, Function.update_self] at origin
    rcases number with _ | _ | number
    · simp at origin
    · simp at origin
    · omega
  · simp [batches, first] at origin

end Manager

end Faucet.Send
