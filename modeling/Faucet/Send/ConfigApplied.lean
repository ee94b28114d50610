import Faucet.Send.Acknowledgement
import Faucet.Send.Lifetime

/-!
# The manager that applies configurations

`_apply_configs` forgets which datapaths have applied the configuration, reloads each
valve that there is, and submits what has changed with a callback that marks the datapath.
A datapath that connects is marked at once, and a cold start is submitted for it.

The loop of `_apply_configs` can be interleaved with the threads of the senders. What each
batch was submitted for (`Origin`) is known by its place in the queue of its worker
(`Aligned`), so the batch at hand when a callback runs is the one that it was given with
(`exists_callback`).
-/

set_option autoImplicit false

namespace Faucet.Send

open TransitionSystem

/-! ## The manager -/

/-- What a batch was submitted for: a datapath and the number of the application. -/
inductive Origin where
  | apply (dpId : DpId) (application : Nat)
  | coldStart (dpId : DpId) (application : Nat)
  | other
deriving DecidableEq, Repr

/-- Only what `_apply_configs` submits has a callback. -/
def Origin.onComplete : Origin → Bool
  | .apply .. => true
  | _ => false

/-- The valves manager over its senders. -/
structure Manager where
  send : State
  valves : List DpId
  configApplied : DpId → Bool
  /-- how many configurations have been applied -/
  application : Nat
  /-- the datapaths that the loop of `_apply_configs` has still to reload -/
  reloading : List DpId
  /-- of the calls in `send.submitting` -/
  origins : List Origin
  /-- of all batches of a worker, in the order of its queue, which is that of their numbers -/
  batches : WorkerId → List Origin

/-- A step of the senders' threads, or one of the manager. -/
inductive Command where
  | thread (action : Action)
  /-- `_apply_configs` up to its loop; a configuration that is rejected has no datapaths -/
  | applyConfigs (newDps : Option (List DpId))
  /-- the loop reloads the next valve, whose datapath may be connected: `reload_config`
  returns messages, or none for a cold start -/
  | reload (ryuDp : Option ChannelId) (ofmsgs : Option (List Ofmsg))
  /-- `_datapath_connect` -/
  | datapathConnect (ryuDp : ChannelId) (ofmsgs : List Ofmsg)

namespace Manager

/-- No datapath is configured. -/
def initial : Manager where
  send := .initial
  valves := []
  configApplied := fun _ => false
  application := 0
  reloading := []
  origins := []
  batches := fun _ => []

/-- `update_config_applied({dp_id: True})` -/
def markApplied (m : Manager) (dpId : DpId) : Manager :=
  { m with configApplied := Function.update m.configApplied dpId true }

/-- A batch is submitted, and where it comes from is noted. -/
def submit (m : Manager) (ryuDp : ChannelId) (ofmsgs : List Ofmsg) (origin : Origin) :
    Option Manager :=
  (m.send.step (.submit ryuDp ofmsgs origin.onComplete)).map fun send =>
    { m with
      send := send
      origins := if ofmsgs.isEmpty && !origin.onComplete then m.origins else origin :: m.origins }

/-- A sender that is stopped takes no batches. -/
def enqueue (m : Manager) (index : Nat) : Option Manager :=
  match m.send.submitting[index]?, m.origins[index]? with
  | some (w, _), some origin =>
      (m.send.step (.enqueue index)).map fun send =>
        { m with
          send := send
          origins := m.origins.eraseIdx index
          batches := if (m.send.workers w).stopped then m.batches
            else Function.update m.batches w (m.batches w ++ [origin]) }
  | _, _ => none

/-- The datapath that the callback of the worker's batch marks, and the application that
the batch is of. -/
def callback? (m : Manager) (w : WorkerId) : Option (DpId × Nat) :=
  match (m.send.workers w).point with
  | .loop frame =>
      if frame.onComplete then
        match (m.batches w)[frame.number]? with
        | some (.apply dpId application) => some (dpId, application)
        | _ => none
      else none
  | _ => none

/-- The end of a batch, with `_mark_dp_config_applied`. -/
def finish (m : Manager) (w : WorkerId) : Option Manager :=
  (m.send.step (.finish w)).map fun send =>
    match m.callback? w with
    | some (dpId, _) => { m with send := send }.markApplied dpId
    | none => { m with send := send }

/-- A step of the threads that hands over no batch and ends none. -/
def thread (m : Manager) (action : Action) : Option Manager :=
  (m.send.step action).map fun send => { m with send := send }

/-- The reload of a valve whose datapath is connected. -/
def reloadConnected (m : Manager) (dpId : DpId) (ryuDp : ChannelId) :
    Option (List Ofmsg) → Option Manager
  | some ofmsgs => m.submit ryuDp ofmsgs (.apply dpId m.application)
  | none => m.thread (.disconnect ryuDp)

/-- A step of a thread, or of the manager. -/
def step (m : Manager) : Command → Option Manager
  | .thread (.submit ryuDp ofmsgs onComplete) =>
      if onComplete then none else m.submit ryuDp ofmsgs .other
  | .thread (.enqueue index) => m.enqueue index
  | .thread (.finish w) => m.finish w
  | .thread action => m.thread action
  | .applyConfigs newDps =>
      if m.reloading ≠ [] then none
      else
        let reset := { m with configApplied := fun _ => false }
        match newDps with
        | none => some reset
        | some dps =>
            some { reset with
              application := m.application + 1
              reloading := dps.filter (· ∈ m.valves)
              valves := dps }
  | .reload ryuDp ofmsgs =>
      match m.reloading with
      | [] => none
      | dpId :: rest =>
          match ryuDp with
          | none => some { m with reloading := rest }
          | some ryuDp =>
              if m.send.channels[ryuDp]? = some dpId then
                { m with reloading := rest }.reloadConnected dpId ryuDp ofmsgs
              else none
  | .datapathConnect ryuDp ofmsgs =>
      match m.send.channels[ryuDp]? with
      | none => none
      | some dpId =>
          if dpId ∈ m.valves ∧ m.reloading = [] then
            (m.markApplied dpId).submit ryuDp ofmsgs (.coldStart dpId m.application)
          else none

end Manager

/-! ## What a command does -/

/-- The steps that hand over a batch. -/
def HandsOver : Action → Bool
  | .submit .. | .enqueue _ => true
  | _ => false

namespace Manager

/-- The manager's commands, each with the step of its senders. -/
inductive Does (m : Manager) : Command → Manager → Prop where
  | submit {ryuDp : ChannelId} {ofmsgs : List Ofmsg} {next : Manager}
      (taken : m.submit ryuDp ofmsgs .other = some next) :
      Does m (.thread (.submit ryuDp ofmsgs false)) next
  | enqueue {index : Nat} {next : Manager} (taken : m.enqueue index = some next) :
      Does m (.thread (.enqueue index)) next
  | finish {w : WorkerId} {next : Manager} (taken : m.finish w = some next) :
      Does m (.thread (.finish w)) next
  | thread {action : Action} {next : Manager} (other : HandsOver action = false)
      (taken : m.thread action = some next) : Does m (.thread action) next
  | rejected : Does m (.applyConfigs none) { m with configApplied := fun _ => false }
  | applied (dps : List DpId) :
      Does m (.applyConfigs (some dps))
        { m with
          configApplied := fun _ => false
          application := m.application + 1
          reloading := dps.filter (· ∈ m.valves)
          valves := dps }
  | skipped {ofmsgs : Option (List Ofmsg)} (rest : List DpId) :
      Does m (.reload none ofmsgs) { m with reloading := rest }
  | reloaded {ryuDp : ChannelId} {ofmsgs : List Ofmsg} {dpId : DpId} {rest : List DpId}
      {next : Manager}
      (taken : { m with reloading := rest }.submit ryuDp ofmsgs (.apply dpId m.application) =
        some next) :
      Does m (.reload (some ryuDp) (some ofmsgs)) next
  | restarted {ryuDp : ChannelId} {rest : List DpId} {next : Manager}
      (taken : { m with reloading := rest }.thread (.disconnect ryuDp) = some next) :
      Does m (.reload (some ryuDp) none) next
  | connected {ryuDp : ChannelId} {ofmsgs : List Ofmsg} {dpId : DpId} {next : Manager}
      (channel : m.send.channels[ryuDp]? = some dpId)
      (taken : (m.markApplied dpId).submit ryuDp ofmsgs (.coldStart dpId m.application) =
        some next) :
      Does m (.datapathConnect ryuDp ofmsgs) next

theorem does_of_step {m next : Manager} {command : Command} (taken : m.step command = some next) :
    m.Does command next := by
  cases command with
  | thread action =>
      cases action with
      | submit ryuDp ofmsgs onComplete =>
          rw [Manager.step] at taken
          cases onComplete with
          | true => cases taken
          | false => exact .submit taken
      | enqueue index => exact .enqueue taken
      | finish w => exact .finish taken
      | _ => exact .thread rfl taken
  | applyConfigs newDps =>
      rw [Manager.step] at taken
      split at taken
      · cases taken
      · cases newDps with
        | none =>
            cases taken
            exact .rejected
        | some dps =>
            cases taken
            exact .applied dps
  | reload ryuDp ofmsgs =>
      rw [Manager.step] at taken
      split at taken
      · cases taken
      next dpId rest _ =>
        cases ryuDp with
        | none =>
            cases taken
            exact .skipped rest
        | some ryuDp =>
            dsimp only at taken
            split at taken
            · cases ofmsgs with
              | some ofmsgs => exact .reloaded taken
              | none => exact .restarted taken
            · cases taken
  | datapathConnect ryuDp ofmsgs =>
      rw [Manager.step] at taken
      split at taken
      · cases taken
      next dpId channel =>
        split at taken
        · exact .connected channel taken
        · cases taken

end Manager

/-! ## The numbers of the batches -/

/-- The callbacks of the batches in a queue. -/
def pending : List QueueItem → List Bool
  | [] => []
  | .batch _ onComplete :: queue => onComplete :: pending queue
  | .stopSentinel :: queue => pending queue

theorem pending_append (queue later : List QueueItem) :
    pending (queue ++ later) = pending queue ++ pending later := by
  induction queue with
  | nil => rfl
  | cons item queue ih => cases item <;> simp [pending, ih]

/-- The batches from the worker's count on are those in its queue, and the one at hand is
that of its number. -/
structure Numbered (callbacks : List Bool) (sender : BarrierAwareSender) : Prop where
  taken : sender.taken ≤ callbacks.length
  queued : callbacks.drop sender.taken = pending sender.queue
  current : ∀ frame, sender.point.frame? = some frame →
    callbacks[frame.number]? = some frame.onComplete

section Numbered

variable {s s' : State} {action : Action} {w : WorkerId} {callbacks : List Bool}
  {sender : BarrierAwareSender}

theorem numbered_new (ryuDp : ChannelId) (dpId : DpId) : Numbered [] (.new ryuDp dpId) :=
  ⟨Nat.le_refl 0, rfl, nofun⟩

theorem Numbered.goto (numbered : Numbered callbacks sender) {point : Point}
    (current : ∀ frame, point.frame? = some frame →
      ∃ held, sender.point.frame? = some held ∧ held.number = frame.number ∧
        held.onComplete = frame.onComplete) :
    Numbered callbacks { sender with point := point } := by
  refine ⟨numbered.taken, numbered.queued, fun frame stands => ?_⟩
  obtain ⟨held, holds, number, onComplete⟩ := current frame stands
  rw [← number, ← onComplete]
  exact numbered.current held holds

theorem Numbered.take (numbered : Numbered callbacks sender) {ofmsgs : List Ofmsg}
    {onComplete : Bool} {queue : List QueueItem} (batch : List Ofmsg)
    (items : sender.queue = .batch ofmsgs onComplete :: queue) :
    Numbered callbacks { sender with
      queue := queue
      point := .loop ⟨sender.taken, batch, 0, onComplete⟩
      taken := sender.taken + 1 } := by
  have queued := numbered.queued
  rw [items, pending] at queued
  have inside : sender.taken < callbacks.length := by
    by_contra outside
    rw [List.drop_eq_nil_of_le (Nat.le_of_not_lt outside)] at queued
    cases queued
  rw [List.drop_eq_getElem_cons inside] at queued
  obtain ⟨first, rest⟩ := List.cons.inj queued
  refine ⟨inside, rest, fun frame stands => ?_⟩
  cases stands
  exact List.getElem?_eq_some_iff.mpr ⟨inside, first⟩

theorem Numbered.moves (numbered : Numbered callbacks (s.workers w))
    (moves : Moves s s' action w sender) : Numbered callbacks sender := by
  cases moves with
  | sentinel point items =>
      refine ⟨numbered.taken, ?_, nofun⟩
      rw [numbered.queued, items]
      rfl
  | take point items => exact numbered.take _ items
  | leave | lost | finish | raise => exact numbered.goto nofun
  | check point | send point | register point | sendBarrier point | unwind point =>
      refine numbered.goto fun frame stands => ?_
      cases stands
      exact ⟨_, congrArg Point.frame? point, rfl, rfl⟩
  | @wait frame xid event acked point =>
      refine numbered.goto fun frame stands => ?_
      cases acked <;> cases stands
      exact ⟨_, congrArg Point.frame? point, rfl, rfl⟩

theorem Numbered.stop (numbered : Numbered callbacks sender) : Numbered callbacks sender.stop := by
  unfold BarrierAwareSender.stop
  split
  · exact numbered
  · refine ⟨numbered.taken, ?_, numbered.current⟩
    rw [numbered.queued, pending_append]
    exact (List.append_nil _).symm

/-- A sender that is not stopped numbers the batch it is handed. -/
theorem Numbered.submit (numbered : Numbered callbacks sender) {ofmsgs : List Ofmsg}
    {onComplete : Bool} (nonempty : (ofmsgs.isEmpty && !onComplete) = false) :
    Numbered (if sender.stopped then callbacks else callbacks ++ [onComplete])
      (sender.submit ofmsgs onComplete) := by
  unfold BarrierAwareSender.submit
  split
  · exact numbered
  · rw [nonempty, if_neg Bool.false_ne_true]
    constructor
    case taken => exact Nat.le_trans numbered.taken (by simp)
    case queued =>
      rw [List.drop_append_of_le_length numbered.taken, numbered.queued, pending_append]
      rfl
    case current =>
      intro frame stands
      have found := numbered.current frame stands
      rwa [List.getElem?_append_left (List.getElem?_eq_some_iff.mp found).1]

theorem numbered_newSender {callbacks : WorkerId → List Bool}
    (numbered : ∀ w, Numbered (callbacks w) (s.workers w)) (fresh : callbacks s.nextWorker = [])
    (ryuDp : ChannelId) (dpId : DpId) (w : WorkerId) :
    Numbered (callbacks w) ((s.newSender ryuDp dpId).workers w) := by
  change Numbered _ ((s.setWorker s.nextWorker (.new ryuDp dpId)).workers w)
  by_cases same : w = s.nextWorker
  · subst same
    rw [State.setWorker_self, fresh]
    exact numbered_new ryuDp dpId
  · rw [State.setWorker_other s same]
    exact numbered w

theorem numbered_stop {callbacks : WorkerId → List Bool}
    (numbered : ∀ w, Numbered (callbacks w) (s.workers w)) (w' w : WorkerId) :
    Numbered (callbacks w) ((s.setWorker w' (s.workers w').stop).workers w) := by
  by_cases same : w = w'
  · subst same
    rw [State.setWorker_self]
    exact (numbered w).stop
  · rw [State.setWorker_other s same]
    exact numbered w

theorem numbered_submitToSender {callbacks : WorkerId → List Bool}
    (numbered : ∀ w, Numbered (callbacks w) (s.workers w)) (fresh : callbacks s.nextWorker = [])
    (ryuDp : ChannelId) (dpId : DpId) (ofmsgs : List Ofmsg) (onComplete : Bool) (w : WorkerId) :
    Numbered (callbacks w) ((s.submitToSender ryuDp dpId ofmsgs onComplete).workers w) := by
  unfold State.submitToSender
  split
  · exact numbered w
  · split
    next => exact numbered_newSender numbered fresh ryuDp dpId w
    next w' _ =>
      split
      · exact numbered w
      · exact numbered_newSender (s := s.setWorker w' (s.workers w').stop)
          (numbered_stop numbered w') fresh ryuDp dpId w

theorem submitting_submitToSender (ryuDp : ChannelId) (dpId : DpId) (ofmsgs : List Ofmsg)
    (onComplete : Bool) : ∃ w, (s.submitToSender ryuDp dpId ofmsgs onComplete).submitting =
      if ofmsgs.isEmpty && !onComplete then s.submitting
      else (w, ofmsgs, onComplete) :: s.submitting := by
  unfold State.submitToSender
  split
  · exact ⟨0, rfl⟩
  · split
    · exact ⟨_, rfl⟩
    · split <;> exact ⟨_, rfl⟩

/-- What the other steps leave as it is. -/
structure Undelivered (s s' : State) : Prop where
  numbered : ∀ {callbacks : List Bool} {w}, Numbered callbacks (s.workers w) →
    Numbered callbacks (s'.workers w)
  nextWorker : s'.nextWorker = s.nextWorker
  submitting : s'.submitting = s.submitting

theorem undelivered_of_step (other : HandsOver action = false) (taken : s.step action = some s') :
    Undelivered s s' := by
  cases acts : action.worker? with
  | some w =>
      have change := workerStep acts taken
      obtain ⟨sender, workers, _⟩ := change.workers
      refine ⟨fun {_ w'} numbered => ?_, change.nextWorker, change.submitting⟩
      by_cases same : w' = w
      · subst same
        exact numbered.moves (moves_of_step acts taken)
      · rwa [workers, Function.update_of_ne same]
  | none =>
      cases action <;> cases acts
      case submit.refl | enqueue.refl => cases other
      case connect.refl | cancelBarriers.refl =>
        cases taken
        exact ⟨id, rfl, rfl⟩
      case reply.refl =>
        obtain ⟨_, _, _, rfl⟩ := State.reply_cases taken
        exact ⟨id, rfl, rfl⟩
      case disconnect.refl =>
        obtain ⟨_, _, rfl⟩ := Option.map_eq_some_iff.mp taken
        exact ⟨id, rfl, rfl⟩
      case stopSender.refl =>
        obtain ⟨⟨_, dpId⟩, _, rfl⟩ := Option.map_eq_some_iff.mp taken
        constructor
        case numbered =>
          intro callbacks w numbered
          change Numbered callbacks ((s.popAndStop dpId).workers w)
          unfold State.popAndStop
          split
          · exact numbered
          next w' _ =>
            change Numbered callbacks ((s.setWorker w' _).workers w)
            by_cases same : w = w'
            · subst same
              rw [State.setWorker_self]
              exact numbered.stop
            · rwa [State.setWorker_other s same]
        all_goals
          unfold State.popAndStop
          dsimp only
          split <;> rfl

end Numbered

/-! ## The callback of a batch -/

namespace Manager

variable {m next : Manager} {command : Command} {w : WorkerId} {dpId : DpId}

/-- The manager's lists of origins are those of the batches in its senders. -/
structure Aligned (m : Manager) : Prop where
  roster : Roster m.send
  numbered : ∀ w, Numbered ((m.batches w).map Origin.onComplete) (m.send.workers w)
  unstarted : ∀ w, m.send.nextWorker ≤ w → m.batches w = []
  origins : m.origins.map Origin.onComplete = m.send.submitting.map (·.2.2)
  nonempty : ∀ entry ∈ m.send.submitting, (entry.2.1.isEmpty && !entry.2.2) = false

theorem aligned_initial : Aligned .initial where
  roster := ⟨fun _ _ => rfl, nofun, nofun⟩
  numbered _ := numbered_new 0 0
  unstarted _ _ := rfl
  origins := rfl
  nonempty := nofun

theorem Aligned.congr (aligned : m.Aligned) (send : next.send = m.send)
    (batches : next.batches = m.batches) (origins : next.origins = m.origins) : next.Aligned := by
  constructor
  · rw [send]
    exact aligned.roster
  · rw [send, batches]
    exact aligned.numbered
  · rw [send, batches]
    exact aligned.unstarted
  · rw [send, origins]
    exact aligned.origins
  · rw [send]
    exact aligned.nonempty

theorem Aligned.undelivered (aligned : m.Aligned) {send : State} (roster : Roster send)
    (same : Undelivered m.send send) : Aligned { m with send := send } := by
  constructor
  case roster => exact roster
  case numbered => exact fun w => same.numbered (aligned.numbered w)
  case unstarted => exact fun w outside => aligned.unstarted w (same.nextWorker ▸ outside)
  case origins => exact same.submitting ▸ aligned.origins
  case nonempty => exact fun entry member => aligned.nonempty entry (same.submitting ▸ member)

theorem Aligned.thread (aligned : m.Aligned) {action : Action} (other : HandsOver action = false)
    (taken : m.thread action = some next) : next.Aligned := by
  obtain ⟨send, sent, rfl⟩ := Option.map_eq_some_iff.mp taken
  exact aligned.undelivered (aligned.roster.step sent) (undelivered_of_step other sent)

theorem Aligned.submit (aligned : m.Aligned) {ryuDp : ChannelId} {ofmsgs : List Ofmsg}
    {origin : Origin} (taken : m.submit ryuDp ofmsgs origin = some next) : next.Aligned := by
  obtain ⟨send, sent, rfl⟩ := Option.map_eq_some_iff.mp taken
  have roster := aligned.roster.step sent
  have started := nextWorker_step sent
  obtain ⟨dpId, _, rfl⟩ := Option.map_eq_some_iff.mp sent
  obtain ⟨w, submitting⟩ :=
    submitting_submitToSender (s := m.send) ryuDp dpId ofmsgs origin.onComplete
  have fresh : (m.batches m.send.nextWorker).map Origin.onComplete = [] := by
    rw [aligned.unstarted _ (Nat.le_refl _)]
    rfl
  constructor
  case roster => exact roster
  case numbered => exact numbered_submitToSender aligned.numbered fresh _ _ _ _
  case unstarted => exact fun w outside => aligned.unstarted w (Nat.le_trans started outside)
  case origins =>
    dsimp only
    rw [submitting]
    split
    · exact aligned.origins
    · rw [List.map_cons, List.map_cons, aligned.origins]
  case nonempty =>
    dsimp only
    rw [submitting]
    split
    next => exact aligned.nonempty
    next nonempty =>
      intro entry member
      rcases List.mem_cons.mp member with rfl | old
      · exact Bool.eq_false_iff.mpr nonempty
      · exact aligned.nonempty entry old

theorem Aligned.enqueue (aligned : m.Aligned) {index : Nat} (taken : m.enqueue index = some next) :
    next.Aligned := by
  unfold Manager.enqueue at taken
  split at taken
  next w item origin asked submitted =>
    obtain ⟨send, sent, rfl⟩ := Option.map_eq_some_iff.mp taken
    have roster := aligned.roster.step sent
    obtain ⟨⟨w', ofmsgs, onComplete⟩, asked', rfl⟩ := Option.map_eq_some_iff.mp sent
    cases asked.symm.trans asked'
    have callback : origin.onComplete = onComplete := by
      have same := congrArg (fun flags : List Bool => flags[index]?) aligned.origins
      simp only [List.getElem?_map, submitted, asked, Option.map_some] at same
      exact Option.some.inj same
    have nonempty := aligned.nonempty _ (List.mem_of_getElem? asked)
    constructor
    case roster => exact roster
    case numbered =>
      intro w'
      have submitted := (aligned.numbered w).submit nonempty
      change Numbered ((ite _ m.batches _ w').map _) ((m.send.setWorker w _).workers w')
      by_cases same : w' = w
      · subst same
        rw [State.setWorker_self]
        split at submitted
        next stopped => rwa [if_pos stopped]
        next running =>
          rw [if_neg running, Function.update_self, List.map_append]
          simpa [callback] using submitted
      · rw [State.setWorker_other _ same]
        split
        · exact aligned.numbered w'
        · rw [Function.update_of_ne same]
          exact aligned.numbered w'
    case unstarted =>
      intro w' outside
      have inside := aligned.roster.submitted _ (List.mem_of_getElem? asked)
      have different : w' ≠ w := Nat.ne_of_gt (Nat.lt_of_lt_of_le inside outside)
      change (ite _ m.batches _) w' = []
      split
      · exact aligned.unstarted w' outside
      · rw [Function.update_of_ne different]
        exact aligned.unstarted w' outside
    case origins =>
      simp only [List.eraseIdx_eq_take_drop_succ, List.map_append, List.map_take, List.map_drop,
        aligned.origins]
    case nonempty =>
      exact fun entry member => aligned.nonempty entry (List.mem_of_mem_eraseIdx member)
  next => cases taken

theorem Aligned.finish (aligned : m.Aligned) (taken : m.finish w = some next) : next.Aligned := by
  obtain ⟨send, sent, rfl⟩ := Option.map_eq_some_iff.mp taken
  have moved : Aligned { m with send := send } :=
    aligned.undelivered (aligned.roster.step sent) (undelivered_of_step rfl sent)
  split
  · exact moved.congr rfl rfl rfl
  · exact moved

theorem Aligned.step (aligned : m.Aligned) (taken : m.step command = some next) :
    next.Aligned := by
  cases does_of_step taken with
  | submit taken => exact aligned.submit taken
  | enqueue taken => exact aligned.enqueue taken
  | finish taken => exact aligned.finish taken
  | thread other taken => exact aligned.thread other taken
  | rejected | applied | skipped => exact aligned.congr rfl rfl rfl
  | @reloaded _ _ _ rest _ taken =>
      have waiting : Aligned { m with reloading := rest } := aligned.congr rfl rfl rfl
      exact waiting.submit taken
  | @restarted _ rest _ taken =>
      have waiting : Aligned { m with reloading := rest } := aligned.congr rfl rfl rfl
      exact waiting.thread rfl taken
  | @connected _ _ dpId _ _ taken =>
      have marked : Aligned (m.markApplied dpId) := aligned.congr rfl rfl rfl
      exact marked.submit taken

/-- Every batch that is to call back has a datapath and an application to call back for. -/
theorem exists_callback (reaches : Reaches Manager.step anyStep .initial m) {frame : Frame}
    (point : (m.send.workers w).point = .loop frame) (onComplete : frame.onComplete = true) :
    ∃ dpId application, (m.batches w)[frame.number]? = some (.apply dpId application) ∧
      m.callback? w = some (dpId, application) := by
  have aligned := reaches.invariant Aligned aligned_initial fun aligned _ taken => aligned.step taken
  have current := (aligned.numbered w).current frame (congrArg Point.frame? point)
  rw [List.getElem?_map, onComplete] at current
  obtain ⟨origin, found, calls⟩ := Option.map_eq_some_iff.mp current
  cases origin with
  | apply dpId application =>
      refine ⟨dpId, application, found, ?_⟩
      rw [callback?, point]
      dsimp only
      rw [if_pos onComplete, found]
  | coldStart | other => cases calls

end Manager

end Faucet.Send
