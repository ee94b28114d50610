import Faucet.Library.TransitionSystem

/-!
# Event notification

`notify` gives an event the next id and puts it into a queue, from which it first takes the oldest
event when the queue is full. The loop for a client takes events from the queue and sends them.
No lock protects these steps, and threads that notify at the same time, or the loop, come in
between.

Nothing blocks, ids are unique and every client receives its events in order (`safe_of_reaches`)
in the runs in which the ids are given and the events put one thread after the other, and no
thread takes the last event, or fills the queue, while another one relies on it.
-/

set_option autoImplicit false

namespace Faucet.Events

open TransitionSystem

/-! ## States -/

/-- An event, with all but its id in a dictionary. -/
structure Event (β : Type) where
  eventId : ℕ
  eventDict : β

/-- Where a thread is in `notify`. -/
inductive Phase (β : Type) where
  | idle
  /-- `event_id` has been loaded, to be incremented. -/
  | loaded (value : ℕ) (eventDict : β)
  /-- `event_id` has been incremented. -/
  | stored (eventDict : β)
  | made (event : Event β)
  /-- The queue was full. -/
  | getting (event : Event β)
  | putting (event : Event β)

/-- The event of a thread, once it has its id. -/
def Phase.event? {β : Type} : Phase β → Option (Event β)
  | .made event | .getting event | .putting event => some event
  | _ => none

/-- Where `_loop` is for a connection. -/
inductive Connection (β : Type) where
  | unconnected
  | waiting
  | sending (event : Event β)
  | closed

/-- The event that is being sent, for a connection that has the lock. -/
def Connection.held? {β : Type} : Connection β → Option (List (Event β))
  | .waiting => some []
  | .sending event => some [event]
  | _ => none

/-- `maxsize` of the queue. -/
def maxsize : ℕ := 120

/-- The notifier with its threads and connections, and what has happened so far. -/
structure State (τ κ β : Type) where
  eventId : ℕ
  eventQ : List (Event β)
  phase : τ → Phase β
  /-- The connection that has the lock. -/
  lock : Option κ
  connection : κ → Connection β
  /-- The ids that events have been given, in their order. -/
  issued : List ℕ
  /-- The events that have been put, in their order. -/
  log : List (Event β)
  /-- The events that clients have received. -/
  received : κ → List (Event β)

/-- The steps of the threads that notify, and of the loops for the clients. -/
inductive Action (τ κ β : Type) where
  | load (thread : τ) (eventDict : β)
  | store (thread : τ)
  | make (thread : τ)
  | testFull (thread : τ)
  | get (thread : τ)
  | put (thread : τ)
  | connect (client : κ)
  | take (client : κ)
  | send (client : κ)
  /-- `sendall` raises. -/
  | disconnect (client : κ)

namespace State

section Steps

variable {τ κ β : Type}

/-- No event has been given an id, and no client has come. -/
def initial : State τ κ β where
  eventId := 0
  eventQ := []
  phase _ := .idle
  lock := none
  connection _ := .unconnected
  issued := []
  log := []
  received _ := []

variable [DecidableEq τ] [DecidableEq κ]

/-- A thread goes on. -/
def setPhase (state : State τ κ β) (thread : τ) (phase : Phase β) : State τ κ β :=
  { state with phase := Function.update state.phase thread phase }

/-- A connection goes on. -/
def setConnection (state : State τ κ β) (client : κ) (connection : Connection β) : State τ κ β :=
  { state with connection := Function.update state.connection client connection }

/-- A step; `none` when it blocks, and when the thread or the connection is elsewhere. -/
def step (state : State τ κ β) : Action τ κ β → Option (State τ κ β)
  | .load thread eventDict =>
      match state.phase thread with
      | .idle => some (state.setPhase thread (.loaded state.eventId eventDict))
      | _ => none
  | .store thread =>
      match state.phase thread with
      | .loaded value eventDict =>
          some ({ state with eventId := value + 1 }.setPhase thread (.stored eventDict))
      | _ => none
  | .make thread =>
      match state.phase thread with
      | .stored eventDict =>
          some ({ state with issued := state.issued ++ [state.eventId] }.setPhase thread
            (.made ⟨state.eventId, eventDict⟩))
      | _ => none
  | .testFull thread =>
      match state.phase thread with
      | .made event =>
          if maxsize ≤ state.eventQ.length then some (state.setPhase thread (.getting event))
          else some (state.setPhase thread (.putting event))
      | _ => none
  | .get thread =>
      match state.phase thread, state.eventQ with
      | .getting event, _ :: rest =>
          some ({ state with eventQ := rest }.setPhase thread (.putting event))
      | _, _ => none
  | .put thread =>
      match state.phase thread with
      | .putting event =>
          if state.eventQ.length < maxsize then
            some ({ state with
              eventQ := state.eventQ ++ [event]
              log := state.log ++ [event] }.setPhase thread .idle)
          else none
      | _ => none
  | .connect client =>
      match state.connection client, state.lock with
      | .unconnected, none =>
          some ({ state with lock := some client }.setConnection client .waiting)
      | .unconnected, some _ => some (state.setConnection client .closed)
      | _, _ => none
  | .take client =>
      match state.connection client, state.eventQ with
      | .waiting, event :: rest =>
          some ({ state with eventQ := rest }.setConnection client (.sending event))
      | _, _ => none
  | .send client =>
      match state.connection client with
      | .sending event =>
          some ({ state with
            received := Function.update state.received client
              (state.received client ++ [event]) }.setConnection client .waiting)
      | _ => none
  | .disconnect client =>
      match state.connection client with
      | .sending _ => some ({ state with lock := none }.setConnection client .closed)
      | _ => none

end Steps

/-! ## Safety -/

section Safety

variable {τ κ β : Type} (state : State τ κ β)

/-- The thread waits for a queue that is empty, or for one that is full. -/
def Stuck (thread : τ) : Prop :=
  (∃ event, state.phase thread = .getting event ∧ state.eventQ = []) ∨
    ∃ event, state.phase thread = .putting event ∧ maxsize ≤ state.eventQ.length

/-- Nothing blocks, the queue is bounded, ids are unique and every client gets its events in
order. -/
structure Safe : Prop where
  notStuck : ∀ thread, ¬ state.Stuck thread
  bounded : state.eventQ.length ≤ maxsize
  unique : state.issued.Nodup
  inOrder : ∀ client, (state.received client).Pairwise fun first second =>
    first.eventId < second.eventId

/-- No other thread comes in between: an id is given when no thread is about to give one, an
event is put when no other thread has an earlier one, and nothing is taken or put that another
thread has counted on. -/
def Orderly : Action τ κ β → Prop
  | .load _ _ => ∀ thread value eventDict, state.phase thread ≠ .loaded value eventDict
  | .store _ => ∀ thread eventDict, state.phase thread ≠ .stored eventDict
  | .get thread => state.eventQ.length = 1 →
      ∀ other event, state.phase other = .getting event → other = thread
  | .put thread =>
      (∀ other event late, state.phase thread = .putting event →
        (state.phase other).event? = some late → other ≠ thread → event.eventId < late.eventId) ∧
      (state.eventQ.length + 1 = maxsize →
        ∀ other event, state.phase other = .putting event → other = thread)
  | .take _ => state.eventQ.length = 1 → ∀ thread event, state.phase thread ≠ .getting event
  | _ => True

end Safety

/-! ## What a step does -/

section Stepped

variable {τ κ β : Type} [DecidableEq τ] [DecidableEq κ]

/-- The outcomes of the steps. -/
inductive Stepped (state : State τ κ β) : Action τ κ β → State τ κ β → Prop where
  | load {thread : τ} {eventDict : β} (isIdle : state.phase thread = .idle) :
      Stepped state (.load thread eventDict)
        (state.setPhase thread (.loaded state.eventId eventDict))
  | store {thread : τ} {value : ℕ} {eventDict : β}
      (isLoaded : state.phase thread = .loaded value eventDict) :
      Stepped state (.store thread)
        ({ state with eventId := value + 1 }.setPhase thread (.stored eventDict))
  | make {thread : τ} {eventDict : β} (isStored : state.phase thread = .stored eventDict) :
      Stepped state (.make thread)
        ({ state with issued := state.issued ++ [state.eventId] }.setPhase thread
          (.made ⟨state.eventId, eventDict⟩))
  | full {thread : τ} {event : Event β} (isMade : state.phase thread = .made event)
      (full : maxsize ≤ state.eventQ.length) :
      Stepped state (.testFull thread) (state.setPhase thread (.getting event))
  | room {thread : τ} {event : Event β} (isMade : state.phase thread = .made event)
      (room : state.eventQ.length < maxsize) :
      Stepped state (.testFull thread) (state.setPhase thread (.putting event))
  | get {thread : τ} {event oldest : Event β} {rest : List (Event β)}
      (isGetting : state.phase thread = .getting event) (queue : state.eventQ = oldest :: rest) :
      Stepped state (.get thread) ({ state with eventQ := rest }.setPhase thread (.putting event))
  | put {thread : τ} {event : Event β} (isPutting : state.phase thread = .putting event)
      (room : state.eventQ.length < maxsize) :
      Stepped state (.put thread)
        ({ state with
          eventQ := state.eventQ ++ [event]
          log := state.log ++ [event] }.setPhase thread .idle)
  | connect {client : κ} (isNew : state.connection client = .unconnected) (free : state.lock = none) :
      Stepped state (.connect client)
        ({ state with lock := some client }.setConnection client .waiting)
  | refuse {client : κ} (isNew : state.connection client = .unconnected) :
      Stepped state (.connect client) (state.setConnection client .closed)
  | take {client : κ} {event : Event β} {rest : List (Event β)}
      (isWaiting : state.connection client = .waiting) (queue : state.eventQ = event :: rest) :
      Stepped state (.take client)
        ({ state with eventQ := rest }.setConnection client (.sending event))
  | send {client : κ} {event : Event β} (isSending : state.connection client = .sending event) :
      Stepped state (.send client)
        ({ state with
          received := Function.update state.received client
            (state.received client ++ [event]) }.setConnection client .waiting)
  | disconnect {client : κ} {event : Event β}
      (isSending : state.connection client = .sending event) :
      Stepped state (.disconnect client)
        ({ state with lock := none }.setConnection client .closed)

variable {state next : State τ κ β} {action : Action τ κ β}

theorem stepped (taken : state.step action = some next) : Stepped state action next := by
  cases action with
  | load thread eventDict =>
      cases isPhase : state.phase thread <;> simp [step, isPhase] at taken
      exact taken ▸ .load isPhase
  | store thread =>
      cases isPhase : state.phase thread <;> simp [step, isPhase] at taken
      exact taken ▸ .store isPhase
  | make thread =>
      cases isPhase : state.phase thread <;> simp [step, isPhase] at taken
      exact taken ▸ .make isPhase
  | testFull thread =>
      cases isPhase : state.phase thread <;> simp [step, isPhase] at taken
      split at taken
      next full => exact Option.some.inj taken ▸ .full isPhase full
      next room => exact Option.some.inj taken ▸ .room isPhase (not_le.mp room)
  | get thread =>
      cases isPhase : state.phase thread <;> cases queue : state.eventQ <;>
        simp [step, isPhase, queue] at taken
      exact taken ▸ .get isPhase queue
  | put thread =>
      cases isPhase : state.phase thread <;> simp [step, isPhase] at taken
      exact taken.2 ▸ .put isPhase taken.1
  | connect client =>
      cases isConnection : state.connection client <;> cases isLock : state.lock <;>
        simp [step, isConnection, isLock] at taken
      · exact taken ▸ .connect isConnection isLock
      · exact taken ▸ .refuse isConnection
  | take client =>
      cases isConnection : state.connection client <;> cases queue : state.eventQ <;>
        simp [step, isConnection, queue] at taken
      exact taken ▸ .take isConnection queue
  | send client =>
      cases isConnection : state.connection client <;> simp [step, isConnection] at taken
      exact taken ▸ .send isConnection
  | disconnect client =>
      cases isConnection : state.connection client <;> simp [step, isConnection] at taken
      exact taken ▸ .disconnect isConnection

/-! ## Ids -/

/-- At most one thread increments the id, and at most one is about to read it. -/
structure Ids (state : State τ κ β) : Prop where
  loaded : ∀ {thread value eventDict}, state.phase thread = .loaded value eventDict →
    value = state.eventId
  oneLoaded : ∀ {thread other value eventDict value' eventDict'},
    state.phase thread = .loaded value eventDict →
      state.phase other = .loaded value' eventDict' → thread = other
  oneStored : ∀ {thread other eventDict eventDict'}, state.phase thread = .stored eventDict →
    state.phase other = .stored eventDict' → thread = other
  fresh : ∀ {thread eventDict}, state.phase thread = .stored eventDict →
    ∀ id ∈ state.issued, id < state.eventId
  past : ∀ id ∈ state.issued, id ≤ state.eventId
  nodup : state.issued.Nodup
  made : ∀ {thread event}, (state.phase thread).event? = some event → event.eventId ∈ state.issued
  apart : ∀ {thread other event event'}, (state.phase thread).event? = some event →
    (state.phase other).event? = some event' → event.eventId = event'.eventId → thread = other

omit [DecidableEq τ] [DecidableEq κ] in
theorem ids_initial : (initial : State τ κ β).Ids where
  loaded isPhase := nomatch isPhase
  oneLoaded isPhase _ := nomatch isPhase
  oneStored isPhase _ := nomatch isPhase
  fresh isPhase := nomatch isPhase
  past _ member := nomatch member
  nodup := List.nodup_nil
  made isPhase := nomatch isPhase
  apart isPhase _ := nomatch isPhase

section Phases

variable {thread other : τ} {phase other' : Phase β} {event : Event β}

omit [DecidableEq κ]

/-- A thread is in its new phase, or another one where it was. -/
theorem phase_cases (phases : next.phase = Function.update state.phase thread phase)
    (isPhase : next.phase other = other') :
    other = thread ∧ phase = other' ∨ other ≠ thread ∧ state.phase other = other' := by
  rw [phases, Function.update_apply] at isPhase
  split at isPhase
  next same => exact .inl ⟨same, isPhase⟩
  next apart => exact .inr ⟨apart, isPhase⟩

theorem event_cases (phases : next.phase = Function.update state.phase thread phase)
    (has : (next.phase other).event? = some event) :
    other = thread ∧ phase.event? = some event ∨
      other ≠ thread ∧ (state.phase other).event? = some event := by
  rcases phase_cases phases rfl with ⟨same, isPhase⟩ | ⟨apart, isPhase⟩
  · exact .inl ⟨same, isPhase ▸ has⟩
  · exact .inr ⟨apart, isPhase ▸ has⟩

/-- A thread goes on, with the same event or with none. -/
theorem Ids.goOn (ids : state.Ids) (sameId : next.eventId = state.eventId)
    (sameIssued : next.issued = state.issued)
    (phases : next.phase = Function.update state.phase thread phase)
    (notLoaded : ∀ value eventDict, phase ≠ .loaded value eventDict)
    (notStored : ∀ eventDict, phase ≠ .stored eventDict)
    (same : ∀ event, phase.event? = some event → (state.phase thread).event? = some event) :
    next.Ids := by
  have oldLoaded : ∀ {other value eventDict}, next.phase other = .loaded value eventDict →
      state.phase other = .loaded value eventDict := by
    intro other value eventDict isPhase
    rcases phase_cases phases isPhase with ⟨_, new⟩ | ⟨_, old⟩
    · exact absurd new (notLoaded value eventDict)
    · exact old
  have oldStored : ∀ {other eventDict}, next.phase other = .stored eventDict →
      state.phase other = .stored eventDict := by
    intro other eventDict isPhase
    rcases phase_cases phases isPhase with ⟨_, new⟩ | ⟨_, old⟩
    · exact absurd new (notStored eventDict)
    · exact old
  have oldEvent : ∀ {other event}, (next.phase other).event? = some event →
      (state.phase other).event? = some event := by
    intro other event has
    rcases event_cases phases has with ⟨rfl, new⟩ | ⟨_, old⟩
    · exact same event new
    · exact old
  constructor
  case loaded => exact fun isPhase => (ids.loaded (oldLoaded isPhase)).trans sameId.symm
  case oneLoaded => exact fun first second => ids.oneLoaded (oldLoaded first) (oldLoaded second)
  case oneStored => exact fun first second => ids.oneStored (oldStored first) (oldStored second)
  case fresh =>
    intro other eventDict isPhase
    rw [sameId, sameIssued]
    exact ids.fresh (oldStored isPhase)
  case past =>
    rw [sameId, sameIssued]
    exact ids.past
  case nodup => exact sameIssued ▸ ids.nodup
  case made => exact fun isPhase => sameIssued ▸ ids.made (oldEvent isPhase)
  case apart => exact fun first second => ids.apart (oldEvent first) (oldEvent second)

theorem Ids.load {eventDict : β} (ids : state.Ids)
    (alone : ∀ thread value eventDict, state.phase thread ≠ .loaded value eventDict) :
    (state.setPhase thread (.loaded state.eventId eventDict)).Ids := by
  have phases : (state.setPhase thread (.loaded state.eventId eventDict)).phase =
      Function.update state.phase thread (.loaded state.eventId eventDict) := rfl
  have oldStored : ∀ {other eventDict'},
      (state.setPhase thread (.loaded state.eventId eventDict)).phase other = .stored eventDict' →
        state.phase other = .stored eventDict' := by
    intro other eventDict' isPhase
    rcases phase_cases phases isPhase with ⟨_, new⟩ | ⟨_, old⟩
    · cases new
    · exact old
  have oldEvent : ∀ {other event},
      ((state.setPhase thread (.loaded state.eventId eventDict)).phase other).event? = some event →
        (state.phase other).event? = some event := by
    intro other event has
    rcases event_cases phases has with ⟨_, new⟩ | ⟨_, old⟩
    · cases new
    · exact old
  constructor
  case loaded =>
    intro other value eventDict' isPhase
    rcases phase_cases phases isPhase with ⟨_, new⟩ | ⟨_, old⟩
    · cases new
      rfl
    · exact ids.loaded old
  case oneLoaded =>
    intro other another value eventDict' value' eventDict'' first second
    rcases phase_cases phases first with ⟨here, _⟩ | ⟨_, old⟩
    · rcases phase_cases phases second with ⟨there, _⟩ | ⟨_, old⟩
      · exact here.trans there.symm
      · exact absurd old (alone _ _ _)
    · exact absurd old (alone _ _ _)
  case oneStored => exact fun first second => ids.oneStored (oldStored first) (oldStored second)
  case fresh => exact fun isPhase => ids.fresh (oldStored isPhase)
  case past => exact ids.past
  case nodup => exact ids.nodup
  case made => exact fun has => ids.made (oldEvent has)
  case apart => exact fun first second => ids.apart (oldEvent first) (oldEvent second)

theorem Ids.store {value : ℕ} {eventDict : β} (ids : state.Ids)
    (isLoaded : state.phase thread = .loaded value eventDict)
    (alone : ∀ thread eventDict, state.phase thread ≠ .stored eventDict) :
    ({ state with eventId := value + 1 }.setPhase thread (.stored eventDict)).Ids := by
  obtain rfl := ids.loaded isLoaded
  have phases : ({ state with eventId := state.eventId + 1 }.setPhase thread
      (.stored eventDict)).phase = Function.update state.phase thread (.stored eventDict) := rfl
  have past : ∀ id ∈ state.issued, id < state.eventId + 1 := fun id member =>
    Nat.lt_succ_of_le (ids.past id member)
  have oldEvent : ∀ {other event}, (({ state with eventId := state.eventId + 1 }.setPhase thread
      (.stored eventDict)).phase other).event? = some event →
        (state.phase other).event? = some event := by
    intro other event has
    rcases event_cases phases has with ⟨_, new⟩ | ⟨_, old⟩
    · cases new
    · exact old
  constructor
  case loaded =>
    intro other value eventDict' isPhase
    rcases phase_cases phases isPhase with ⟨_, new⟩ | ⟨apart, old⟩
    · cases new
    · exact absurd (ids.oneLoaded old isLoaded) apart
  case oneLoaded =>
    intro other another value eventDict' value' eventDict'' first second
    rcases phase_cases phases first with ⟨_, new⟩ | ⟨apart, old⟩
    · cases new
    · exact absurd (ids.oneLoaded old isLoaded) apart
  case oneStored =>
    intro other another eventDict' eventDict'' first second
    rcases phase_cases phases first with ⟨here, _⟩ | ⟨_, old⟩
    · rcases phase_cases phases second with ⟨there, _⟩ | ⟨_, old⟩
      · exact here.trans there.symm
      · exact absurd old (alone _ _)
    · exact absurd old (alone _ _)
  case fresh => exact fun _ => past
  case past => exact fun id member => (past id member).le
  case nodup => exact ids.nodup
  case made => exact fun has => ids.made (oldEvent has)
  case apart => exact fun first second => ids.apart (oldEvent first) (oldEvent second)

theorem Ids.make {eventDict : β} (ids : state.Ids)
    (isStored : state.phase thread = .stored eventDict) :
    ({ state with issued := state.issued ++ [state.eventId] }.setPhase thread
      (.made ⟨state.eventId, eventDict⟩)).Ids := by
  have phases : ({ state with issued := state.issued ++ [state.eventId] }.setPhase thread
      (.made ⟨state.eventId, eventDict⟩)).phase =
        Function.update state.phase thread (.made ⟨state.eventId, eventDict⟩) := rfl
  have fresh := ids.fresh isStored
  have notEqual : ∀ {other event}, (state.phase other).event? = some event →
      event.eventId ≠ state.eventId := fun has => (fresh _ (ids.made has)).ne
  constructor
  case loaded =>
    intro other value eventDict' isPhase
    rcases phase_cases phases isPhase with ⟨_, new⟩ | ⟨_, old⟩
    · cases new
    · exact ids.loaded old
  case oneLoaded =>
    intro other another value eventDict' value' eventDict'' first second
    rcases phase_cases phases first with ⟨_, new⟩ | ⟨_, old⟩
    · cases new
    rcases phase_cases phases second with ⟨_, new⟩ | ⟨_, old'⟩
    · cases new
    exact ids.oneLoaded old old'
  case oneStored =>
    intro other another eventDict' eventDict'' first second
    rcases phase_cases phases first with ⟨_, new⟩ | ⟨_, old⟩
    · cases new
    rcases phase_cases phases second with ⟨_, new⟩ | ⟨_, old'⟩
    · cases new
    exact ids.oneStored old old'
  case fresh =>
    intro other eventDict' isPhase
    rcases phase_cases phases isPhase with ⟨_, new⟩ | ⟨apart, old⟩
    · cases new
    · exact absurd (ids.oneStored old isStored) apart
  case past =>
    intro id member
    rcases List.mem_append.mp member with old | new
    · exact ids.past id old
    · exact (List.mem_singleton.mp new).le
  case nodup =>
    refine List.nodup_append.mpr ⟨ids.nodup, List.nodup_singleton _, fun id member _ new => ?_⟩
    rw [List.mem_singleton.mp new]
    exact (fresh id member).ne
  case made =>
    intro other event has
    rcases event_cases phases has with ⟨_, new⟩ | ⟨_, old⟩
    · cases new
      exact List.mem_append_right _ (List.mem_singleton_self _)
    · exact List.mem_append_left _ (ids.made old)
  case apart =>
    intro other another event event' first second same
    rcases event_cases phases first with ⟨here, new⟩ | ⟨_, old⟩
    · rcases event_cases phases second with ⟨there, _⟩ | ⟨_, old⟩
      · exact here.trans there.symm
      · cases new
        exact absurd same.symm (notEqual old)
    · rcases event_cases phases second with ⟨_, new⟩ | ⟨_, old'⟩
      · cases new
        exact absurd same (notEqual old)
      · exact ids.apart old old' same

end Phases

/-- An id is incremented by one thread at a time, and read before the next increment. -/
theorem Ids.step (ids : state.Ids) (orderly : state.Orderly action)
    (stepped : Stepped state action next) : next.Ids := by
  cases stepped with
  | load isIdle => exact ids.load orderly
  | store isLoaded => exact ids.store isLoaded orderly
  | make isStored => exact ids.make isStored
  | full isMade full =>
      refine ids.goOn rfl rfl rfl nofun nofun fun event same => ?_
      rw [isMade]
      exact same
  | room isMade room =>
      refine ids.goOn rfl rfl rfl nofun nofun fun event same => ?_
      rw [isMade]
      exact same
  | get isGetting queue =>
      refine ids.goOn rfl rfl rfl nofun nofun fun event same => ?_
      rw [isGetting]
      exact same
  | put isPutting room => exact ids.goOn rfl rfl rfl nofun nofun fun event same => nomatch same
  | connect | refuse | take | send | disconnect =>
      exact ⟨ids.loaded, ids.oneLoaded, ids.oneStored, ids.fresh, ids.past, ids.nodup, ids.made,
        ids.apart⟩

/-! ## The queue -/

/-- A thread that has found the queue full may take from it, and one that has not may put. -/
structure Room (state : State τ κ β) : Prop where
  bounded : state.eventQ.length ≤ maxsize
  getting : ∀ {thread event}, state.phase thread = .getting event → state.eventQ ≠ []
  putting : ∀ {thread event}, state.phase thread = .putting event → state.eventQ.length < maxsize

omit [DecidableEq τ] [DecidableEq κ] in
theorem room_initial : (initial : State τ κ β).Room where
  bounded := Nat.zero_le _
  getting isPhase := nomatch isPhase
  putting isPhase := nomatch isPhase

omit [DecidableEq κ] in
/-- A thread goes on, and the queue stays. -/
theorem Room.goOn {thread : τ} {phase : Phase β} (room : state.Room)
    (sameQueue : next.eventQ = state.eventQ)
    (phases : next.phase = Function.update state.phase thread phase)
    (getting : ∀ event, phase = .getting event → state.eventQ ≠ [])
    (putting : ∀ event, phase = .putting event → state.eventQ.length < maxsize) : next.Room where
  bounded := sameQueue ▸ room.bounded
  getting isPhase := by
    rw [sameQueue]
    rcases phase_cases phases isPhase with ⟨_, new⟩ | ⟨_, old⟩
    · exact getting _ new
    · exact room.getting old
  putting isPhase := by
    rw [sameQueue]
    rcases phase_cases phases isPhase with ⟨_, new⟩ | ⟨_, old⟩
    · exact putting _ new
    · exact room.putting old

omit [DecidableEq τ] [DecidableEq κ] in
/-- The oldest event goes, and no other thread has counted on it alone. -/
theorem Room.rest_ne_nil {oldest event : Event β} {rest : List (Event β)} {other : τ}
    (queue : state.eventQ = oldest :: rest)
    (more : state.eventQ.length = 1 → state.phase other ≠ .getting event)
    (isGetting : state.phase other = .getting event) : rest ≠ [] := by
  rintro rfl
  exact more (by rw [queue]; rfl) isGetting

theorem Room.step (room : state.Room) (orderly : state.Orderly action)
    (stepped : Stepped state action next) : next.Room := by
  cases stepped with
  | load | store | make => exact room.goOn rfl rfl nofun nofun
  | full isMade full =>
      refine room.goOn rfl rfl (fun _ _ empty => ?_) nofun
      rw [empty] at full
      simp [maxsize] at full
  | room isMade notFull => exact room.goOn rfl rfl nofun fun _ _ => notFull
  | @get thread event oldest rest isGetting queue =>
      have bounded := room.bounded
      rw [queue, List.length_cons] at bounded
      refine ⟨Nat.le_of_succ_le bounded, ?_, fun _ => bounded⟩
      intro other late isPhase
      rcases phase_cases rfl isPhase with ⟨_, new⟩ | ⟨apart, old⟩
      · cases new
      · exact Room.rest_ne_nil queue (fun single same => apart (orderly single other late same)) old
  | @put thread event isPutting notFull =>
      have length : (state.eventQ ++ [event]).length = state.eventQ.length + 1 := by simp
      refine ⟨?_, fun _ => by simp [setPhase], ?_⟩
      · exact length ▸ notFull
      · intro other late isPhase
        rcases phase_cases rfl isPhase with ⟨_, new⟩ | ⟨apart, old⟩
        · cases new
        · change (state.eventQ ++ [event]).length < maxsize
          have notLast : state.eventQ.length + 1 ≠ maxsize := fun last =>
            apart (orderly.2 last other late old)
          omega
  | connect | refuse | send | disconnect => exact ⟨room.bounded, room.getting, room.putting⟩
  | @take client event rest isWaiting queue =>
      have bounded := room.bounded
      rw [queue, List.length_cons] at bounded
      refine ⟨Nat.le_of_succ_le bounded, ?_, fun _ => bounded⟩
      intro other late isPhase
      exact Room.rest_ne_nil queue (fun single => orderly single other late) isPhase

/-! ## The order of events -/

/-- Events are put in the order of their ids, and leave the queue in the order in which they
were put. -/
structure Ordered (state : State τ κ β) : Prop where
  issued : ∀ event ∈ state.log, event.eventId ∈ state.issued
  before : ∀ event ∈ state.log, ∀ {thread late}, (state.phase thread).event? = some late →
    event.eventId < late.eventId
  sorted : state.log.Pairwise fun first second => first.eventId < second.eventId
  queue : state.eventQ.Sublist state.log
  received : ∀ client, (state.received client).Sublist state.log
  held : ∀ {client held}, (state.connection client).held? = some held →
    (state.received client ++ (held ++ state.eventQ)).Sublist state.log
  unconnected : ∀ {client}, state.connection client = .unconnected → state.received client = []

omit [DecidableEq τ] [DecidableEq κ] in
theorem ordered_initial : (initial : State τ κ β).Ordered where
  issued _ member := nomatch member
  before _ member := nomatch member
  sorted := .nil
  queue := .slnil
  received _ := .slnil
  held isHeld := nomatch isHeld
  unconnected _ := rfl

omit [DecidableEq κ] in
/-- A thread goes on with its event or without one, and the queue shrinks at most. -/
theorem Ordered.goOn {thread : τ} {phase : Phase β} (ordered : state.Ordered)
    (phases : next.phase = Function.update state.phase thread phase)
    (issued : ∀ id ∈ state.issued, id ∈ next.issued) (log : next.log = state.log)
    (queue : next.eventQ.Sublist state.eventQ) (connection : next.connection = state.connection)
    (received : next.received = state.received)
    (before : ∀ late, phase.event? = some late → ∀ event ∈ state.log, event.eventId < late.eventId) :
    next.Ordered where
  issued event member := issued _ (ordered.issued event (log ▸ member))
  before event member := by
    intro other late has
    rcases event_cases phases has with ⟨_, new⟩ | ⟨_, old⟩
    · exact before late new event (log ▸ member)
    · exact ordered.before event (log ▸ member) old
  sorted := log ▸ ordered.sorted
  queue := log ▸ queue.trans ordered.queue
  received client := by
    rw [received, log]
    exact ordered.received client
  held isHeld := by
    rw [connection] at isHeld
    rw [received, log]
    exact ((queue.append_left _).append_left _).trans (ordered.held isHeld)
  unconnected isNew := by
    rw [connection] at isNew
    rw [received]
    exact ordered.unconnected isNew

omit [DecidableEq τ] in
/-- A connection goes on: what it has received, what it holds and the queue stay in the order
in which the events were put. -/
theorem Ordered.connect {client : κ} {connection : Connection β} (ordered : state.Ordered)
    (connections : next.connection = Function.update state.connection client connection)
    (phases : next.phase = state.phase) (issued : next.issued = state.issued)
    (log : next.log = state.log) (queue : next.eventQ.Sublist state.eventQ)
    (others : ∀ other, other ≠ client → next.received other = state.received other)
    (received : (next.received client).Sublist state.log)
    (held : ∀ held, connection.held? = some held →
      (next.received client ++ (held ++ next.eventQ)).Sublist state.log)
    (notNew : connection ≠ .unconnected) : next.Ordered where
  issued event member := by
    rw [issued]
    exact ordered.issued event (log ▸ member)
  before event member := by
    rw [phases]
    exact ordered.before event (log ▸ member)
  sorted := log ▸ ordered.sorted
  queue := log ▸ queue.trans ordered.queue
  received other := by
    rw [log]
    by_cases same : other = client
    · exact same ▸ received
    · exact others other same ▸ ordered.received other
  held := by
    intro other holds isHeld
    rw [connections, Function.update_apply] at isHeld
    rw [log]
    split at isHeld
    next same => exact same ▸ held holds isHeld
    next apart =>
      rw [others other apart]
      exact ((queue.append_left _).append_left _).trans (ordered.held isHeld)
  unconnected := by
    intro other isNew
    rw [connections, Function.update_apply] at isNew
    split at isNew
    next => exact absurd isNew notNew
    next apart => exact others other apart ▸ ordered.unconnected isNew

omit [DecidableEq κ] in
/-- An event that is put comes after all before it. -/
theorem Ordered.put {thread : τ} {event : Event β} (ordered : state.Ordered) (ids : state.Ids)
    (isPutting : state.phase thread = .putting event)
    (first : ∀ other late, (state.phase other).event? = some late → other ≠ thread →
      event.eventId < late.eventId) :
    ({ state with
      eventQ := state.eventQ ++ [event]
      log := state.log ++ [event] }.setPhase thread .idle).Ordered := by
  have has : (state.phase thread).event? = some event := by
    rw [isPutting]
    rfl
  constructor
  case issued =>
    intro old member
    rcases List.mem_append.mp member with member | member
    · exact ordered.issued old member
    · rw [List.mem_singleton.mp member]
      exact ids.made has
  case before =>
    intro old member other late isPhase
    rcases event_cases rfl isPhase with ⟨_, new⟩ | ⟨apart, isPhase⟩
    · cases new
    rcases List.mem_append.mp member with member | member
    · exact ordered.before old member isPhase
    · rw [List.mem_singleton.mp member]
      exact first other late isPhase apart
  case sorted =>
    refine List.pairwise_append.mpr ⟨ordered.sorted, List.pairwise_singleton _ _, ?_⟩
    intro old member last isLast
    exact List.mem_singleton.mp isLast ▸ ordered.before old member has
  case queue => exact ordered.queue.append_right [event]
  case received => exact fun client => (ordered.received client).trans (List.sublist_append_left _ _)
  case held =>
    intro client held isHeld
    have longer := (ordered.held isHeld).append_right [event]
    simpa [setPhase] using longer
  case unconnected => exact fun isNew => ordered.unconnected isNew

theorem Ordered.step (ordered : state.Ordered) (ids : state.Ids) (orderly : state.Orderly action)
    (stepped : Stepped state action next) : next.Ordered := by
  cases stepped with
  | load | store =>
      exact ordered.goOn rfl (fun _ old => old) rfl (List.Sublist.refl _) rfl rfl nofun
  | make isStored =>
      refine ordered.goOn rfl (fun id old => List.mem_append_left _ old) rfl (List.Sublist.refl _)
        rfl rfl fun late isLate event member => ?_
      cases isLate
      exact ids.fresh isStored _ (ordered.issued event member)
  | @full thread event isMade | @room thread event isMade =>
      have has : (state.phase thread).event? = some event := by
        rw [isMade]
        rfl
      refine ordered.goOn rfl (fun _ old => old) rfl (List.Sublist.refl _) rfl rfl
        fun late isLate old member => ?_
      cases isLate
      exact ordered.before old member has
  | @get thread event oldest rest isGetting queue =>
      have has : (state.phase thread).event? = some event := by
        rw [isGetting]
        rfl
      have shrinks : rest.Sublist state.eventQ := queue ▸ List.sublist_cons_self oldest rest
      refine ordered.goOn rfl (fun _ old => old) rfl shrinks rfl rfl fun late isLate old member => ?_
      cases isLate
      exact ordered.before old member has
  | put isPutting room =>
      exact ordered.put ids isPutting fun other late => orderly.1 other _ late isPutting
  | @connect client isNew free =>
      refine ordered.connect rfl rfl rfl rfl (List.Sublist.refl _) (fun _ _ => rfl)
        (ordered.received client) (fun held isHeld => ?_) nofun
      cases isHeld
      change (state.received client ++ ([] ++ state.eventQ)).Sublist state.log
      rw [ordered.unconnected isNew]
      exact ordered.queue
  | @refuse client isNew =>
      exact ordered.connect rfl rfl rfl rfl (List.Sublist.refl _) (fun _ _ => rfl)
        (ordered.received client) (fun _ isHeld => nomatch isHeld) nofun
  | @take client event rest isWaiting queue =>
      have waiting : (state.connection client).held? = some [] := by
        rw [isWaiting]
        rfl
      have inOrder := ordered.held waiting
      rw [queue] at inOrder
      refine ordered.connect rfl rfl rfl rfl (queue ▸ List.sublist_cons_self _ _) (fun _ _ => rfl)
        (ordered.received client) (fun held isHeld => ?_) nofun
      cases isHeld
      exact inOrder
  | @send client event isSending =>
      have sending : (state.connection client).held? = some [event] := by
        rw [isSending]
        rfl
      have inOrder := ordered.held sending
      have now : Function.update state.received client (state.received client ++ [event]) client =
          state.received client ++ [event] := Function.update_self ..
      rw [← List.append_assoc, ← now] at inOrder
      refine ordered.connect rfl rfl rfl rfl (List.Sublist.refl _)
        (fun other apart => Function.update_of_ne apart _ _)
        ((List.sublist_append_left _ _).trans inOrder) (fun held isHeld => ?_) nofun
      cases isHeld
      exact inOrder
  | @disconnect client event isSending =>
      exact ordered.connect rfl rfl rfl rfl (List.Sublist.refl _) (fun _ _ => rfl)
        (ordered.received client) (fun _ isHeld => nomatch isHeld) nofun

/-! ## Runs -/

/-- **Nothing is stuck, ids are unique, and every client receives its events in order**, in the
runs in which no thread comes in between. -/
theorem safe_of_reaches (reaches : Reaches step Orderly initial state) : state.Safe := by
  have sound : state.Ids ∧ state.Room ∧ state.Ordered :=
    reaches.invariant (fun state => state.Ids ∧ state.Room ∧ state.Ordered)
      ⟨ids_initial, room_initial, ordered_initial⟩ fun sound orderly taken =>
        ⟨sound.1.step orderly (stepped taken), sound.2.1.step orderly (stepped taken),
          sound.2.2.step sound.1 orderly (stepped taken)⟩
  obtain ⟨ids, room, ordered⟩ := sound
  constructor
  case notStuck =>
    rintro thread (⟨event, isGetting, empty⟩ | ⟨event, isPutting, full⟩)
    · exact room.getting isGetting empty
    · exact absurd (room.putting isPutting) (not_lt.mpr full)
  case bounded => exact room.bounded
  case unique => exact ids.nodup
  case inOrder => exact fun client => ordered.sorted.sublist (ordered.received client)

end Stepped

/-! ## Threads that come in between -/

/-- A thread notifies alone. -/
def notify {τ κ : Type} (thread : τ) : List (Action τ κ Unit) :=
  [.load thread (), .store thread, .make thread, .testFull thread, .put thread]

/-- Two threads notify: the second one loads the id before the first one has read its own. -/
def overlapping : List (Action Bool Unit Unit) :=
  [.load false (), .store false, .load true (), .make false, .store true, .make true,
    .testFull true, .testFull false, .put false, .put true, .connect (), .take (), .send (),
    .take (), .send ()]

/-- The client receives both events. -/
theorem safe_of_reaches_notify : ∃ state : State Bool Unit Unit,
    exec step initial overlapping = some state ∧
      state.received () = [⟨1, ()⟩, ⟨2, ()⟩] ∧ state.Safe := by
  refine ⟨_, rfl, rfl, safe_of_reaches (Reaches.of_exec overlapping ?_ rfl)⟩
  refine ⟨?loadFirst, ?storeFirst, ?loadSecond, trivial, ?storeSecond, trivial, trivial, trivial,
    ⟨?inOrder, ?room⟩, ⟨?last, ?room'⟩, trivial, ?take, trivial, ?take', trivial, trivial⟩
  case loadFirst => exact fun _ _ _ isPhase => nomatch isPhase
  case storeFirst => rintro (_ | _) _ isPhase <;> cases isPhase
  case loadSecond => rintro (_ | _) _ _ isPhase <;> cases isPhase
  case storeSecond => rintro (_ | _) _ isPhase <;> cases isPhase
  case inOrder =>
    rintro (_ | _) _ _ isPhase isEvent apart
    · exact absurd rfl apart
    · cases isPhase
      cases isEvent
      decide
  case last =>
    rintro (_ | _) _ _ _ isEvent apart
    · cases isEvent
    · exact absurd rfl apart
  case room | room' => exact fun full => absurd full (by decide)
  case take => exact fun single => absurd single (by decide)
  case take' => rintro _ (_ | _) _ isPhase <;> cases isPhase

/-- Nobody notifies, and no client has come. -/
structure Quiet (state : State Unit Unit Unit) : Prop where
  idle : state.phase () = .idle
  free : state.lock = none
  unconnected : state.connection () = .unconnected

/-- The queue fills while no client is connected. -/
theorem exists_filled {count : ℕ} (fits : count ≤ maxsize) : ∃ state : State Unit Unit Unit,
    Reaches step anyStep initial state ∧ state.eventQ.length = count ∧ state.Quiet := by
  induction count with
  | zero => exact ⟨initial, .refl, rfl, rfl, rfl, rfl⟩
  | succ count ih =>
      obtain ⟨state, reaches, length, quiet⟩ := ih (Nat.le_of_succ_le fits)
      have room : ¬ maxsize ≤ state.eventQ.length := by omega
      have notifies : ∃ next, exec step state (notify ()) = some next ∧
          next.eventQ.length = count + 1 ∧ next.Quiet := by
        let event : Event Unit := ⟨state.eventId + 1, ()⟩
        refine ⟨{ state with
          eventId := state.eventId + 1
          eventQ := state.eventQ ++ [event]
          phase := Function.update state.phase () .idle
          issued := state.issued ++ [state.eventId + 1]
          log := state.log ++ [event] }, ?_, ?_, ?_⟩
        · simp [notify, exec, step, setPhase, quiet.idle, room, not_le.mp room, event]
        · simp [length]
        · exact ⟨rfl, quiet.free, quiet.unconnected⟩
      obtain ⟨next, executed, longer, nextQuiet⟩ := notifies
      exact ⟨next, reaches.trans (.of_exec _ (allowed_anyStep _ _) executed), longer, nextQuiet⟩

/-- A client drains the queue, while a thread is about to take from it. -/
theorem exists_drained {event : Event Unit} {queue : List (Event Unit)}
    {state : State Unit Unit Unit} (isQueue : state.eventQ = queue)
    (isGetting : state.phase () = .getting event) (isWaiting : state.connection () = .waiting) :
    ∃ next, Reaches step anyStep state next ∧ next.Stuck () := by
  induction queue generalizing state with
  | nil => exact ⟨state, .refl, .inl ⟨event, isGetting, isQueue⟩⟩
  | cons first rest ih =>
      have sends : ∃ next, exec step state [.take (), .send ()] = some next ∧ next.eventQ = rest ∧
          next.phase () = .getting event ∧ next.connection () = .waiting := by
        refine ⟨{ state with
          eventQ := rest
          connection := Function.update state.connection () .waiting
          received := Function.update state.received () (state.received () ++ [first]) },
          ?_, rfl, isGetting, rfl⟩
        simp [exec, step, setConnection, isWaiting, isQueue]
      obtain ⟨next, executed, isRest, stillGetting, stillWaiting⟩ := sends
      obtain ⟨finish, reaches, stuck⟩ := ih isRest stillGetting stillWaiting
      exact ⟨finish, (Reaches.of_exec _ (allowed_anyStep _ _) executed).trans reaches, stuck⟩

/-- A client empties the queue that a thread has found full. -/
theorem exists_stuck : ∃ state : State Unit Unit Unit,
    Reaches step anyStep initial state ∧ state.Stuck () := by
  obtain ⟨state, reaches, full, quiet⟩ := exists_filled (le_refl maxsize)
  have tests : ∃ event next, exec step state
      [.load () (), .store (), .make (), .testFull (), .connect ()] = some next ∧
        next.phase () = .getting event ∧ next.connection () = .waiting := by
    let event : Event Unit := ⟨state.eventId + 1, ()⟩
    refine ⟨event, { state with
      eventId := state.eventId + 1
      phase := Function.update state.phase () (.getting event)
      lock := some ()
      connection := Function.update state.connection () .waiting
      issued := state.issued ++ [state.eventId + 1] },
      ?_, rfl, rfl⟩
    simp [exec, step, setPhase, setConnection, quiet.idle, quiet.free, quiet.unconnected, full, event]
  obtain ⟨event, next, executed, isGetting, isWaiting⟩ := tests
  obtain ⟨finish, drains, stuck⟩ := exists_drained rfl isGetting isWaiting
  exact ⟨finish, (reaches.trans (.of_exec _ (allowed_anyStep _ _) executed)).trans drains, stuck⟩

/-- **A notify blocks for good, an id is given twice, and a client receives events in the wrong
order**, when threads come in between. -/
theorem not_safe :
    (∃ state : State Unit Unit Unit, Reaches step anyStep initial state ∧ state.Stuck ()) ∧
    (∃ state : State Bool Unit Unit, Reaches step anyStep initial state ∧
      ¬ state.issued.Nodup) ∧
    ∃ state : State Bool Unit Unit, Reaches step anyStep initial state ∧
      (state.received ()).map (·.eventId) = [2, 1] := by
  refine ⟨exists_stuck, ⟨_, Reaches.of_exec [.load false (), .store false, .load true (), .store true,
    .make false, .make true] (allowed_anyStep _ _) rfl, ?_⟩, ⟨_, Reaches.of_exec [.load false (),
    .store false, .make false, .load true (), .store true, .make true, .testFull false,
    .testFull true, .put true, .put false, .connect (), .take (), .send (), .take (), .send ()]
    (allowed_anyStep _ _) rfl, rfl⟩⟩
  change ¬ [2, 2].Nodup
  decide

end State

end Faucet.Events
