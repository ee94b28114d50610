import Faucet.Polling.Watchers

/-!
# Starting and stopping watchers

What starting and stopping does to the threads that run, to the metric `dp_status`,
and to the watchers. Each is shown of one watcher, and carried over loops and
dictionaries (`KeepsThreads`, `Reports`, `Keeps`).
-/

set_option autoImplicit false

namespace Faucet.Polling

/-! ## Going through lists -/

section ForEach

variable {α : Type} {f : α → Shared → α × Shared}

@[simp] theorem forEach_nil (shared : Shared) : forEach f [] shared = ([], shared) := rfl

theorem forEach_cons (x : α) (xs : List α) (shared : Shared) :
    forEach f (x :: xs) shared =
      ((f x shared).1 :: (forEach f xs (f x shared).2).1, (forEach f xs (f x shared).2).2) := rfl

theorem mem_forEach {xs : List α} {shared : Shared} {y : α} (member : y ∈ (forEach f xs shared).1) :
    ∃ x ∈ xs, ∃ before, y = (f x before).1 := by
  induction xs generalizing shared with
  | nil => cases member
  | cons x xs ih =>
      rcases List.mem_cons.mp member with rfl | later
      · exact ⟨x, List.mem_cons_self, shared, rfl⟩
      · obtain ⟨x', present, made⟩ := ih later
        exact ⟨x', List.mem_cons_of_mem _ present, made⟩

/-- A body that changes only its argument. -/
theorem forEach_pure (g : α → α) (xs : List α) (shared : Shared) :
    forEach (fun x shared => (g x, shared)) xs shared = (xs.map g, shared) := by
  induction xs with
  | nil => rfl
  | cons x xs ih => rw [forEach_cons, ih, List.map_cons]

/-- What is seen of the argument stays as it is. -/
def Keeps {β : Type} (view : α → β) (f : α → Shared → α × Shared) : Prop :=
  ∀ x shared, view (f x shared).1 = view x

theorem Keeps.forEach {β : Type} {view : α → List β} (keeps : Keeps view f) :
    Keeps (fun xs => xs.flatMap view) (forEach f) := by
  intro xs
  induction xs with
  | nil => exact fun _ => rfl
  | cons x xs ih =>
      intro shared
      dsimp only at ih ⊢
      rw [forEach_cons, List.flatMap_cons, List.flatMap_cons, keeps, ih]

/-- The threads that run are these, and the next one is new. -/
structure Owns (shared : Shared) (threads : List Nat) : Prop where
  perm : shared.alive.Perm threads
  nodup : threads.Nodup
  below : ∀ thread ∈ threads, thread < shared.nextThread

theorem Owns.of_perm {shared : Shared} {threads others : List Nat} (owns : Owns shared threads)
    (same : threads.Perm others) : Owns shared others where
  perm := owns.perm.trans same
  nodup := same.nodup_iff.mp owns.nodup
  below thread member := owns.below thread (same.mem_iff.mpr member)

/-- Afterwards the threads that run are those that the changed element owns, and the others. -/
def KeepsThreads (own : α → List Nat) (f : α → Shared → α × Shared) : Prop :=
  ∀ x shared others, Owns shared (own x ++ others) → Owns (f x shared).2 (own (f x shared).1 ++ others)

theorem KeepsThreads.forEach {own : α → List Nat} (keeps : KeepsThreads own f) :
    KeepsThreads (fun xs => xs.flatMap own) (forEach f) := by
  intro xs
  induction xs with
  | nil => exact fun shared others owns => owns
  | cons x xs ih =>
      intro shared others owns
      dsimp only at ih owns ⊢
      rw [List.flatMap_cons, List.append_assoc] at owns
      have first := keeps x shared _ owns
      have later := ih (f x shared).2 _ (first.of_perm (List.perm_append_comm_assoc _ _ _))
      rw [forEach_cons, List.flatMap_cons, List.append_assoc]
      exact later.of_perm (List.perm_append_comm_assoc _ _ _)

theorem KeepsThreads.owns {own : α → List Nat} (keeps : KeepsThreads own f) {x : α} {shared : Shared}
    (owns : Owns shared (own x)) : Owns (f x shared).2 (own (f x shared).1) := by
  rw [← List.append_nil (own x)] at owns
  exact (keeps x shared [] owns).of_perm (.of_eq (List.append_nil _))

/-- Nothing that is shared changes. -/
def Silent (f : α → Shared → α × Shared) : Prop := ∀ x shared, (f x shared).2 = shared

theorem Silent.forEach (silent : Silent f) : Silent (forEach f) := by
  intro xs
  induction xs with
  | nil => exact fun _ => rfl
  | cons x xs ih =>
      intro shared
      rw [forEach_cons, ih, silent]

/-- The metric, set under some labels. -/
def setStatus (labels : List (Nat × String)) (up : Bool) (status : Nat × String → Option Bool) :
    Nat × String → Option Bool :=
  fun label => if label ∈ labels then some up else status label

theorem setStatus_nil (up : Bool) (status : Nat × String → Option Bool) :
    setStatus [] up status = status := rfl

theorem setStatus_append (first second : List (Nat × String)) (up : Bool)
    (status : Nat × String → Option Bool) :
    setStatus second up (setStatus first up status) = setStatus (first ++ second) up status := by
  funext label
  simp only [setStatus, List.mem_append]
  by_cases early : label ∈ first <;> by_cases late : label ∈ second <;> simp [early, late]

/-- The metric is set under the labels of the element. -/
def Reports (labels : α → List (Nat × String)) (up : Bool) (f : α → Shared → α × Shared) : Prop :=
  ∀ x shared, (f x shared).2.dpStatus = setStatus (labels x) up shared.dpStatus

theorem Reports.forEach {labels : α → List (Nat × String)} {up : Bool} (reports : Reports labels up f) :
    Reports (fun xs => xs.flatMap labels) up (forEach f) := by
  intro xs
  induction xs with
  | nil =>
      exact fun shared => (setStatus_nil up _).symm
  | cons x xs ih =>
      intro shared
      dsimp only at ih ⊢
      rw [forEach_cons, ih, reports, setStatus_append, List.flatMap_cons]

/-! ## Dictionaries -/

variable {κ : Type}

theorem onValue_fst (entry : κ × α) (shared : Shared) : (onValue f entry shared).1.1 = entry.1 := rfl

theorem Keeps.onValue {β : Type} {view : α → β} (keeps : Keeps view f) :
    Keeps (fun entry : κ × α => (entry.1, view entry.2)) (onValue f) :=
  fun entry shared => congrArg (Prod.mk entry.1) (keeps entry.2 shared)

theorem Keeps.snd {β : Type} {view : α → β} {g : κ × α → Shared → (κ × α) × Shared}
    (keeps : Keeps (fun entry : κ × α => (entry.1, view entry.2)) g) :
    Keeps (fun entry : κ × α => view entry.2) g :=
  fun entry shared => congrArg Prod.snd (keeps entry shared)

theorem KeepsThreads.onValue {own : α → List Nat} (keeps : KeepsThreads own f) :
    KeepsThreads (fun entry : κ × α => own entry.2) (onValue f) :=
  fun entry => keeps entry.2

theorem Reports.onValue {labels : α → List (Nat × String)} {up : Bool} (reports : Reports labels up f) :
    Reports (fun entry : κ × α => labels entry.2) up (onValue f) :=
  fun entry => reports entry.2

variable [DecidableEq κ] {key : κ}

theorem Keeps.onKey {β : Type} {view : α → β} (keeps : Keeps view f) :
    Keeps (fun entry : κ × α => (entry.1, view entry.2)) (onKey key f) := by
  intro entry shared
  unfold Polling.onKey
  split
  · exact keeps.onValue entry shared
  · rfl

theorem KeepsThreads.onKey {own : α → List Nat} (keeps : KeepsThreads own f) :
    KeepsThreads (fun entry : κ × α => own entry.2) (onKey key f) := by
  intro entry shared others owns
  unfold Polling.onKey
  split
  · exact keeps entry.2 shared others owns
  · exact owns

theorem Silent.onKey (silent : Silent f) : Silent (onKey key f : κ × α → Shared → (κ × α) × Shared) := by
  intro entry shared
  unfold Polling.onKey
  split
  · exact silent entry.2 shared
  · rfl

theorem Reports.onKey {labels : α → List (Nat × String)} {up : Bool} (reports : Reports labels up f) :
    Reports (fun entry : κ × α => if entry.1 = key then labels entry.2 else []) up (onKey key f) := by
  intro entry shared
  unfold Polling.onKey
  dsimp only
  by_cases same : entry.1 = key
  · rw [if_pos same, if_pos same]
    exact reports entry.2 shared
  · rw [if_neg same, if_neg same]
    exact (setStatus_nil _ _).symm

end ForEach

variable {μ : Type}

/-! ## One watcher -/

namespace Watcher

/-- The thread that is the watcher's. -/
def ownThreads (watcher : Watcher μ) : List Nat :=
  if watcher.conf.type.polls then watcher.thread.toList else []

theorem ownThreads_eq_nil {watcher : Watcher μ} :
    watcher.ownThreads = [] ↔ watcher.isActive = false := by
  rw [ownThreads, isActive]
  cases watcher.conf.type.polls <;> cases watcher.thread <;> simp

theorem conf_stop (watcher : Watcher μ) (shared : Shared) :
    (watcher.stop shared).1.conf = watcher.conf := by
  rw [stop]
  split <;> rfl

theorem isActive_stop (watcher : Watcher μ) (shared : Shared) :
    (watcher.stop shared).1.isActive = false := by
  rw [stop]
  split
  next => exact Bool.and_false _
  next inactive => exact Bool.eq_false_iff.mpr inactive

/-- A stopped watcher owns no thread, and its thread runs no more. -/
theorem keepsThreads_stop : KeepsThreads (@ownThreads μ) stop := by
  intro watcher shared others owns
  rw [ownThreads_eq_nil.mpr (isActive_stop watcher shared), List.nil_append, stop]
  split
  next active =>
    obtain ⟨polls, running⟩ := Bool.and_eq_true_iff.mp active
    obtain ⟨thread, own⟩ := Option.isSome_iff_exists.mp running
    rw [ownThreads, if_pos polls, own, Option.toList_some, List.singleton_append] at owns
    obtain ⟨absent, nodup⟩ := List.nodup_cons.mp owns.nodup
    have left : (thread :: others).filter (fun other => watcher.thread ≠ some other) = others := by
      rw [own, List.filter_cons_of_neg (by simp), List.filter_eq_self]
      intro other member
      refine decide_eq_true fun same => absent ?_
      rwa [Option.some.inj same]
    exact ⟨left ▸ owns.perm.filter _, nodup,
      fun other member => owns.below other (List.mem_cons_of_mem _ member)⟩
  next inactive =>
    rwa [ownThreads_eq_nil.mpr (Bool.eq_false_iff.mpr inactive), List.nil_append] at owns

theorem conf_start (watcher : Watcher μ) (ryuDp : RyuDp) (active : Bool) (shared : Shared) :
    (watcher.start ryuDp active shared).1.conf = watcher.conf := by
  unfold start
  dsimp only
  split
  · split
    · exact conf_stop watcher shared
    · exact conf_stop watcher shared
  · rfl

theorem isActive_start (watcher : Watcher μ) (ryuDp : RyuDp) (active : Bool) (shared : Shared) :
    (watcher.start ryuDp active shared).1.isActive = (watcher.conf.type.polls && active) := by
  unfold start
  dsimp only
  split
  next polls =>
    cases active with
    | true => simp [isActive, conf_stop]
    | false => exact (isActive_stop watcher shared).trans (Bool.and_false _).symm
  next idle => simp [isActive, idle]

theorem keepsThreads_start (ryuDp : RyuDp) (active : Bool) :
    KeepsThreads (@ownThreads μ) fun watcher => watcher.start ryuDp active := by
  intro watcher shared others owns
  unfold start
  dsimp only
  split
  next polls =>
    have kept := keepsThreads_stop watcher shared others owns
    have stopped : Owns (watcher.stop shared).2 others := by
      rwa [ownThreads_eq_nil.mpr (isActive_stop watcher shared), List.nil_append] at kept
    cases active with
    | true =>
        have own : ownThreads { (watcher.stop shared).1 with
            ryudp := some ryuDp, running := true, thread := some (watcher.stop shared).2.nextThread } =
            [(watcher.stop shared).2.nextThread] := by
          rw [ownThreads, if_pos (by rw [conf_stop]; exact polls)]
          rfl
        rw [if_pos rfl, own, List.singleton_append]
        refine ⟨stopped.perm.cons _, List.nodup_cons.mpr ⟨fun member => ?_, stopped.nodup⟩, ?_⟩
        · exact lt_irrefl _ (stopped.below _ member)
        · intro thread member
          rcases List.mem_cons.mp member with rfl | earlier
          · exact Nat.lt_succ_self _
          · exact (stopped.below thread earlier).trans (Nat.lt_succ_self _)
    | false =>
        rw [if_neg (by simp)]
        exact kept
  next idle =>
    rw [ownThreads, if_neg idle] at owns ⊢
    exact owns

theorem start_listens (watcher : Watcher μ) (ryuDp : RyuDp) (active : Bool) (shared : Shared) :
    (watcher.start ryuDp active shared).1.running = true ∧
      (watcher.start ryuDp active shared).1.ryudp = some ryuDp := by
  unfold start
  dsimp only
  split
  · split <;> exact ⟨rfl, rfl⟩
  · exact ⟨rfl, rfl⟩

theorem dpStatus_stop (watcher : Watcher μ) (shared : Shared) :
    (watcher.stop shared).2.dpStatus = shared.dpStatus := by
  rw [stop]
  split <;> rfl

theorem dpStatus_start (watcher : Watcher μ) (ryuDp : RyuDp) (active : Bool) (shared : Shared) :
    (watcher.start ryuDp active shared).2.dpStatus = shared.dpStatus := by
  unfold start
  dsimp only
  split
  · split <;> exact dpStatus_stop watcher shared
  · rfl

/-- All but what it has received. -/
def forget (watcher : Watcher μ) : Watcher μ := { watcher with received := [] }

theorem forget_update (watcher : Watcher μ) (msg : Msg μ) :
    (watcher.update msg).forget = watcher.forget := by
  rw [update]
  split <;> rfl

section Forget

variable {watcher other : Watcher μ} (same : watcher.forget = other.forget)
include same

theorem isActive_of_forget : watcher.isActive = other.isActive := by
  change watcher.forget.isActive = other.forget.isActive
  rw [same]

theorem ownThreads_of_forget : watcher.ownThreads = other.ownThreads := by
  change watcher.forget.ownThreads = other.forget.ownThreads
  rw [same]

theorem conf_of_forget : watcher.conf = other.conf := by
  change watcher.forget.conf = other.forget.conf
  rw [same]

theorem listens_of_forget : watcher.running = other.running ∧ watcher.ryudp = other.ryudp := by
  change watcher.forget.running = other.forget.running ∧ watcher.forget.ryudp = other.forget.ryudp
  rw [same]
  exact ⟨rfl, rfl⟩

end Forget

theorem reported (watcher : Watcher μ) (up : Bool) (shared : Shared) :
    (watcher.reportDpStatus up shared).dpStatus = setStatus [watcher.label] up shared.dpStatus := by
  funext label
  simp only [reportDpStatus, setStatus, Function.update_apply, List.mem_singleton]

theorem owns_reported {watcher : Watcher μ} {up : Bool} {shared : Shared} {threads : List Nat}
    (owns : Owns shared threads) : Owns (watcher.reportDpStatus up shared) threads :=
  ⟨owns.perm, owns.nodup, owns.below⟩

end Watcher

/-! ## Starting and stopping -/

section Starting

variable {ryuDp : RyuDp} {active : Bool}

theorem forget_startWatcher (watcher : Watcher μ) (shared : Shared) :
    (startWatcher ryuDp active watcher shared).1.forget =
        (watcher.start ryuDp active (watcher.reportDpStatus true shared)).1.forget ∧
      (startWatcher ryuDp active watcher shared).2 =
        (watcher.start ryuDp active (watcher.reportDpStatus true shared)).2 := by
  unfold startWatcher
  dsimp only
  split
  · refine ⟨?_, rfl⟩
    generalize (watcher.start ryuDp active (watcher.reportDpStatus true shared)).1 = started
    induction ryuDp.ports generalizing started with
    | nil => rfl
    | cons port ports ih => rw [List.foldl_cons, ih, Watcher.forget_update]
  · exact ⟨rfl, rfl⟩

theorem keepsThreads_startWatcher : KeepsThreads (@Watcher.ownThreads μ) (startWatcher ryuDp active) := by
  intro watcher shared others owns
  obtain ⟨same, sameShared⟩ := @forget_startWatcher μ ryuDp active watcher shared
  rw [sameShared, Watcher.ownThreads_of_forget same]
  exact Watcher.keepsThreads_start ryuDp active watcher _ others (Watcher.owns_reported owns)

theorem conf_startWatcher (watcher : Watcher μ) (shared : Shared) :
    (startWatcher ryuDp active watcher shared).1.conf = watcher.conf := by
  obtain ⟨same, _⟩ := @forget_startWatcher μ ryuDp active watcher shared
  rw [Watcher.conf_of_forget same, Watcher.conf_start]

theorem isActive_startWatcher (watcher : Watcher μ) (shared : Shared) :
    (startWatcher ryuDp active watcher shared).1.isActive = (watcher.conf.type.polls && active) := by
  obtain ⟨same, _⟩ := @forget_startWatcher μ ryuDp active watcher shared
  rw [Watcher.isActive_of_forget same, Watcher.isActive_start]

theorem startWatcher_listens (watcher : Watcher μ) (shared : Shared) :
    (startWatcher ryuDp active watcher shared).1.running = true ∧
      (startWatcher ryuDp active watcher shared).1.ryudp = some ryuDp := by
  obtain ⟨same, _⟩ := @forget_startWatcher μ ryuDp active watcher shared
  obtain ⟨running, connection⟩ := Watcher.listens_of_forget same
  rw [running, connection]
  exact Watcher.start_listens watcher ryuDp active _

/-- The labels of a watcher. -/
def labels (watcher : Watcher μ) : List (Nat × String) := [watcher.label]

theorem keeps_startWatcher : Keeps (@labels μ) (startWatcher ryuDp active) := by
  intro watcher shared
  rw [labels, labels, Watcher.label, Watcher.label, conf_startWatcher]

theorem reports_startWatcher : Reports (@labels μ) true (startWatcher ryuDp active) := by
  intro watcher shared
  obtain ⟨_, sameShared⟩ := @forget_startWatcher μ ryuDp active watcher shared
  rw [sameShared, Watcher.dpStatus_start, Watcher.reported]
  rfl

/-! ### The watchers of a type -/

/-- The threads of the watchers of a type. -/
def ownThreads (watchers : List (Watcher μ)) : List Nat := watchers.flatMap Watcher.ownThreads

/-- The labels of the watchers of a type. -/
def labelsOf (watchers : List (Watcher μ)) : List (Nat × String) := watchers.flatMap labels

theorem startWatchersByName_cons (first : Watcher μ) (rest : List (Watcher μ)) (shared : Shared) :
    startWatchersByName ryuDp (first :: rest) shared =
      ((startWatcher ryuDp true first shared).1 ::
          (forEach (startWatcher ryuDp false) rest (startWatcher ryuDp true first shared).2).1,
        (forEach (startWatcher ryuDp false) rest (startWatcher ryuDp true first shared).2).2) := rfl

theorem keepsThreads_startWatchersByName :
    KeepsThreads (@ownThreads μ) (startWatchersByName ryuDp) := by
  intro watchers shared others owns
  cases watchers with
  | nil => exact owns
  | cons first rest =>
      rw [ownThreads, List.flatMap_cons, List.append_assoc] at owns
      have started := @keepsThreads_startWatcher μ ryuDp true first shared _ owns
      have later := (@keepsThreads_startWatcher μ ryuDp false).forEach rest _ _
        (started.of_perm (List.perm_append_comm_assoc _ _ _))
      exact (later.of_perm (List.perm_append_comm_assoc _ _ _)).of_perm
        (.of_eq (List.append_assoc _ _ _).symm)

theorem keeps_startWatchersByName : Keeps (@labelsOf μ) (startWatchersByName ryuDp) := by
  intro watchers shared
  cases watchers with
  | nil => rfl
  | cons first rest =>
      have started := @keeps_startWatcher μ ryuDp true first shared
      have later := (@keeps_startWatcher μ ryuDp false).forEach rest
        (startWatcher ryuDp true first shared).2
      exact congrArg₂ (· ++ ·) started later

theorem reports_startWatchersByName : Reports (@labelsOf μ) true (startWatchersByName ryuDp) := by
  intro watchers shared
  cases watchers with
  | nil => rfl
  | cons first rest =>
      have started := @reports_startWatcher μ ryuDp true first shared
      have later := (@reports_startWatcher μ ryuDp false).forEach rest
        (startWatcher ryuDp true first shared).2
      rw [started, setStatus_append] at later
      exact later

/-- The watchers have been started on a connection. -/
structure Started (ryuDp : RyuDp) (watchers : List (Watcher μ)) : Prop where
  listen : ∀ watcher ∈ watchers, watcher.running = true ∧ watcher.ryudp = some ryuDp
  first : ∀ first rest, watchers = first :: rest → first.isActive = first.conf.type.polls
  others : ∀ first rest, watchers = first :: rest → ∀ watcher ∈ rest, watcher.isActive = false

theorem started_startWatchersByName (watchers : List (Watcher μ)) (shared : Shared) :
    Started ryuDp (startWatchersByName ryuDp watchers shared).1 := by
  cases watchers with
  | nil => exact ⟨nofun, nofun, nofun⟩
  | cons first rest =>
      rw [startWatchersByName_cons]
      have later : ∀ watcher ∈ (forEach (startWatcher ryuDp false) rest
          (startWatcher ryuDp true first shared).2).1, ∃ old ∈ rest, ∃ before,
          watcher = (startWatcher ryuDp false old before).1 := fun watcher => mem_forEach
      constructor
      · intro watcher member
        rcases List.mem_cons.mp member with rfl | member
        · exact startWatcher_listens first shared
        · obtain ⟨old, _, before, rfl⟩ := later watcher member
          exact startWatcher_listens old before
      · intro started others same
        obtain ⟨rfl, rfl⟩ := List.cons.inj same
        rw [isActive_startWatcher, conf_startWatcher, Bool.and_true]
      · intro started others same watcher member
        obtain ⟨rfl, rfl⟩ := List.cons.inj same
        obtain ⟨old, _, before, rfl⟩ := later watcher member
        rw [isActive_startWatcher, Bool.and_false]

end Starting

section Stopping

theorem keepsThreads_stopWatcher : KeepsThreads (@Watcher.ownThreads μ) stopWatcher := by
  intro watcher shared others owns
  unfold stopWatcher
  dsimp only
  split
  · exact Watcher.keepsThreads_stop watcher _ others (Watcher.owns_reported owns)
  · exact Watcher.owns_reported owns

theorem keeps_stopWatcher : Keeps (@labels μ) stopWatcher := by
  intro watcher shared
  unfold stopWatcher
  dsimp only
  split
  · rw [labels, labels, Watcher.label, Watcher.label, Watcher.conf_stop]
  · rfl

theorem reports_stopWatcher : Reports (@labels μ) false stopWatcher := by
  intro watcher shared
  unfold stopWatcher
  dsimp only
  split
  · rw [Watcher.dpStatus_stop, Watcher.reported]
    rfl
  · rw [Watcher.reported]
    rfl

theorem isActive_stopWatcher (watcher : Watcher μ) (shared : Shared) :
    (stopWatcher watcher shared).1.isActive = false := by
  unfold stopWatcher
  dsimp only
  split
  next => exact Watcher.isActive_stop watcher _
  next inactive => exact Bool.eq_false_iff.mpr inactive

end Stopping

end Faucet.Polling
