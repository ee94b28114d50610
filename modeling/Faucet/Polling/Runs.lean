import Faucet.Polling.Starting

/-!
# Who polls

Whatever connects, disconnects, is loaded and comes in, and in whatever order the
events are handled, the threads that run are those of the watchers, at most one for a
datapath and a type, and none is left behind. When all events have been handled, each
connected datapath is polled on its connection for what the first watcher of each type
asks for, all its watchers listen, and `dp_status` says up of it and of no other.
-/

set_option autoImplicit false

namespace Faucet.Polling

open TransitionSystem

variable {μ : Type}

/-! ## The watchers of a datapath -/

/-- The watchers of a type have been started on a connection, or stopped. -/
def InStatus (status : Option RyuDp) (watchers : List (Watcher μ)) : Prop :=
  match status with
  | some ryuDp => Started ryuDp watchers
  | none => ∀ watcher ∈ watchers, watcher.isActive = false

/-- The threads of the watchers of a datapath. -/
def dpThreads (watchers : ByType μ) : List Nat := watchers.flatMap fun typed => ownThreads typed.2

/-- The labels of the watchers of a datapath. -/
def dpLabels (watchers : ByType μ) : List (Nat × String) :=
  watchers.flatMap fun typed => labelsOf typed.2

section Datapath

theorem keepsThreads_startWatchers (ryuDp : RyuDp) :
    KeepsThreads (@dpThreads μ) (startWatchers ryuDp) :=
  keepsThreads_startWatchersByName.onValue.forEach

theorem keepsThreads_stopWatchers : KeepsThreads (@dpThreads μ) stopWatchers :=
  keepsThreads_stopWatcher.forEach.onValue.forEach

theorem reports_startWatchers (ryuDp : RyuDp) : Reports (@dpLabels μ) true (startWatchers ryuDp) :=
  reports_startWatchersByName.onValue.forEach

theorem reports_stopWatchers : Reports (@dpLabels μ) false stopWatchers :=
  reports_stopWatcher.forEach.onValue.forEach

theorem keeps_startWatchers (ryuDp : RyuDp) : Keeps (@dpLabels μ) (startWatchers ryuDp) :=
  keeps_startWatchersByName.onValue.snd.forEach

theorem keeps_stopWatchers : Keeps (@dpLabels μ) stopWatchers :=
  keeps_stopWatcher.forEach.onValue.snd.forEach

theorem inStatus_startWatchers {ryuDp : RyuDp} {watchers : ByType μ} {shared : Shared}
    {typed : WatcherType × List (Watcher μ)} (member : typed ∈ (startWatchers ryuDp watchers shared).1) :
    InStatus (some ryuDp) typed.2 := by
  obtain ⟨old, _, before, rfl⟩ := mem_forEach member
  exact started_startWatchersByName old.2 before

theorem inStatus_stopWatchers {watchers : ByType μ} {shared : Shared}
    {typed : WatcherType × List (Watcher μ)} (member : typed ∈ (stopWatchers watchers shared).1) :
    InStatus none typed.2 := by
  obtain ⟨old, _, before, rfl⟩ := mem_forEach member
  intro watcher present
  obtain ⟨earlier, _, shared', rfl⟩ := mem_forEach present
  exact isActive_stopWatcher earlier shared'

/-! ### Messages -/

theorem keepsThreads_tell (msg : μ) : KeepsThreads (@Watcher.ownThreads μ) (tell msg) := by
  intro watcher shared others owns
  rwa [tell, Watcher.ownThreads_of_forget (Watcher.forget_update watcher _)]

theorem keeps_tell (msg : μ) : Keeps (@labels μ) (tell msg) := by
  intro watcher shared
  rw [tell, labels, labels, Watcher.label, Watcher.label,
    Watcher.conf_of_forget (Watcher.forget_update watcher _)]

/-- What is told changes neither who listens nor who polls. -/
theorem Started.update {ryuDp : RyuDp} {watchers : List (Watcher μ)} (started : Started ryuDp watchers)
    (msg : Msg μ) : Started ryuDp (watchers.map fun watcher => watcher.update msg) where
  listen watcher member := by
    obtain ⟨old, present, rfl⟩ := List.mem_map.mp member
    obtain ⟨running, connection⟩ := Watcher.listens_of_forget (Watcher.forget_update old msg)
    rw [running, connection]
    exact started.listen old present
  first first rest same := by
    obtain ⟨old, others, rfl, rfl, rfl⟩ := List.map_eq_cons_iff.mp same
    rw [Watcher.isActive_of_forget (Watcher.forget_update old msg),
      Watcher.conf_of_forget (Watcher.forget_update old msg)]
    exact started.first old others rfl
  others first rest same watcher member := by
    obtain ⟨old, others, rfl, rfl, rfl⟩ := List.map_eq_cons_iff.mp same
    obtain ⟨other, present, rfl⟩ := List.mem_map.mp member
    rw [Watcher.isActive_of_forget (Watcher.forget_update other msg)]
    exact started.others old others rfl other present

theorem inStatus_tell {status : Option RyuDp} {watchers : List (Watcher μ)} {msg : μ} {shared : Shared}
    (inStatus : InStatus status watchers) : InStatus status (forEach (tell msg) watchers shared).1 := by
  have told : (forEach (tell msg) watchers shared).1 =
      watchers.map fun watcher => watcher.update (.other msg) :=
    congrArg Prod.fst (forEach_pure (fun watcher => watcher.update (.other msg)) watchers shared)
  rw [told]
  cases status with
  | some ryuDp => exact Started.update inStatus (.other msg)
  | none =>
      intro watcher member
      obtain ⟨old, present, rfl⟩ := List.mem_map.mp member
      rw [Watcher.isActive_of_forget (Watcher.forget_update old _)]
      exact inStatus old present

end Datapath

/-! ## All watchers -/

/-- The threads of all watchers. -/
def allThreads (watchers : Watchers μ) : List Nat := watchers.flatMap fun entry => dpThreads entry.2

/-- The labels of all watchers. -/
def allLabels (watchers : Watchers μ) : List (Nat × String) :=
  watchers.flatMap fun entry => dpLabels entry.2

/-- The watchers, the threads and the metric are as they are when each datapath has been
started or stopped as its status says. -/
structure Fits (watchers : Watchers μ) (shared : Shared) (status : Nat → Option RyuDp) : Prop where
  placed : ∀ entry ∈ watchers, ∀ label ∈ dpLabels entry.2, label.1 = entry.1
  owned : Owns shared (allThreads watchers)
  inStatus : ∀ entry ∈ watchers, ∀ typed ∈ entry.2, InStatus (status entry.1) typed.2
  reported : ∀ label, shared.dpStatus label = some true ↔
    (status label.1).isSome = true ∧ label ∈ allLabels watchers

section OneDatapath

variable {watchers : Watchers μ} {shared : Shared} {status : Nat → Option RyuDp} {dpId : Nat}
  {f : ByType μ → Shared → ByType μ × Shared}

theorem forEach_onKey_of_absent (absent : dpId ∉ watchers.map Prod.fst) :
    forEach (onKey dpId f) watchers shared = (watchers, shared) := by
  induction watchers with
  | nil => rfl
  | cons entry rest ih =>
      rw [List.map_cons, List.mem_cons, not_or] at absent
      rw [forEach_cons, onKey, if_neg (Ne.symm absent.1), ih absent.2]

theorem mem_onKey {entry : Nat × ByType μ}
    (member : entry ∈ (forEach (onKey dpId f) watchers shared).1) :
    (entry.1 ≠ dpId ∧ entry ∈ watchers) ∨
      ∃ old ∈ watchers, ∃ before, entry.1 = dpId ∧ entry.2 = (f old.2 before).1 ∧ old.1 = dpId := by
  obtain ⟨old, present, before, rfl⟩ := mem_forEach member
  unfold onKey
  split
  next same => exact .inr ⟨old, present, before, same, rfl, same⟩
  next other => exact .inl ⟨other, present⟩

theorem Fits.placed_onKey (fits : Fits watchers shared status) (keeps : Keeps dpLabels f) :
    ∀ entry ∈ (forEach (onKey dpId f) watchers shared).1,
      ∀ label ∈ dpLabels entry.2, label.1 = entry.1 := by
  intro entry member label listed
  rcases mem_onKey member with ⟨_, present⟩ | ⟨old, present, before, key, value, same⟩
  · exact fits.placed entry present label listed
  · rw [value, keeps] at listed
    rw [key, ← same]
    exact fits.placed old present label listed

/-- The labels of a datapath are those that have its id. -/
theorem Fits.mem_labels (fits : Fits watchers shared status) {label : Nat × String} :
    label ∈ watchers.flatMap (fun entry => if entry.1 = dpId then dpLabels entry.2 else []) ↔
      label.1 = dpId ∧ label ∈ allLabels watchers := by
  rw [allLabels, List.mem_flatMap, List.mem_flatMap]
  constructor
  · rintro ⟨entry, member, listed⟩
    split at listed
    next same => exact ⟨(fits.placed entry member label listed).trans same, entry, member, listed⟩
    next => cases listed
  · rintro ⟨same, entry, member, listed⟩
    refine ⟨entry, member, ?_⟩
    rwa [if_pos ((fits.placed entry member label listed).symm.trans same)]

/-- A datapath is started or stopped. -/
theorem Fits.onKey (fits : Fits watchers shared status) {new : Option RyuDp}
    (threads : KeepsThreads dpThreads f) (keeps : Keeps dpLabels f)
    (reports : Reports dpLabels new.isSome f)
    (results : ∀ watchers shared, ∀ typed ∈ (f watchers shared).1, InStatus new typed.2) :
    Fits (forEach (onKey dpId f) watchers shared).1 (forEach (onKey dpId f) watchers shared).2
      (Function.update status dpId new) where
  placed := fits.placed_onKey keeps
  owned := threads.onKey.forEach.owns fits.owned
  inStatus entry member typed listed := by
    rcases mem_onKey member with ⟨other, present⟩ | ⟨old, present, before, key, value, same⟩
    · rw [Function.update_of_ne other]
      exact fits.inStatus entry present typed listed
    · rw [key, Function.update_self]
      rw [value] at listed
      exact results old.2 before typed listed
  reported label := by
    have labels : allLabels (forEach (Polling.onKey dpId f) watchers shared).1 = allLabels watchers :=
      keeps.onKey.snd.forEach watchers shared
    rw [labels, reports.onKey.forEach watchers shared, setStatus]
    by_cases same : label.1 = dpId
    · by_cases listed : label ∈ allLabels watchers
      · rw [if_pos (fits.mem_labels.mpr ⟨same, listed⟩), same, Function.update_self]
        simp [listed]
      · rw [if_neg fun member => listed (fits.mem_labels.mp member).2, fits.reported]
        simp [listed]
    · rw [if_neg fun member => same (fits.mem_labels.mp member).1, fits.reported,
        Function.update_of_ne same]

/-- The watchers of one datapath and type are told something. -/
def tellWatchers (dpId : Nat) (name : WatcherType) (msg : μ) :
    Watchers μ → Shared → Watchers μ × Shared :=
  forEach (Polling.onKey dpId (forEach (Polling.onKey name (forEach (tell msg)))))

theorem Fits.tell (fits : Fits watchers shared status) {name : WatcherType} {msg : μ} :
    Fits (tellWatchers dpId name msg watchers shared).1 (tellWatchers dpId name msg watchers shared).2
      status := by
  have keeps : Keeps dpLabels (forEach (Polling.onKey name (forEach (Polling.tell msg)))) :=
    (keeps_tell msg).forEach.onKey.snd.forEach
  have silent : Silent (forEach (Polling.onKey name (forEach (Polling.tell msg)))) :=
    fun _ => Silent.forEach (Silent.onKey (Silent.forEach fun _ _ => rfl)) _
  constructor
  · exact fits.placed_onKey keeps
  · exact (keepsThreads_tell msg).forEach.onKey.forEach.onKey.forEach.owns fits.owned
  · intro entry member typed listed
    rcases mem_onKey member with ⟨_, present⟩ | ⟨old, present, before, key, value, same⟩
    · exact fits.inStatus entry present typed listed
    · rw [value] at listed
      rw [key, ← same]
      obtain ⟨earlier, among, shared', rfl⟩ := mem_forEach listed
      have inStatus := fits.inStatus old present earlier among
      unfold Polling.onKey
      split
      · exact inStatus_tell inStatus
      · exact inStatus
  · intro label
    have labels : allLabels (tellWatchers dpId name msg watchers shared).1 = allLabels watchers :=
      keeps.onKey.snd.forEach watchers shared
    rw [labels, tellWatchers, silent.onKey.forEach, fits.reported]

end OneDatapath

/-! ## Loading -/

section Loading

/-- New watchers are under their datapaths, and no thread is theirs. -/
def Fresh (watchers : Watchers μ) : Prop :=
  ∀ entry ∈ watchers, ∀ typed ∈ entry.2, ∀ watcher ∈ typed.2,
    watcher.conf.dpId = entry.1 ∧ watcher.thread = none

theorem Fresh.addWatcher {watchers : Watchers μ} {watcher : Watcher μ} (fresh : Fresh watchers)
    (idle : watcher.thread = none) : Fresh (addWatcher watchers watcher) := by
  -- what is looked up is among the watchers
  have known : ∀ typed ∈ (watchers.lookup watcher.conf.dpId).getD [], ∀ other ∈ typed.2,
      other.conf.dpId = watcher.conf.dpId ∧ other.thread = none := by
    intro typed listed other member
    cases found : watchers.lookup watcher.conf.dpId with
    | none =>
        rw [found] at listed
        cases listed
    | some byType =>
        rw [found] at listed
        exact fresh _ (OrderedDict.mem_of_lookup found) typed listed other member
  intro entry member typed listed other present
  rcases OrderedDict.mem_of_mem_set member with old | rfl
  · exact fresh entry old typed listed other present
  · rcases OrderedDict.mem_of_mem_set listed with old | rfl
    · exact known typed old other present
    · rcases List.mem_append.mp present with earlier | new
      · cases found : ((watchers.lookup watcher.conf.dpId).getD []).lookup watcher.conf.type with
        | none =>
            rw [found] at earlier
            cases earlier
        | some listed =>
            rw [found] at earlier
            exact known _ (OrderedDict.mem_of_lookup found) other earlier
      · rw [List.mem_singleton.mp new]
        exact ⟨rfl, idle⟩

theorem fresh_foldl {new : List (Watcher μ)} {watchers : Watchers μ} (fresh : Fresh watchers)
    (idle : ∀ watcher ∈ new, watcher.thread = none) : Fresh (new.foldl addWatcher watchers) := by
  induction new generalizing watchers with
  | nil => exact fresh
  | cons watcher rest ih =>
      exact ih (fresh.addWatcher (idle watcher List.mem_cons_self))
        fun other member => idle other (List.mem_cons_of_mem _ member)

theorem thread_watcherFactory {conf : WatcherConf} {watcher : Watcher μ}
    (made : watcherFactory conf = some watcher) : watcher.thread = none := by
  unfold watcherFactory at made
  split at made
  · cases made
    rfl
  · cases made
    rfl
  · cases made

theorem thread_of_mapM {confs : List WatcherConf} {new : List (Watcher μ)}
    (made : confs.mapM watcherFactory = some new) : ∀ watcher ∈ new, watcher.thread = none := by
  induction confs generalizing new with
  | nil =>
      cases made
      nofun
  | cons conf rest ih =>
      rw [List.mapM_cons] at made
      obtain ⟨first, makesFirst, made⟩ := Option.bind_eq_some_iff.mp made
      obtain ⟨others, makesOthers, made⟩ := Option.bind_eq_some_iff.mp made
      cases made
      intro watcher member
      rcases List.mem_cons.mp member with rfl | later
      · exact thread_watcherFactory makesFirst
      · exact ih makesOthers watcher later

theorem Fresh.inactive {watchers : Watchers μ} (fresh : Fresh watchers) {entry : Nat × ByType μ}
    (member : entry ∈ watchers) {typed : WatcherType × List (Watcher μ)} (listed : typed ∈ entry.2) :
    InStatus none typed.2 := by
  intro watcher present
  rw [Watcher.isActive, (fresh entry member typed listed watcher present).2]
  exact Bool.and_false _

/-- Watchers that do not poll own no thread. -/
theorem allThreads_eq_nil {watchers : Watchers μ}
    (inactive : ∀ entry ∈ watchers, ∀ typed ∈ entry.2, InStatus none typed.2) :
    allThreads watchers = [] := by
  rw [allThreads, List.flatMap_eq_nil_iff]
  intro entry member
  rw [dpThreads, List.flatMap_eq_nil_iff]
  intro typed listed
  rw [ownThreads, List.flatMap_eq_nil_iff]
  exact fun watcher present =>
    Watcher.ownThreads_eq_nil.mpr (inactive entry member typed listed watcher present)

variable {watchers : Watchers μ} {shared : Shared} {dpset : Nat → Option RyuDp}

theorem keepsThreads_startConnected :
    KeepsThreads (fun entry : Nat × ByType μ => dpThreads entry.2) (Gauge.startConnected dpset) := by
  intro entry shared others owns
  unfold Gauge.startConnected
  split
  · exact (keepsThreads_startWatchers _).onValue entry shared others owns
  · exact owns

theorem keeps_startConnected : Keeps (fun entry : Nat × ByType μ => (entry.1, dpLabels entry.2))
    (Gauge.startConnected dpset) := by
  intro entry shared
  unfold Gauge.startConnected
  split
  · exact (keeps_startWatchers _).onValue entry shared
  · rfl

theorem reports_startConnected : Reports
    (fun entry : Nat × ByType μ => if (dpset entry.1).isSome then dpLabels entry.2 else []) true
    (Gauge.startConnected dpset) := by
  intro entry shared
  unfold Gauge.startConnected
  dsimp only
  cases dpset entry.1 with
  | some ryuDp => exact (reports_startWatchers ryuDp).onValue entry shared
  | none => rfl

/-- New watchers are started when no other ones poll or report. -/
theorem fits_startConnected (fresh : Fresh watchers) (owns : Owns shared [])
    (down : ∀ label, shared.dpStatus label ≠ some true) :
    Fits (forEach (Gauge.startConnected dpset) watchers shared).1
      (forEach (Gauge.startConnected dpset) watchers shared).2 dpset := by
  have placed : ∀ entry ∈ watchers, ∀ label ∈ dpLabels entry.2, label.1 = entry.1 := by
    intro entry member label listed
    obtain ⟨typed, among, listed⟩ := List.mem_flatMap.mp listed
    obtain ⟨watcher, present, own⟩ := List.mem_flatMap.mp listed
    rw [List.mem_singleton.mp own]
    exact (fresh entry member typed among watcher present).1
  constructor
  · intro entry member label listed
    obtain ⟨old, present, before, rfl⟩ := mem_forEach member
    obtain ⟨key, value⟩ := Prod.mk.inj (keeps_startConnected old before)
    rw [value] at listed
    rw [key]
    exact placed old present label listed
  · refine keepsThreads_startConnected.forEach.owns ?_
    have none := allThreads_eq_nil fun entry member typed listed => fresh.inactive member listed
    exact owns.of_perm (.of_eq none.symm)
  · intro entry member typed listed
    obtain ⟨old, present, before, rfl⟩ := mem_forEach member
    unfold Gauge.startConnected at listed ⊢
    cases connected : dpset old.1 with
    | some ryuDp =>
        rw [connected] at listed
        dsimp only [onValue_fst] at listed ⊢
        rw [connected]
        exact inStatus_startWatchers listed
    | none =>
        rw [connected] at listed
        dsimp only at listed ⊢
        rw [connected]
        exact fresh.inactive present listed
  · intro label
    have labels : allLabels (forEach (Gauge.startConnected dpset) watchers shared).1 =
        allLabels watchers := keeps_startConnected.snd.forEach watchers shared
    have connected : label ∈ watchers.flatMap
        (fun entry => if (dpset entry.1).isSome then dpLabels entry.2 else []) ↔
        (dpset label.1).isSome = true ∧ label ∈ allLabels watchers := by
      rw [allLabels, List.mem_flatMap, List.mem_flatMap]
      constructor
      · rintro ⟨entry, member, listed⟩
        split at listed
        next connected =>
          rw [placed entry member label listed]
          exact ⟨connected, entry, member, listed⟩
        next => cases listed
      · rintro ⟨connected, entry, member, listed⟩
        refine ⟨entry, member, ?_⟩
        rwa [if_pos (by rwa [← placed entry member label listed])]
    rw [labels, reports_startConnected.forEach watchers shared, setStatus]
    by_cases up : (dpset label.1).isSome = true ∧ label ∈ allLabels watchers
    · rw [if_pos (connected.mpr up)]
      exact iff_of_true rfl up
    · rw [if_neg (mt connected.mp up)]
      exact iff_of_false (down label) up

/-- The old watchers are stopped, and the new ones started. -/
theorem Fits.loadConfig {gauge : Gauge μ} {status : Nat → Option RyuDp}
    (fits : Fits gauge.watchers gauge.shared status) {new : List (Watcher μ)}
    (idle : ∀ watcher ∈ new, watcher.thread = none) :
    Fits (forEach (Gauge.startConnected gauge.dpset) (new.foldl addWatcher [])
        (forEach (onValue stopWatchers) gauge.watchers gauge.shared).2).1
      (forEach (Gauge.startConnected gauge.dpset) (new.foldl addWatcher [])
        (forEach (onValue stopWatchers) gauge.watchers gauge.shared).2).2 gauge.dpset := by
  refine fits_startConnected (fresh_foldl nofun idle) ?_ fun label up => ?_
  · have owns := keepsThreads_stopWatchers.onValue.forEach.owns fits.owned
    refine owns.of_perm (.of_eq (allThreads_eq_nil fun entry member typed listed => ?_))
    obtain ⟨old, _, before, rfl⟩ := mem_forEach member
    exact inStatus_stopWatchers listed
  · rw [reports_stopWatchers.onValue.forEach gauge.watchers gauge.shared, setStatus] at up
    split at up
    next => cases up
    next unlisted => exact unlisted ((fits.reported label).mp up).2

end Loading

/-! ## Events -/

namespace DpEvent

/-- The datapath of an event. -/
def dpId : DpEvent → Nat
  | enter ryuDp | leave ryuDp => ryuDp.id

/-- What the datapath is after the event. -/
def outcome : DpEvent → Option RyuDp
  | enter ryuDp => some ryuDp
  | leave _ => none

end DpEvent

/-- What a datapath is when the events have been handled. -/
def settle (dpId : Nat) (status : Option RyuDp) (events : List DpEvent) : Option RyuDp :=
  events.foldl (fun status event => if event.dpId = dpId then event.outcome else status) status

theorem settle_concat (dpId : Nat) (status : Option RyuDp) (events : List DpEvent) (event : DpEvent) :
    settle dpId status (events ++ [event]) =
      if event.dpId = dpId then event.outcome else settle dpId status events := by
  rw [settle, List.foldl_append]
  rfl

/-- Events that have been foreseen change nothing. -/
theorem settle_settle (dpId : Nat) (status : Option RyuDp) (events : List DpEvent) :
    settle dpId (settle dpId status events) events = settle dpId status events := by
  induction events using List.reverseRecOn with
  | nil => rfl
  | append_singleton events event ih =>
      rw [settle_concat, settle_concat]
      split
      · rfl
      · exact ih

/-- What is known of `dpset` is what it is when all events have been handled. -/
def Ahead (gauge : Gauge μ) (status : Nat → Option RyuDp) : Prop :=
  ∀ dpId, settle dpId (status dpId) gauge.events = gauge.dpset dpId

/-- The invariant: the watchers fit a status of which the events lead to `dpset`, where
datapaths are under their ids. -/
def Inv (gauge : Gauge μ) : Prop :=
  (∀ dpId ryuDp, gauge.dpset dpId = some ryuDp → ryuDp.id = dpId) ∧
    ∃ status, Fits gauge.watchers gauge.shared status ∧ Ahead gauge status

theorem inv_initial : Inv (Gauge.initial : Gauge μ) := by
  refine ⟨nofun, fun _ => none, ⟨nofun, ⟨.nil, List.nodup_nil, nofun⟩, nofun, fun label => ?_⟩,
    fun _ => rfl⟩
  simp [Gauge.initial]

section Handling

variable {gauge : Gauge μ} {ryuDp : RyuDp} {f : ByType μ → Shared → ByType μ × Shared}

/-- Where the datapath is not known there is nothing to change. -/
theorem withWatchers_eq :
    (gauge.withWatchers ryuDp f).watchers =
        (forEach (onKey ryuDp.id f) gauge.watchers gauge.shared).1 ∧
      (gauge.withWatchers ryuDp f).shared =
        (forEach (onKey ryuDp.id f) gauge.watchers gauge.shared).2 ∧
      (gauge.withWatchers ryuDp f).dpset = gauge.dpset ∧
      (gauge.withWatchers ryuDp f).events = gauge.events := by
  unfold Gauge.withWatchers
  split
  next => exact ⟨rfl, rfl, rfl, rfl⟩
  next unknown =>
    rw [Gauge.knows, List.contains_iff_mem] at unknown
    rw [forEach_onKey_of_absent unknown]
    exact ⟨rfl, rfl, rfl, rfl⟩

theorem handle_eq (event : DpEvent) :
    (gauge.handle event).watchers = (forEach (onKey event.dpId (match event with
        | .enter ryuDp => startWatchers ryuDp
        | .leave _ => stopWatchers)) gauge.watchers gauge.shared).1 ∧
      (gauge.handle event).shared = (forEach (onKey event.dpId (match event with
        | .enter ryuDp => startWatchers ryuDp
        | .leave _ => stopWatchers)) gauge.watchers gauge.shared).2 ∧
      (gauge.handle event).dpset = gauge.dpset ∧ (gauge.handle event).events = gauge.events := by
  cases event with
  | enter ryuDp =>
      unfold Gauge.handle
      dsimp only
      split
      · exact withWatchers_eq
      · exact withWatchers_eq
  | leave ryuDp => exact withWatchers_eq

theorem Fits.handle {status : Nat → Option RyuDp} (fits : Fits gauge.watchers gauge.shared status)
    (event : DpEvent) : Fits (gauge.handle event).watchers (gauge.handle event).shared
      (Function.update status event.dpId event.outcome) := by
  obtain ⟨watchers, shared, _⟩ := @handle_eq μ gauge event
  rw [watchers, shared]
  cases event with
  | enter ryuDp =>
      exact fits.onKey (keepsThreads_startWatchers ryuDp) (keeps_startWatchers ryuDp)
        (reports_startWatchers ryuDp) fun _ _ _ => inStatus_startWatchers
  | leave ryuDp =>
      exact fits.onKey keepsThreads_stopWatchers keeps_stopWatchers reports_stopWatchers
        fun _ _ _ => inStatus_stopWatchers

end Handling

/-- **A step keeps the invariant.** -/
theorem Inv.step {gauge next : Gauge μ} {action : Action μ} (inv : Inv gauge)
    (taken : step gauge action = some next) : Inv next := by
  obtain ⟨keyed, status, fits, ahead⟩ := inv
  cases action with
  | connect ryuDp =>
      cases taken
      refine ⟨fun dpId other connected => ?_, status, fits, fun dpId => ?_⟩
      · dsimp only at connected
        rcases eq_or_ne dpId ryuDp.id with rfl | different
        · rw [Function.update_self] at connected
          rw [Option.some.inj connected]
        · rw [Function.update_of_ne different] at connected
          exact keyed dpId other connected
      · rw [settle_concat, ahead]
        simp only [DpEvent.dpId, DpEvent.outcome, Function.update_apply, eq_comm]
  | disconnect dpId =>
      obtain ⟨ryuDp, connected, rfl⟩ := Option.map_eq_some_iff.mp taken
      refine ⟨fun other ryuDp' connected' => ?_, status, fits, fun other => ?_⟩
      · dsimp only at connected'
        rcases eq_or_ne other dpId with rfl | different
        · rw [Function.update_self] at connected'
          cases connected'
        · rw [Function.update_of_ne different] at connected'
          exact keyed other ryuDp' connected'
      · rw [settle_concat, ahead]
        simp only [DpEvent.dpId, DpEvent.outcome, Function.update_apply, keyed dpId ryuDp connected,
          eq_comm]
  | handleEvent =>
      rw [Polling.step] at taken
      split at taken
      next => cases taken
      next event rest pending =>
        cases taken
        obtain ⟨_, _, sameDpset, sameEvents⟩ := @handle_eq μ { gauge with events := rest } event
        have handled : Fits ({ gauge with events := rest } : Gauge μ).watchers
            ({ gauge with events := rest } : Gauge μ).shared status := fits
        refine ⟨by rwa [sameDpset], _, handled.handle event, fun dpId => ?_⟩
        rw [sameDpset, sameEvents]
        have later := ahead dpId
        rw [pending] at later
        simpa only [settle, List.foldl_cons, Function.update_apply, eq_comm] using later
  | reloadConfig newConfs =>
      cases taken
      unfold Gauge.loadConfig
      split
      next => exact ⟨keyed, status, fits, ahead⟩
      next new made =>
        obtain ⟨confs, _, made⟩ := Option.bind_eq_some_iff.mp made
        refine ⟨keyed, gauge.dpset, fits.loadConfig (thread_of_mapM made), fun dpId => ?_⟩
        have settled := settle_settle dpId (status dpId) gauge.events
        rwa [ahead dpId] at settled
  | message ryuDp name msg =>
      cases taken
      obtain ⟨watchers, shared, sameDpset, sameEvents⟩ :=
        @withWatchers_eq μ gauge ryuDp (forEach (onKey name (forEach (tell msg))))
      refine ⟨by rwa [Gauge.updateWatcher, sameDpset], status, ?_, fun dpId => ?_⟩
      · rw [Gauge.updateWatcher, watchers, shared]
        exact fits.tell
      · rw [Gauge.updateWatcher, sameDpset, sameEvents, ahead]

/-! ## Keys -/

/-- The types that a datapath has watchers of. -/
def watched (byType : ByType μ) : List WatcherType := byType.map Prod.fst

/-- A datapath has one entry, and in it a type has one. -/
structure Keyed (watchers : Watchers μ) : Prop where
  datapaths : (watchers.map Prod.fst).Nodup
  types : ∀ entry ∈ watchers, (watched entry.2).Nodup

section Keys

variable {watchers : Watchers μ} {shared : Shared}

theorem keyed_nil : Keyed ([] : Watchers μ) := ⟨List.nodup_nil, nofun⟩

theorem keeps_forEach_onValue {f : List (Watcher μ) → Shared → List (Watcher μ) × Shared} :
    Keeps watched (forEach (onValue f)) := by
  have one : Keeps (fun typed : WatcherType × List (Watcher μ) => [typed.1]) (onValue f) :=
    fun _ _ => rfl
  intro byType shared
  simp only [watched, List.map_eq_flatMap]
  exact one.forEach byType shared

theorem keeps_forEach_onKey {name : WatcherType}
    {f : List (Watcher μ) → Shared → List (Watcher μ) × Shared} :
    Keeps watched (forEach (onKey name f)) := by
  have one : Keeps (fun typed : WatcherType × List (Watcher μ) => [typed.1]) (onKey name f) := by
    intro typed shared
    unfold onKey
    split <;> rfl
  intro byType shared
  simp only [watched, List.map_eq_flatMap]
  exact one.forEach byType shared

/-- The entries are changed, and their keys are not. -/
theorem Keyed.forEach {f : Nat × ByType μ → Shared → (Nat × ByType μ) × Shared}
    (keyed : Keyed watchers) (keeps : Keeps (fun entry => (entry.1, watched entry.2)) f) :
    Keyed (forEach f watchers shared).1 := by
  constructor
  · have keys : Keeps (fun entry => [entry.1]) f := fun entry before =>
      congrArg (fun pair => [pair.1]) (keeps entry before)
    have same := keys.forEach watchers shared
    simp only [← List.map_eq_flatMap] at same
    exact same ▸ keyed.datapaths
  · intro entry member
    obtain ⟨old, present, before, rfl⟩ := mem_forEach member
    have same : watched (f old before).1.2 = watched old.2 := congrArg Prod.snd (keeps old before)
    exact same ▸ keyed.types old present

theorem Keyed.addWatcher {watcher : Watcher μ} (keyed : Keyed watchers) :
    Keyed (addWatcher watchers watcher) := by
  refine ⟨OrderedDict.nodup_set keyed.datapaths, fun entry member => ?_⟩
  rcases OrderedDict.mem_of_mem_set member with old | rfl
  · exact keyed.types entry old
  · refine OrderedDict.nodup_set ?_
    cases found : watchers.lookup watcher.conf.dpId with
    | none => exact List.nodup_nil
    | some byType => exact keyed.types _ (OrderedDict.mem_of_lookup found)

theorem keyed_foldl {new : List (Watcher μ)} (keyed : Keyed watchers) :
    Keyed (new.foldl addWatcher watchers) := by
  induction new generalizing watchers with
  | nil => exact keyed
  | cons watcher rest ih => exact ih keyed.addWatcher

theorem Keyed.withWatchers {gauge : Gauge μ} {ryuDp : RyuDp}
    {f : ByType μ → Shared → ByType μ × Shared} (keyed : Keyed gauge.watchers)
    (keeps : Keeps watched f) : Keyed (gauge.withWatchers ryuDp f).watchers := by
  rw [withWatchers_eq.1]
  exact keyed.forEach keeps.onKey

/-- **A step keeps the keys apart.** -/
theorem Keyed.step {gauge next : Gauge μ} {action : Action μ} (keyed : Keyed gauge.watchers)
    (taken : step gauge action = some next) : Keyed next.watchers := by
  cases action with
  | connect ryuDp =>
      cases taken
      exact keyed
  | disconnect dpId =>
      obtain ⟨_, _, rfl⟩ := Option.map_eq_some_iff.mp taken
      exact keyed
  | handleEvent =>
      rw [Polling.step] at taken
      split at taken
      next => cases taken
      next event rest _ =>
        cases taken
        have handled := @handle_eq μ { gauge with events := rest } event
        rw [handled.1]
        cases event with
        | enter ryuDp => exact keyed.forEach keeps_forEach_onValue.onKey
        | leave ryuDp => exact keyed.forEach keeps_forEach_onValue.onKey
  | reloadConfig newConfs =>
      cases taken
      unfold Gauge.loadConfig
      split
      next => exact keyed
      next new _ =>
        have loaded : Keyed (new.foldl Polling.addWatcher []) := keyed_foldl keyed_nil
        refine loaded.forEach fun entry shared => ?_
        unfold Gauge.startConnected
        split
        · exact keeps_forEach_onValue.onValue entry shared
        · rfl
  | message ryuDp name msg =>
      cases taken
      exact keyed.withWatchers keeps_forEach_onKey

end Keys

/-! ## Polling -/

/-- What the threads that run ask for, and where. -/
def Gauge.polls (gauge : Gauge μ) : List (RyuDp × Request) :=
  gauge.watchers.flatMap fun entry =>
    entry.2.flatMap fun typed => typed.2.filterMap Watcher.poll

/-- For each connected datapath and type, what the first watcher asks for, on the connection. -/
def Gauge.wanted (gauge : Gauge μ) : List (RyuDp × Request) :=
  gauge.watchers.flatMap fun entry =>
    match gauge.dpset entry.1 with
    | none => []
    | some ryuDp => entry.2.flatMap fun typed =>
        ((typed.2.head?.bind fun first => first.conf.request).map fun request =>
          (ryuDp, request)).toList

theorem request_isSome (conf : WatcherConf) : conf.request.isSome = conf.type.polls := by
  rcases conf with ⟨_, _, type, dbType⟩
  cases type <;> cases dbType <;> rfl

theorem poll_of_inactive {watcher : Watcher μ} (inactive : watcher.isActive = false) :
    watcher.poll = none := by
  rw [Watcher.poll, inactive]
  rfl

theorem Started.polls {ryuDp : RyuDp} {watchers : List (Watcher μ)} (started : Started ryuDp watchers) :
    watchers.filterMap Watcher.poll =
      ((watchers.head?.bind fun first => first.conf.request).map fun request =>
        (ryuDp, request)).toList := by
  cases watchers with
  | nil => rfl
  | cons first rest =>
      have others : rest.filterMap Watcher.poll = [] :=
        List.filterMap_eq_nil_iff.mpr fun watcher member =>
          poll_of_inactive (started.others first rest rfl watcher member)
      have active := started.first first rest rfl
      have connection := (started.listen first List.mem_cons_self).2
      rw [List.filterMap_cons, others, List.head?_cons, Option.bind_some]
      rw [← request_isSome] at active
      cases asks : first.conf.request with
      | none =>
          rw [asks] at active
          rw [poll_of_inactive active]
          rfl
      | some request =>
          rw [asks, Option.isSome_some] at active
          rw [Watcher.poll, if_pos active, connection, asks]
          rfl

theorem Fits.polls {gauge : Gauge μ} (fits : Fits gauge.watchers gauge.shared gauge.dpset) :
    gauge.polls = gauge.wanted := by
  unfold Gauge.polls Gauge.wanted
  refine List.flatMap_congr fun entry member => ?_
  have inStatus := fits.inStatus entry member
  cases connected : gauge.dpset entry.1 with
  | none =>
      rw [connected] at inStatus
      refine List.flatMap_eq_nil_iff.mpr fun typed listed => ?_
      exact List.filterMap_eq_nil_iff.mpr fun watcher present =>
        poll_of_inactive (inStatus typed listed watcher present)
  | some ryuDp =>
      rw [connected] at inStatus
      exact List.flatMap_congr fun typed listed => Started.polls (inStatus typed listed)

/-- The threads that run are those of the watchers; only the first of a list has one, and
there is one list for each datapath and type. -/
structure OneThreadEach (gauge : Gauge μ) : Prop where
  keyed : Keyed gauge.watchers
  owned : gauge.shared.alive.Perm (allThreads gauge.watchers)
  once : gauge.shared.alive.Nodup
  others : ∀ entry ∈ gauge.watchers, ∀ typed ∈ entry.2, ∀ first rest, typed.2 = first :: rest →
    ownThreads rest = []

/-- Connected datapaths are polled as they should be, and no others; their watchers
listen; and the metric says which they are. -/
structure PollsConnected (gauge : Gauge μ) : Prop where
  polls : gauge.polls = gauge.wanted
  listen : ∀ entry ∈ gauge.watchers, ∀ ryuDp, gauge.dpset entry.1 = some ryuDp →
    ∀ typed ∈ entry.2, ∀ watcher ∈ typed.2,
      watcher.running = true ∧ watcher.ryudp = some ryuDp
  reported : ∀ label, gauge.shared.dpStatus label = some true ↔
    (gauge.dpset label.1).isSome = true ∧ label ∈ allLabels gauge.watchers

theorem Inv.oneThreadEach {gauge : Gauge μ} (inv : Inv gauge) (keyed : Keyed gauge.watchers) :
    OneThreadEach gauge := by
  obtain ⟨_, status, fits, _⟩ := inv
  refine ⟨keyed, fits.owned.perm, fits.owned.perm.nodup_iff.mpr fits.owned.nodup, ?_⟩
  intro entry member typed listed first rest same
  refine List.flatMap_eq_nil_iff.mpr fun watcher present => Watcher.ownThreads_eq_nil.mpr ?_
  have inStatus := fits.inStatus entry member typed listed
  cases started : status entry.1 with
  | some ryuDp =>
      rw [started] at inStatus
      exact Started.others inStatus first rest same watcher present
  | none =>
      rw [started] at inStatus
      exact inStatus watcher (same ▸ List.mem_cons_of_mem _ present)

theorem Inv.pollsConnected {gauge : Gauge μ} (inv : Inv gauge) (handled : gauge.events = []) :
    PollsConnected gauge := by
  obtain ⟨_, status, fits, ahead⟩ := inv
  obtain rfl : status = gauge.dpset := by
    funext dpId
    have same := ahead dpId
    rwa [handled] at same
  refine ⟨fits.polls, fun entry member ryuDp connected typed listed => ?_, fits.reported⟩
  have inStatus := fits.inStatus entry member typed listed
  rw [connected] at inStatus
  exact Started.listen inStatus

/-- **Who polls.** In every run no thread is left behind, and when all events have been
handled the connected datapaths are polled. -/
theorem polls_connected (actions : List (Action μ)) {gauge : Gauge μ}
    (executed : exec step Gauge.initial actions = some gauge) :
    OneThreadEach gauge ∧ (gauge.events = [] → PollsConnected gauge) := by
  have reaches : Reaches step anyStep Gauge.initial gauge :=
    .of_exec actions (allowed_anyStep actions _) executed
  have inv : Inv gauge := reaches.invariant Inv inv_initial fun inv _ taken => inv.step taken
  have keyed : Keyed gauge.watchers := reaches.invariant (fun gauge => Keyed gauge.watchers)
    keyed_nil fun keyed _ taken => keyed.step taken
  exact ⟨inv.oneThreadEach keyed, inv.pollsConnected⟩

/-- Meter statistics of one datapath for two databases, the first of them Prometheus. -/
def meterConfs : List WatcherConf :=
  [⟨1, "sw1", .meterStats, .prometheus⟩, ⟨1, "sw1", .meterStats, .text⟩]

/-- A datapath connects, leaves and comes back. -/
def reconnect : List (Action Nat) :=
  [.reloadConfig (some meterConfs), .connect ⟨1, 1, [1, 2]⟩, .handleEvent, .disconnect 1,
    .connect ⟨1, 2, [1, 2]⟩, .handleEvent, .handleEvent]

/-- The first of two watchers polls, for port statistics, on the new connection. -/
theorem polls_connected_reconnect : ∃ gauge, exec step Gauge.initial reconnect = some gauge ∧
    gauge.polls = [(⟨1, 2, [1, 2]⟩, .portStats)] ∧ OneThreadEach gauge ∧
    (gauge.events = [] → PollsConnected gauge) :=
  ⟨_, rfl, by decide, polls_connected reconnect rfl⟩

end Faucet.Polling
