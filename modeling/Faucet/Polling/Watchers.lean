import Faucet.Library.OrderedDict
import Faucet.Library.TransitionSystem

/-!
# The watchers of Gauge

Gauge keeps a list of watchers for each datapath and type. The first of a list polls,
in a thread of its own; all of them are told what the datapath says. They are started
when a datapath connects or the configuration is loaded, and stopped when it
disconnects or a new configuration takes their place.

Events are handled one by one, so that the network may be ahead of what has been
handled (`Action`).
-/

set_option autoImplicit false

namespace Faucet.Polling

/-! ## Configuration -/

/-- The types of watchers. -/
inductive WatcherType where
  | portState
  | portStats
  | flowTable
  | meterStats
deriving DecidableEq, Repr

/-- A poller of this type has a thread (`GaugeThreadPoller`). -/
def WatcherType.polls : WatcherType → Bool
  | portState => false
  | _ => true

/-- The types of databases. -/
inductive DbType where
  | text
  | prometheus
  | other (name : String)
deriving DecidableEq, Repr

/-- `WatcherConf` -/
structure WatcherConf where
  dpId : Nat
  dpName : String
  type : WatcherType
  dbType : DbType
deriving DecidableEq

/-- What `send_req` asks for. -/
inductive Request where
  | portStats
  | flowStats
  | meterStats
deriving DecidableEq, Repr

/-- The request of the class that `watcher_factory` picks. `GaugeMeterStatsPrometheusPoller`
is a `GaugePortStatsPoller`. -/
def WatcherConf.request (conf : WatcherConf) : Option Request :=
  match conf.type, conf.dbType with
  | .portState, _ => none
  | .portStats, _ => some .portStats
  | .flowTable, _ => some .flowStats
  | .meterStats, .prometheus => some .portStats
  | .meterStats, _ => some .meterStats

/-! ## Watchers -/

/-- A connection of a datapath, with the ports that it has told of. -/
structure RyuDp where
  id : Nat
  connection : Nat
  ports : List Nat
deriving DecidableEq

/-- What a watcher is told. -/
inductive Msg (μ : Type) where
  | portAdded (port : Nat)
  | other (msg : μ)

/-- `GaugePoller`. A poller of port states has no thread. -/
structure Watcher (μ : Type) where
  conf : WatcherConf
  ryudp : Option RyuDp
  running : Bool
  thread : Option Nat
  received : List (Msg μ)

/-- What the watchers share: the threads that run, the number of the next one, and the
metric `dp_status` under the id and the name of a datapath. -/
structure Shared where
  alive : List Nat
  nextThread : Nat
  dpStatus : Nat × String → Option Bool

namespace Watcher

variable {μ : Type}

/-- The labels under which it reports. -/
def label (watcher : Watcher μ) : Nat × String := (watcher.conf.dpId, watcher.conf.dpName)

/-- `report_dp_status` -/
def reportDpStatus (watcher : Watcher μ) (up : Bool) (shared : Shared) : Shared :=
  { shared with dpStatus := Function.update shared.dpStatus watcher.label (some up) }

/-- `is_active` -/
def isActive (watcher : Watcher μ) : Bool := watcher.conf.type.polls && watcher.thread.isSome

/-- Set the stop event of the thread, and wait until it ends. -/
def stop (watcher : Watcher μ) (shared : Shared) : Watcher μ × Shared :=
  if watcher.isActive then
    ({ watcher with running := false, thread := none },
      { shared with alive := shared.alive.filter fun thread => watcher.thread ≠ some thread })
  else ({ watcher with running := false }, shared)

/-- `start`, which stops a poller first. -/
def start (watcher : Watcher μ) (ryuDp : RyuDp) (active : Bool) (shared : Shared) :
    Watcher μ × Shared :=
  if watcher.conf.type.polls then
    let (watcher, shared) := watcher.stop shared
    let watcher := { watcher with ryudp := some ryuDp, running := true }
    if active then
      ({ watcher with thread := some shared.nextThread },
        { shared with
          alive := shared.nextThread :: shared.alive
          nextThread := shared.nextThread + 1 })
    else (watcher, shared)
  else ({ watcher with ryudp := some ryuDp, running := true }, shared)

/-- `update`, which does nothing while the watcher is not running. -/
def update (watcher : Watcher μ) (msg : Msg μ) : Watcher μ :=
  if watcher.running then { watcher with received := watcher.received ++ [msg] } else watcher

/-- The request that its thread sends, and where to. -/
def poll (watcher : Watcher μ) : Option (RyuDp × Request) :=
  if watcher.isActive then
    watcher.ryudp.bind fun ryuDp => watcher.conf.request.map fun request => (ryuDp, request)
  else none

end Watcher

/-! ## Going through lists and dictionaries -/

section Loops

variable {α κ : Type}

/-- `for x in xs: f(x)`, where `f` changes its argument and what is shared. -/
def forEach (f : α → Shared → α × Shared) : List α → Shared → List α × Shared
  | [], shared => ([], shared)
  | x :: xs, shared =>
      let (y, shared) := f x shared
      let (ys, shared) := forEach f xs shared
      (y :: ys, shared)

/-- Change the value of an entry. -/
def onValue (f : α → Shared → α × Shared) (entry : κ × α) (shared : Shared) : (κ × α) × Shared :=
  let (value, shared) := f entry.2 shared
  ((entry.1, value), shared)

/-- Change the value under one key. -/
def onKey [DecidableEq κ] (key : κ) (f : α → Shared → α × Shared) (entry : κ × α)
    (shared : Shared) : (κ × α) × Shared :=
  if entry.1 = key then onValue f entry shared else (entry, shared)

end Loops

/-! ## Starting and stopping -/

section Watchers

variable {μ : Type}

/-- The watchers of a datapath, by type. -/
abbrev ByType (μ : Type) := List (WatcherType × List (Watcher μ))

/-- The watchers of all datapaths. -/
abbrev Watchers (μ : Type) := List (Nat × ByType μ)

/-- The body of the loop of `_start_watchers`. -/
def startWatcher (ryuDp : RyuDp) (active : Bool) (watcher : Watcher μ) (shared : Shared) :
    Watcher μ × Shared :=
  let (watcher, shared) := watcher.start ryuDp active (watcher.reportDpStatus true shared)
  if watcher.conf.type = .portState then
    (ryuDp.ports.foldl (fun watcher port => watcher.update (.portAdded port)) watcher, shared)
  else (watcher, shared)

/-- The watchers of a type; the first one is active. -/
def startWatchersByName (ryuDp : RyuDp) : List (Watcher μ) → Shared → List (Watcher μ) × Shared
  | [], shared => ([], shared)
  | first :: others, shared =>
      let (first, shared) := startWatcher ryuDp true first shared
      let (others, shared) := forEach (startWatcher ryuDp false) others shared
      (first :: others, shared)

/-- `_start_watchers` -/
def startWatchers (ryuDp : RyuDp) : ByType μ → Shared → ByType μ × Shared :=
  forEach (onValue (startWatchersByName ryuDp))

/-- The body of the loop of `_stop_watchers`. -/
def stopWatcher (watcher : Watcher μ) (shared : Shared) : Watcher μ × Shared :=
  let shared := watcher.reportDpStatus false shared
  if watcher.isActive then watcher.stop shared else (watcher, shared)

/-- `_stop_watchers` -/
def stopWatchers : ByType μ → Shared → ByType μ × Shared := forEach (onValue (forEach stopWatcher))

/-- The body of the loop of `_update_watcher`. -/
def tell (msg : μ) (watcher : Watcher μ) (shared : Shared) : Watcher μ × Shared :=
  (watcher.update (.other msg), shared)

/-! ## Loading -/

/-- `None` is the `InvalidConfigError` for another database. -/
def watcherFactory (conf : WatcherConf) : Option (Watcher μ) :=
  match conf.dbType with
  | .text | .prometheus =>
      some { conf := conf, ryudp := none, running := false, thread := none, received := [] }
  | .other _ => none

/-- Append a watcher under its datapath and its type. -/
def addWatcher (watchers : Watchers μ) (watcher : Watcher μ) : Watchers μ :=
  let byType := (watchers.lookup watcher.conf.dpId).getD []
  let listed := (byType.lookup watcher.conf.type).getD []
  OrderedDict.set watchers watcher.conf.dpId
    (OrderedDict.set byType watcher.conf.type (listed ++ [watcher]))

end Watchers

/-! ## Gauge -/

/-- `EventDP`, and `EventDPReconnected`, which is handled as a connection. -/
inductive DpEvent where
  | enter (ryuDp : RyuDp)
  | leave (ryuDp : RyuDp)
deriving DecidableEq

/-- The application, the datapaths that are connected (`dpset`), and the events that
are still to be handled. -/
structure Gauge (μ : Type) where
  watchers : Watchers μ
  shared : Shared
  dpset : Nat → Option RyuDp
  events : List DpEvent
  /-- The connections that have been closed. -/
  closed : List RyuDp
  /-- The connections that have been sent the switch and the async configuration. -/
  configured : List RyuDp

namespace Gauge

variable {μ : Type}

/-- Nothing has been loaded, and no datapath is connected. -/
def initial : Gauge μ where
  watchers := []
  shared := { alive := [], nextThread := 0, dpStatus := fun _ => none }
  dpset := fun _ => none
  events := []
  closed := []
  configured := []

/-- Start the watchers of a datapath that is connected. -/
def startConnected (dpset : Nat → Option RyuDp) (entry : Nat × ByType μ) (shared : Shared) :
    (Nat × ByType μ) × Shared :=
  match dpset entry.1 with
  | some ryuDp => onValue (startWatchers ryuDp) entry shared
  | none => (entry, shared)

/-- `_load_config`; `None` is a configuration that cannot be parsed. -/
def loadConfig (gauge : Gauge μ) (newConfs : Option (List WatcherConf)) : Gauge μ :=
  match newConfs.bind fun confs => confs.mapM watcherFactory with
  | none => gauge
  | some watchers =>
      let (_, shared) := forEach (onValue stopWatchers) gauge.watchers gauge.shared
      let (started, shared) :=
        forEach (startConnected gauge.dpset) (watchers.foldl addWatcher []) shared
      { gauge with watchers := started, shared := shared }

/-- `dp_id in datapath_objs` -/
def knows (gauge : Gauge μ) (dpId : Nat) : Bool := (gauge.watchers.map Prod.fst).contains dpId

/-- `_get_datapath_obj`, and what is done with the watchers; a datapath that is not
known is closed. -/
def withWatchers (gauge : Gauge μ) (ryuDp : RyuDp) (f : ByType μ → Shared → ByType μ × Shared) :
    Gauge μ :=
  if gauge.knows ryuDp.id then
    let (watchers, shared) := forEach (onKey ryuDp.id f) gauge.watchers gauge.shared
    { gauge with watchers := watchers, shared := shared }
  else { gauge with closed := gauge.closed ++ [ryuDp] }

/-- `_datapath_connect` and `_datapath_disconnect` -/
def handle (gauge : Gauge μ) : DpEvent → Gauge μ
  | .enter ryuDp =>
      let handled := gauge.withWatchers ryuDp (startWatchers ryuDp)
      if gauge.knows ryuDp.id then { handled with configured := gauge.configured ++ [ryuDp] }
      else handled
  | .leave ryuDp => gauge.withWatchers ryuDp stopWatchers

/-- `_update_watcher` -/
def updateWatcher (gauge : Gauge μ) (ryuDp : RyuDp) (name : WatcherType) (msg : μ) : Gauge μ :=
  gauge.withWatchers ryuDp (forEach (onKey name (forEach (tell msg))))

end Gauge

/-- What happens: a datapath connects, for the first time or again, or disconnects,
which `dpset` notes at once; an event is handled; the configuration is loaded; a
message comes in. -/
inductive Action (μ : Type) where
  | connect (ryuDp : RyuDp)
  | disconnect (dpId : Nat)
  | handleEvent
  | reloadConfig (newConfs : Option (List WatcherConf))
  | message (ryuDp : RyuDp) (name : WatcherType) (msg : μ)

/-- What the application does; `none` when there is nothing to handle or to disconnect. -/
def step {μ : Type} (gauge : Gauge μ) : Action μ → Option (Gauge μ)
  | .connect ryuDp => some { gauge with
      dpset := Function.update gauge.dpset ryuDp.id (some ryuDp)
      events := gauge.events ++ [.enter ryuDp] }
  | .disconnect dpId => (gauge.dpset dpId).map fun ryuDp => { gauge with
      dpset := Function.update gauge.dpset dpId none
      events := gauge.events ++ [.leave ryuDp] }
  | .handleEvent => match gauge.events with
      | [] => none
      | event :: rest => some (({ gauge with events := rest } : Gauge μ).handle event)
  | .reloadConfig newConfs => some (gauge.loadConfig newConfs)
  | .message ryuDp name msg => some (gauge.updateWatcher ryuDp name msg)

end Faucet.Polling
