import Faucet.Vlan.HostCache

/-!
# The MAC addresses that are exported

The MAC addresses learned on each port of a VLAN are exported as metrics, under the
numbers from zero on. That is done again for a port when its statistics are stale, or
when there are more or fewer hosts than the last time. A host that is new or expires
makes the statistics of its port stale, but one that moves to another port does not. So
the metrics are wrong after an update exactly when as many hosts have come to a port as
have left it (`exact_iff_allowed`).
-/

set_option autoImplicit false

namespace Faucet.Vlan

open OpenFlow (PortNo)
open TransitionSystem
open Flooding (Vid)
open Learning (Mac Time Port HostCacheEntry)

/-! ## One port of a VLAN -/

/-- What is kept for a port of a VLAN: whether `dyn_host_cache_stats_stale` is true for
it or missing, `_port_highwater`, and the values of `learned_macs`, with zero for those
that are not set. -/
structure PortStats where
  statsStale : Bool
  portHighwater : ℕ
  learnedMacs : ℕ → ℕ

namespace PortStats

variable (stats : PortStats) (order : SetOrder HostCacheEntry) (hosts : List HostCacheEntry)

/-- No metric has been exported. -/
def empty : PortStats := ⟨true, 0, fun _ => 0⟩

/-- `_update_port`, for the hosts on the port. -/
def updatePort : PortStats :=
  if stats.portHighwater = hosts.length ∧ stats.statsStale = false then stats
  else
    let cleared := fun n =>
      if hosts.length < stats.portHighwater ∧ hosts.length ≤ n ∧ n ≤ stats.portHighwater then 0
      else stats.learnedMacs n
    { statsStale := false
      portHighwater := hosts.length
      learnedMacs := fun n => ((order.run hosts)[n]?).elim (cleared n) (·.ethSrc) }

/-- The exported values are the MAC addresses of the hosts. -/
def Exact : Prop :=
  ∃ macs : List Mac, macs.Perm (hosts.map (·.ethSrc)) ∧
    ∀ n, stats.learnedMacs n = (macs[n]?).getD 0

/-- The MAC address was exported the last time. -/
def Exported (mac : Mac) : Prop := ∃ n < stats.portHighwater, stats.learnedMacs n = mac

/-- The statistics are stale, there are more or fewer hosts than the last time, or none
of them has come since then. -/
def Fits : Prop :=
  stats.statsStale = true ∨ stats.portHighwater ≠ hosts.length ∨
    ∀ entry ∈ hosts, stats.Exported entry.ethSrc

/-- No value is left over after the exported ones. -/
def Sound : Prop := ∀ n, stats.portHighwater ≤ n → stats.learnedMacs n = 0

end PortStats

/-! ## The hosts of a VLAN -/

/-- The hosts of a VLAN, with what is kept for its ports. -/
structure VlanStats where
  hosts : Hosts
  ports : PortNo → PortStats

namespace VlanStats

variable (vlan : VlanStats)

/-- No host is cached. -/
def empty : VlanStats := ⟨Hosts.empty, fun _ => PortStats.empty⟩

/-- The ports when the statistics of one have become stale. -/
def staled (port : PortNo) : PortNo → PortStats :=
  Function.update vlan.ports port { vlan.ports port with statsStale := true }

/-- `add_cache_host`, with the flags of the ports. -/
def addCacheHost (ethSrc : Mac) (port : Port) (cacheTime : Time) : Option VlanStats :=
  (vlan.hosts.addCacheHost ethSrc port cacheTime).map fun next =>
    { hosts := next
      ports :=
        if (vlan.hosts.cachedHost ethSrc).isNone then vlan.staled port.number else vlan.ports }

/-- `expire_cache_host`, with the flag of the port. -/
def expireCacheHost (ethSrc : Mac) : Option VlanStats :=
  (vlan.hosts.expireCacheHost ethSrc).map fun next =>
    { hosts := next
      ports := match vlan.hosts.cachedHost ethSrc with
        | none => vlan.ports
        | some entry => vlan.staled entry.port.number }

/-- The hosts are expired one after the other. -/
def expireAll (entries : List HostCacheEntry) : Option VlanStats :=
  entries.foldlM (fun vlan entry => vlan.expireCacheHost entry.ethSrc) vlan

/-- `expire_cache_hosts`. -/
def expireCacheHosts (now learnTimeout : Time) : Option VlanStats :=
  let minCacheTime := now - learnTimeout
  if vlan.hosts.oldestHostTime.all (· < minCacheTime) then
    (vlan.expireAll (vlan.hosts.staleHosts minCacheTime)).map fun rest =>
      { rest with
        hosts := { rest.hosts with
          oldestHostTime := some (((rest.hosts.cache.map (·.2.cacheTime)).min?).getD now) } }
  else some vlan

/-- A call that changes the caches. -/
def step : HostEvent → Option VlanStats
  | .add ethSrc port cacheTime => vlan.addCacheHost ethSrc port cacheTime
  | .expire ethSrc => vlan.expireCacheHost ethSrc
  | .clear order port => vlan.expireAll (order.run (vlan.hosts.cachedHostsOnPort port))
  | .expireStale now learnTimeout => vlan.expireCacheHosts now learnTimeout

end VlanStats

/-! ## The datapath -/

/-- The VLANs of a datapath and the ports of each, as `get_ports` and `vlans` have them. -/
structure MetricsConf where
  vlans : List Vid
  reservedInternalVlan : Vid → Bool
  getPorts : Vid → List PortNo
  portVlans : PortNo → List Vid

/-- The statistics of each VLAN. -/
abbrev DpStats := Vid → VlanStats

/-- What changes the caches or the metrics. -/
inductive MetricsEvent where
  | host (vid : Vid) (event : HostEvent)
  | resetCaches (vid : Vid)
  /-- A call that is not rate limited, for one port or for all. -/
  | updateMetrics (order : SetOrder HostCacheEntry) (updatedPort : Option PortNo)

namespace MetricsConf

variable (conf : MetricsConf)

/-- The ports that are updated, each with its VLAN. -/
def updated : Option PortNo → List (Vid × PortNo)
  | some port =>
      ((conf.portVlans port).filter (!conf.reservedInternalVlan ·)).map fun vid => (vid, port)
  | none => (conf.vlans.filter (!conf.reservedInternalVlan ·)).flatMap fun vid =>
      (conf.getPorts vid).map fun port => (vid, port)

/-- `_update_port` in the datapath. -/
def updatePort (order : SetOrder HostCacheEntry) (stats : DpStats) (place : Vid × PortNo) :
    DpStats :=
  let vlan := stats place.1
  Function.update stats place.1
    { vlan with
      ports := Function.update vlan.ports place.2
        ((vlan.ports place.2).updatePort order (vlan.hosts.cachedHostsOnPort place.2)) }

/-- `update_metrics` -/
def updateMetrics (order : SetOrder HostCacheEntry) (updatedPort : Option PortNo)
    (stats : DpStats) : DpStats :=
  (conf.updated updatedPort).foldl (updatePort order) stats

/-- An event; `none` when it raises. -/
def step (stats : DpStats) : MetricsEvent → Option DpStats
  | .host vid event => ((stats vid).step event).map (Function.update stats vid)
  | .resetCaches vid => some (Function.update stats vid
      { hosts := Hosts.empty, ports := fun port => { (stats vid).ports port with statsStale := true } })
  | .updateMetrics order updatedPort => some (conf.updateMetrics order updatedPort stats)

/-- **After an update** the values for its ports are exact. -/
def ExactAfter : MetricsEvent → DpStats → Prop
  | .updateMetrics _ updatedPort, stats => ∀ place ∈ conf.updated updatedPort,
      ((stats place.1).ports place.2).Exact ((stats place.1).hosts.cachedHostsOnPort place.2)
  | _, _ => True

/-- No port that is updated has been left and come to by as many hosts. -/
def Fits (stats : DpStats) : MetricsEvent → Prop
  | .updateMetrics _ updatedPort => ∀ place ∈ conf.updated updatedPort,
      ((stats place.1).ports place.2).Fits ((stats place.1).hosts.cachedHostsOnPort place.2)
  | _ => True

/-- A host that is learned is not cached on another port of the VLAN. -/
def Stays (stats : DpStats) : MetricsEvent → Prop
  | .host vid (.add ethSrc port _) => ∀ entry,
      (stats vid).hosts.cachedHost ethSrc = some entry → entry.port.number = port.number
  | _ => True

end MetricsConf

/-! ## The update of a port -/

namespace PortStats

variable {stats : PortStats} {order : SetOrder HostCacheEntry} {hosts : List HostCacheEntry}

theorem sound_empty : empty.Sound := fun _ _ => rfl

theorem learnedMacs_updatePort (updates : ¬ (stats.portHighwater = hosts.length ∧
    stats.statsStale = false)) (sound : stats.Sound) (n : ℕ) :
    (stats.updatePort order hosts).learnedMacs n =
      (((order.run hosts).map (·.ethSrc))[n]?).getD 0 := by
  have length : (order.run hosts).length = hosts.length := (order.perm hosts).length_eq
  rw [updatePort, if_neg updates, List.getElem?_map]
  dsimp only
  by_cases low : n < (order.run hosts).length
  · rw [List.getElem?_eq_getElem low]
    rfl
  · rw [List.getElem?_eq_none (by omega)]
    simp only [Option.elim_none, Option.map_none, Option.getD_none]
    split
    next => rfl
    next => exact sound n (by omega)

theorem sound_updatePort (sound : stats.Sound) : (stats.updatePort order hosts).Sound := by
  by_cases skips : stats.portHighwater = hosts.length ∧ stats.statsStale = false
  · rwa [updatePort, if_pos skips]
  · intro n high
    have length : (order.run hosts).length = hosts.length := (order.perm hosts).length_eq
    rw [updatePort, if_neg skips] at high
    have above : hosts.length ≤ n := high
    rw [learnedMacs_updatePort skips sound, List.getElem?_map,
      List.getElem?_eq_none (by omega)]
    rfl

/-- A second update does nothing. -/
theorem updatePort_updatePort :
    (stats.updatePort order hosts).updatePort order hosts = stats.updatePort order hosts := by
  by_cases skips : stats.portHighwater = hosts.length ∧ stats.statsStale = false
  · have same : stats.updatePort order hosts = stats := if_pos skips
    rw [same, same]
  · rw [updatePort, if_pos]
    rw [updatePort, if_neg skips]
    exact ⟨rfl, rfl⟩

/-- **The values are exact after an update** unless hosts have taken the place of others. -/
theorem exact_updatePort_iff (sound : stats.Sound) (distinct : (hosts.map (·.ethSrc)).Nodup) :
    (stats.updatePort order hosts).Exact hosts ↔ stats.Fits hosts := by
  by_cases skips : stats.portHighwater = hosts.length ∧ stats.statsStale = false
  · rw [updatePort, if_pos skips, Fits, skips.2]
    simp only [Bool.false_eq_true, false_or, skips.1, ne_eq, not_true_eq_false]
    constructor
    · rintro ⟨macs, perm, values⟩ entry member
      have listed : entry.ethSrc ∈ macs := perm.mem_iff.mpr (List.mem_map.mpr ⟨entry, member, rfl⟩)
      obtain ⟨n, low, isMac⟩ := List.getElem_of_mem listed
      refine ⟨n, ?_, ?_⟩
      · have length : macs.length = hosts.length := perm.length_eq.trans (List.length_map _)
        omega
      · rw [values, List.getElem?_eq_getElem low, Option.getD_some, isMac]
    · intro exported
      let macs := (List.range hosts.length).map stats.learnedMacs
      have within : hosts.map (·.ethSrc) ⊆ macs := by
        intro mac member
        obtain ⟨entry, listed, rfl⟩ := List.mem_map.mp member
        obtain ⟨n, low, isMac⟩ := exported entry listed
        exact List.mem_map.mpr ⟨n, List.mem_range.mpr (skips.1 ▸ low), isMac⟩
      have short : macs.length ≤ (hosts.map (·.ethSrc)).length := by simp [macs]
      refine ⟨macs, ((distinct.subperm within).perm_of_length_le short).symm, fun n => ?_⟩
      by_cases low : n < hosts.length
      · simp [macs, low]
      · rw [List.getElem?_eq_none (by simp [macs]; omega), Option.getD_none]
        exact sound n (by omega)
  · refine iff_of_true ⟨(order.run hosts).map (·.ethSrc), (order.perm hosts).map _,
      learnedMacs_updatePort skips sound⟩ ?_
    rw [not_and_or, Bool.not_eq_false] at skips
    exact skips.elim (fun other => .inr (.inl other)) .inl

end PortStats

/-! ## The events of a VLAN -/

namespace VlanStats

variable {vlan next : VlanStats} {mac : Mac} {port : Port} {time : Time} {event : HostEvent}
  {number : PortNo}

/-- What is kept for the ports stays, but statistics may become stale. -/
def Marks (vlan next : VlanStats) : Prop :=
  ∀ number, next.ports number = vlan.ports number ∨
    next.ports number = { vlan.ports number with statsStale := true }

/-- A port whose statistics are not stale has the hosts that it had before. -/
def Notices (vlan next : VlanStats) : Prop :=
  ∀ number, (next.ports number).statsStale = false → ∀ entry,
    next.hosts.cachedHost entry.ethSrc = some entry → entry.port.number = number →
      ∃ entry', vlan.hosts.cachedHost entry.ethSrc = some entry' ∧ entry'.port.number = number

theorem marks_refl : vlan.Marks vlan := fun _ => .inl rfl

theorem marks_staled {hosts : Hosts} : vlan.Marks ⟨hosts, vlan.staled number⟩ := by
  intro other
  by_cases same : other = number
  · subst same
    exact .inr (Function.update_self _ _ _)
  · exact .inl (Function.update_of_ne same _ _)

theorem Marks.trans {middle : VlanStats} (first : vlan.Marks middle) (later : middle.Marks next) :
    vlan.Marks next := by
  intro number
  rcases later number with same | marked
  · rw [same]
    exact first number
  · rcases first number with same' | marked'
    · rw [marked, same']
      exact .inr rfl
    · rw [marked, marked']
      exact .inr rfl

theorem Marks.stale_of_stale (marks : vlan.Marks next)
    (stale : (vlan.ports number).statsStale = true) : (next.ports number).statsStale = true := by
  rcases marks number with same | marked
  · rw [same, stale]
  · rw [marked]

/-- **A host is written**, and when it is new the statistics of its port are stale. -/
theorem exists_addCacheHost (coherent : vlan.hosts.Coherent) (mac : Mac) (port : Port)
    (time : Time) : ∃ next, vlan.addCacheHost mac port time = some next ∧ next.hosts.Coherent ∧
      vlan.Marks next ∧
      ((∀ entry, vlan.hosts.cachedHost mac = some entry → entry.port.number = port.number) →
        vlan.Notices next) := by
  obtain ⟨hosts, added, coherent', _, lookup⟩ := coherent.addCacheHost mac port time
  refine ⟨_, by rw [addCacheHost, added, Option.map_some], coherent', ?_, ?_⟩
  · split
    next => exact marks_staled
    next => exact fun _ => .inl rfl
  · intro stays number notStale entry found onPort
    have found' : hosts.cachedHost entry.ethSrc = some entry := found
    rw [lookup] at found'
    split at found'
    next same =>
      cases found'
      cases known : vlan.hosts.cachedHost mac with
      | some existing => exact ⟨existing, rfl, (stays existing known).trans onPort⟩
      | none =>
          have isStale : (vlan.staled port.number number).statsStale = false := by
            simpa [known] using notStale
          rw [staled, ← onPort, Function.update_self] at isStale
          cases isStale
    next => exact ⟨entry, found', onPort⟩

theorem exists_expireCacheHost (coherent : vlan.hosts.Coherent) (mac : Mac) :
    ∃ next, vlan.expireCacheHost mac = some next ∧ next.hosts.Coherent ∧ vlan.Marks next ∧
      vlan.Notices next := by
  obtain ⟨hosts, expired, coherent', _, lookup⟩ := coherent.expireCacheHost mac
  refine ⟨_, by rw [expireCacheHost, expired, Option.map_some], coherent', ?_, ?_⟩
  · split
    next => exact fun _ => .inl rfl
    next => exact marks_staled
  · exact fun _ _ entry found onPort =>
      ⟨entry, Hosts.fewer_of_lookup lookup _ _ found, onPort⟩

theorem Notices.trans {middle : VlanStats} (coherent : middle.hosts.Coherent)
    (first : vlan.Notices middle) (marks : middle.Marks next) (later : middle.Notices next) :
    vlan.Notices next := by
  intro number notStale entry found onPort
  have notStale' : (middle.ports number).statsStale = false := by
    by_contra stale
    have isStale := marks.stale_of_stale (Bool.eq_true_of_not_eq_false stale)
    rw [isStale] at notStale
    cases notStale
  obtain ⟨entry', found', onPort'⟩ := later number notStale entry found onPort
  have own := coherent.ownMac _ entry' found'
  obtain ⟨entry'', found'', onPort''⟩ := first number notStale' entry' (own ▸ found') onPort'
  exact ⟨entry'', own ▸ found'', onPort''⟩

theorem notices_refl : vlan.Notices vlan := fun _ _ entry found onPort => ⟨entry, found, onPort⟩

theorem exists_expireAll (coherent : vlan.hosts.Coherent) (entries : List HostCacheEntry) :
    ∃ next, vlan.expireAll entries = some next ∧ next.hosts.Coherent ∧ vlan.Marks next ∧
      vlan.Notices next := by
  induction entries generalizing vlan with
  | nil => exact ⟨vlan, rfl, coherent, marks_refl, notices_refl⟩
  | cons entry rest ih =>
      obtain ⟨middle, expired, kept, marks, notices⟩ :=
        exists_expireCacheHost coherent entry.ethSrc
      obtain ⟨next, all, last, marks', notices'⟩ := ih kept
      refine ⟨next, ?_, last, marks.trans marks', notices.trans kept marks' notices'⟩
      rw [expireAll, List.foldlM_cons, expired]
      exact all

/-- **An event of a VLAN** happens. It marks ports, and misses no port that gets a host,
unless the host has moved. -/
theorem exists_step (coherent : vlan.hosts.Coherent) (event : HostEvent) :
    ∃ next, vlan.step event = some next ∧ next.hosts.Coherent ∧ vlan.Marks next ∧
      ((∀ mac port time, event = .add mac port time → ∀ entry,
        vlan.hosts.cachedHost mac = some entry → entry.port.number = port.number) →
          vlan.Notices next) := by
  cases event with
  | add mac port time =>
      obtain ⟨next, added, kept, marks, notices⟩ := exists_addCacheHost coherent mac port time
      exact ⟨next, added, kept, marks, fun stays => notices (stays mac port time rfl)⟩
  | expire mac =>
      obtain ⟨next, expired, kept, marks, notices⟩ := exists_expireCacheHost coherent mac
      exact ⟨next, expired, kept, marks, fun _ => notices⟩
  | clear order port =>
      obtain ⟨next, cleared, kept, marks, notices⟩ :=
        exists_expireAll coherent (order.run (vlan.hosts.cachedHostsOnPort port))
      exact ⟨next, cleared, kept, marks, fun _ => notices⟩
  | expireStale now learnTimeout =>
      obtain ⟨rest, all, kept, marks, notices⟩ :=
        exists_expireAll coherent (vlan.hosts.staleHosts (now - learnTimeout))
      rw [step, expireCacheHosts]
      dsimp only
      split
      next =>
        rw [all, Option.map_some]
        exact ⟨_, rfl, ⟨kept.ownMac, kept.mem_onPort, kept.keys, kept.sets⟩, marks,
          fun _ => notices⟩
      next => exact ⟨vlan, rfl, coherent, marks_refl, fun _ => notices_refl⟩

end VlanStats

/-! ## The update of a datapath -/

namespace MetricsConf

variable {conf : MetricsConf} {stats next : DpStats} {order : SetOrder HostCacheEntry}
  {places : List (Vid × PortNo)} {place other : Vid × PortNo} {updatedPort : Option PortNo}

theorem hosts_updatePort (vid : Vid) :
    (updatePort order stats place vid).hosts = (stats vid).hosts := by
  rw [updatePort]
  by_cases same : vid = place.1
  · subst same
    rw [Function.update_self]
  · rw [Function.update_of_ne same]

theorem ports_updatePort_of_ne (apart : other ≠ place) :
    (updatePort order stats place other.1).ports other.2 = (stats other.1).ports other.2 := by
  rw [updatePort]
  by_cases same : other.1 = place.1
  · have number : other.2 ≠ place.2 := fun number => apart (Prod.ext same number)
    rw [same, Function.update_self]
    exact Function.update_of_ne number _ _
  · rw [Function.update_of_ne same]

theorem ports_updatePort_self : (updatePort order stats place place.1).ports place.2 =
    ((stats place.1).ports place.2).updatePort order
      ((stats place.1).hosts.cachedHostsOnPort place.2) := by
  rw [updatePort, Function.update_self]
  exact Function.update_self _ _ _

/-- Each of the ports is updated once, and the hosts stay. -/
theorem foldl_updatePort : (∀ vid, (places.foldl (updatePort order) stats vid).hosts =
      (stats vid).hosts) ∧
    ∀ place, (places.foldl (updatePort order) stats place.1).ports place.2 =
      if place ∈ places then ((stats place.1).ports place.2).updatePort order
        ((stats place.1).hosts.cachedHostsOnPort place.2)
      else (stats place.1).ports place.2 := by
  induction places generalizing stats with
  | nil => exact ⟨fun _ => rfl, fun place => by simp⟩
  | cons first rest ih =>
      obtain ⟨hosts, ports⟩ := @ih (updatePort order stats first)
      refine ⟨fun vid => (hosts vid).trans (hosts_updatePort vid), fun place => ?_⟩
      rw [List.foldl_cons, ports, hosts_updatePort]
      by_cases same : place = first
      · subst same
        rw [ports_updatePort_self, PortStats.updatePort_updatePort]
        simp
      · rw [ports_updatePort_of_ne same]
        simp [same]

theorem hosts_updateMetrics (vid : Vid) :
    (conf.updateMetrics order updatedPort stats vid).hosts = (stats vid).hosts :=
  foldl_updatePort.1 vid

theorem ports_updateMetrics (vid : Vid) (port : PortNo) :
    (conf.updateMetrics order updatedPort stats vid).ports port =
      if (vid, port) ∈ conf.updated updatedPort then ((stats vid).ports port).updatePort order
        ((stats vid).hosts.cachedHostsOnPort port)
      else (stats vid).ports port :=
  foldl_updatePort.2 (vid, port)

/-! ## The invariant of a run -/

/-- The indices of the hosts agree, and no value is left over after the exported ones. -/
structure Sound (stats : DpStats) : Prop where
  coherent : ∀ vid, (stats vid).hosts.Coherent
  sound : ∀ vid port, ((stats vid).ports port).Sound

theorem sound_start : Sound fun _ => VlanStats.empty :=
  ⟨fun _ => Hosts.coherent_empty, fun _ _ => PortStats.sound_empty⟩

theorem sound_of_marks {vlan next : VlanStats} (marks : vlan.Marks next) {port : PortNo}
    (sound : (vlan.ports port).Sound) : (next.ports port).Sound := by
  rcases marks port with same | marked
  · rwa [same]
  · rw [marked]
    exact sound

/-- **Every event happens**, and keeps the invariant. -/
theorem Sound.exists_step (sound : Sound stats) (conf : MetricsConf) (event : MetricsEvent) :
    ∃ next, conf.step stats event = some next ∧ Sound next := by
  cases event with
  | host vid event =>
      obtain ⟨vlan, taken, coherent, marks, _⟩ := VlanStats.exists_step (sound.coherent vid) event
      refine ⟨_, by rw [step, taken, Option.map_some], fun vid' => ?_, fun vid' port => ?_⟩
      · by_cases same : vid' = vid
        · subst same
          rwa [Function.update_self]
        · rw [Function.update_of_ne same]
          exact sound.coherent vid'
      · by_cases same : vid' = vid
        · subst same
          rw [Function.update_self]
          exact sound_of_marks marks (sound.sound vid' port)
        · rw [Function.update_of_ne same]
          exact sound.sound vid' port
  | resetCaches vid =>
      refine ⟨_, rfl, fun vid' => ?_, fun vid' port => ?_⟩
      · by_cases same : vid' = vid
        · subst same
          rw [Function.update_self]
          exact Hosts.coherent_empty
        · rw [Function.update_of_ne same]
          exact sound.coherent vid'
      · by_cases same : vid' = vid
        · subst same
          rw [Function.update_self]
          exact sound.sound vid' port
        · rw [Function.update_of_ne same]
          exact sound.sound vid' port
  | updateMetrics order updatedPort =>
      refine ⟨_, rfl, fun vid => ?_, fun vid port => ?_⟩
      · rw [hosts_updateMetrics]
        exact sound.coherent vid
      · rw [ports_updateMetrics]
        split
        next => exact PortStats.sound_updatePort (sound.sound vid port)
        next => exact sound.sound vid port

/-- What is exact after an event is so when the event fits. -/
theorem Sound.exactAfter_iff (sound : Sound stats) {event : MetricsEvent}
    (taken : conf.step stats event = some next) : conf.ExactAfter event next ↔ conf.Fits stats event := by
  cases event with
  | host => rfl
  | resetCaches => rfl
  | updateMetrics order updatedPort =>
      cases taken
      refine forall₂_congr fun place member => ?_
      rw [ports_updateMetrics, if_pos member, hosts_updateMetrics]
      exact PortStats.exact_updatePort_iff (sound.sound _ _) ((sound.coherent _).sets _)

/-- **The exported MAC addresses are exact** after every update of a run, exactly when no
update of it finds a port that has been left and come to by as many hosts. -/
theorem exact_iff_allowed (conf : MetricsConf) (events : List MetricsEvent) :
    (∀ done event finish, done ++ [event] <+: events →
        exec conf.step (fun _ => VlanStats.empty) (done ++ [event]) = some finish →
          conf.ExactAfter event finish) ↔
      Allowed conf.step conf.Fits (fun _ => VlanStats.empty) events := by
  have enabled : ∀ {stats : DpStats} event, Sound stats →
      ∃ next, conf.step stats event = some next ∧ Sound next :=
    fun event sound => sound.exists_step conf event
  have exact_ : ∀ {stats next : DpStats} {event}, Sound stats →
      conf.step stats event = some next → (conf.ExactAfter event next ↔ conf.Fits stats event) :=
    fun sound taken => sound.exactAfter_iff taken
  exact forall_after_iff_allowed Sound enabled exact_ events sound_start

/-! ## Runs in which hosts stay -/

/-- The hosts on a port have been exported, unless its statistics are stale. -/
def Known (stats : DpStats) : Prop :=
  ∀ vid port, ((stats vid).ports port).statsStale = true ∨
    ∀ entry ∈ (stats vid).hosts.cachedHostsOnPort port,
      ((stats vid).ports port).Exported entry.ethSrc

theorem Known.fits (known : Known stats) (event : MetricsEvent) : conf.Fits stats event := by
  cases event with
  | updateMetrics =>
      intro place _
      exact (known place.1 place.2).imp_right .inr
  | _ => trivial

/-- An event that misses no port that gets a host. -/
theorem known_of_notices {vlan next : VlanStats} {port : PortNo} (coherent : vlan.hosts.Coherent)
    (coherent' : next.hosts.Coherent) (marks : vlan.Marks next) (notices : vlan.Notices next)
    (known : (vlan.ports port).statsStale = true ∨
      ∀ entry ∈ vlan.hosts.cachedHostsOnPort port, (vlan.ports port).Exported entry.ethSrc) :
    (next.ports port).statsStale = true ∨
      ∀ entry ∈ next.hosts.cachedHostsOnPort port, (next.ports port).Exported entry.ethSrc := by
  rcases marks port with same | marked
  · cases stale : (vlan.ports port).statsStale with
    | true => exact .inl (same ▸ stale)
    | false =>
        refine .inr fun entry listed => ?_
        obtain ⟨found, onPort⟩ := (coherent'.mem_onPort port entry).mp listed
        have notStale : (next.ports port).statsStale = false := same ▸ stale
        obtain ⟨entry', found', onPort'⟩ := notices port notStale entry found onPort
        have own := coherent.ownMac _ entry' found'
        have listed' : entry' ∈ vlan.hosts.cachedHostsOnPort port :=
          (coherent.mem_onPort port entry').mpr ⟨own.symm ▸ found', onPort'⟩
        have exported := known.resolve_left (by rw [stale]; exact Bool.false_ne_true) entry' listed'
        rwa [own, ← same] at exported
  · rw [marked]
    exact .inl rfl

theorem known_updatePort {stats : PortStats} {hosts : List HostCacheEntry} (sound : stats.Sound)
    (known : stats.statsStale = true ∨ ∀ entry ∈ hosts, stats.Exported entry.ethSrc) :
    ∀ entry ∈ hosts, (stats.updatePort order hosts).Exported entry.ethSrc := by
  intro entry member
  by_cases skips : stats.portHighwater = hosts.length ∧ stats.statsStale = false
  · rw [PortStats.updatePort, if_pos skips]
    exact known.resolve_left (by rw [skips.2]; exact Bool.false_ne_true) entry member
  · have listed : entry.ethSrc ∈ (order.run hosts).map (·.ethSrc) :=
      List.mem_map.mpr ⟨entry, (order.perm hosts).mem_iff.mpr member, rfl⟩
    obtain ⟨n, low, isMac⟩ := List.getElem_of_mem listed
    have length : ((order.run hosts).map (·.ethSrc)).length = hosts.length :=
      (List.length_map _).trans (order.perm hosts).length_eq
    refine ⟨n, ?_, ?_⟩
    · rw [PortStats.updatePort, if_neg skips]
      exact length ▸ low
    · rw [PortStats.learnedMacs_updatePort skips sound, List.getElem?_eq_getElem low,
        Option.getD_some, isMac]

/-- **While hosts stay** what is not stale is known. -/
theorem Known.step (known : Known stats) (sound : Sound stats) {event : MetricsEvent}
    (stays : Stays stats event) (taken : conf.step stats event = some next) : Known next := by
  cases event with
  | host vid event =>
      obtain ⟨vlan, taken', rfl⟩ := Option.map_eq_some_iff.mp taken
      obtain ⟨vlan', taken'', coherent, marks, notices⟩ :=
        VlanStats.exists_step (sound.coherent vid) event
      cases taken'.symm.trans taken''
      intro vid' port
      by_cases same : vid' = vid
      · subst same
        rw [Function.update_self]
        refine known_of_notices (sound.coherent vid') coherent marks (notices ?_) (known vid' port)
        rintro mac port time rfl
        exact stays
      · rw [Function.update_of_ne same]
        exact known vid' port
  | resetCaches vid =>
      cases taken
      intro vid' port
      by_cases same : vid' = vid
      · subst same
        rw [Function.update_self]
        exact .inl rfl
      · rw [Function.update_of_ne same]
        exact known vid' port
  | updateMetrics order updatedPort =>
      cases taken
      intro vid port
      rw [ports_updateMetrics, hosts_updateMetrics]
      split
      next => exact .inr (known_updatePort (sound.sound vid port) (known vid port))
      next => exact known vid port

/-- **While hosts stay on their ports**, every update of a run fits. -/
theorem allowed_of_stays {events : List MetricsEvent} (known : Known stats) (sound : Sound stats)
    (stays : Allowed conf.step Stays stats events) : Allowed conf.step conf.Fits stats events := by
  induction events generalizing stats with
  | nil => trivial
  | cons event rest ih =>
      obtain ⟨next, taken, later⟩ := sound.exists_step conf event
      rw [Allowed, taken] at stays ⊢
      exact ⟨known.fits event, ih (known.step sound stays.1 taken) later stays.2⟩

/-! ## Two hosts that change places -/

/-- The ports 1 and 2 in VLAN 100. -/
def twoPorts : MetricsConf where
  vlans := [100]
  reservedInternalVlan := fun _ => false
  getPorts := fun _ => [1, 2]
  portVlans := fun _ => [100]

/-- Elements come as they are listed. -/
def listedOrder : SetOrder HostCacheEntry := ⟨id, fun _ => .refl _⟩

/-- Two hosts are learned and exported, and then each is learned on the other's port. -/
def swapping : List MetricsEvent :=
  [.host 100 (.add 1 (TimedHosts.plainPort 1) 0), .host 100 (.add 2 (TimedHosts.plainPort 2) 0),
    .updateMetrics listedOrder none,
    .host 100 (.add 1 (TimedHosts.plainPort 2) 1), .host 100 (.add 2 (TimedHosts.plainPort 1) 1)]

/-- The values are as they were before. -/
theorem not_exact_swapping : ∃ finish, exec twoPorts.step (fun _ => VlanStats.empty)
      (swapping ++ [.updateMetrics listedOrder none]) = some finish ∧
    ¬ twoPorts.ExactAfter (.updateMetrics listedOrder none) finish := by
  have runs : (exec twoPorts.step (fun _ => VlanStats.empty)
      (swapping ++ [.updateMetrics listedOrder none])).isSome = true := by decide +kernel
  have value : (exec twoPorts.step (fun _ => VlanStats.empty)
      (swapping ++ [.updateMetrics listedOrder none])).map
        (fun stats => ((stats 100).ports 1).learnedMacs 0) = some 1 := by decide +kernel
  have macs : (exec twoPorts.step (fun _ => VlanStats.empty)
      (swapping ++ [.updateMetrics listedOrder none])).map
        (fun stats => ((stats 100).hosts.cachedHostsOnPort 1).map (·.ethSrc)) = some [2] := by
    decide +kernel
  obtain ⟨finish, executed⟩ := Option.isSome_iff_exists.mp runs
  rw [executed, Option.map_some, Option.some_inj] at value macs
  refine ⟨finish, executed, fun exact_ => ?_⟩
  obtain ⟨list, perm, values⟩ := exact_ (100, 1) (by decide)
  rw [macs, List.perm_singleton] at perm
  have first := values 0
  rw [value, perm] at first
  cases first

end MetricsConf

end Faucet.Vlan
