import Faucet.Learning.Hosts

/-!
# The host cache of a VLAN and its two indices

A VLAN keeps the hosts that it has learned twice: by MAC address, and in a set for each
port. Two entries of such a set are the same when their MAC address and their port are
(`HostCacheEntry.__hash__`).

From time to time stale hosts expire. The cache is scanned for them only when a bound on the
oldest host, which the last scan has left, allows there to be some. As long as time does not
go back the bound is right, and what expires is what a full scan would find
(`coherent_and_exact`).
-/

set_option autoImplicit false

namespace Faucet.Vlan

open OpenFlow (PortNo)
open TransitionSystem
open Learning (Mac Time Port HostCacheEntry)

/-! ## The cache -/

/-- The order in which the elements of a set come. -/
structure SetOrder (α : Type) where
  run : List α → List α
  perm : ∀ elements, (run elements).Perm elements

/-- `dyn_host_cache`, `dyn_host_cache_by_port` and `dyn_oldest_host_time`. -/
structure Hosts where
  cache : List (Mac × HostCacheEntry)
  byPort : PortNo → Option (List HostCacheEntry)
  oldestHostTime : Option Time

/-- The entries have the same hash. -/
def SameHash (first second : HostCacheEntry) : Prop :=
  first.ethSrc = second.ethSrc ∧ first.port.number = second.port.number

instance (first second : HostCacheEntry) : Decidable (SameHash first second) :=
  inferInstanceAs (Decidable (_ ∧ _))

/-- `add` of a set. -/
def setAdd (set : List HostCacheEntry) (entry : HostCacheEntry) : List HostCacheEntry :=
  if set.any fun other => SameHash other entry then set else set ++ [entry]

/-- `remove` of a set; `none` is a `KeyError`. -/
def setRemove (set : List HostCacheEntry) (entry : HostCacheEntry) :
    Option (List HostCacheEntry) :=
  if set.any fun other => SameHash other entry then
    some (set.filter fun other => ¬ SameHash other entry)
  else none

namespace Hosts

variable (hosts : Hosts)

/-- The caches after `reset_caches`. -/
def empty : Hosts := ⟨[], fun _ => none, none⟩

/-- `cached_host` -/
def cachedHost (ethSrc : Mac) : Option HostCacheEntry := hosts.cache.lookup ethSrc

/-- `cached_hosts_on_port`, in no particular order. -/
def cachedHostsOnPort (port : PortNo) : List HostCacheEntry := (hosts.byPort port).getD []

/-- The sets of the ports after `remove` of an entry from that of its port. -/
def removeFromPort (entry : HostCacheEntry) : Option (PortNo → Option (List HostCacheEntry)) :=
  (hosts.byPort entry.port.number).bind fun set =>
    (setRemove set entry).map fun rest =>
      Function.update hosts.byPort entry.port.number (some rest)

/-- `add_cache_host`; `none` when it raises. -/
def addCacheHost (ethSrc : Mac) (port : Port) (cacheTime : Time) : Option Hosts :=
  let entry : HostCacheEntry := ⟨ethSrc, port, cacheTime⟩
  let removed := match hosts.cachedHost ethSrc with
    | none => some hosts.byPort
    | some existing => hosts.removeFromPort existing
  removed.map fun byPort =>
    { hosts with
      cache := OrderedDict.set hosts.cache ethSrc entry
      byPort := Function.update byPort port.number
        (some (setAdd ((byPort port.number).getD []) entry)) }

/-- `expire_cache_host`; `none` when it raises. -/
def expireCacheHost (ethSrc : Mac) : Option Hosts :=
  match hosts.cachedHost ethSrc with
  | none => some hosts
  | some entry =>
      (hosts.removeFromPort entry).map fun byPort =>
        { hosts with cache := OrderedDict.del hosts.cache ethSrc, byPort }

/-- Hosts expire one after the other. -/
def expireAll (entries : List HostCacheEntry) : Option Hosts :=
  entries.foldlM (fun hosts entry => hosts.expireCacheHost entry.ethSrc) hosts

/-- `clear_cache_hosts_on_port`; `none` when it raises. -/
def clearCacheHostsOnPort (order : SetOrder HostCacheEntry) (port : PortNo) : Option Hosts :=
  hosts.expireAll (order.run (hosts.cachedHostsOnPort port))

/-- The hosts that a scan of the whole cache finds. -/
def staleHosts (minCacheTime : Time) : List HostCacheEntry :=
  (hosts.cache.map Prod.snd).filter fun entry =>
    entry.cacheTime < minCacheTime ∧ entry.port.permanentLearn = false

/-- The expired hosts, and the caches then. -/
def expireCacheHosts (now : Time) (learnTimeout : Time) : Option (List HostCacheEntry × Hosts) :=
  let minCacheTime := now - learnTimeout
  if hosts.oldestHostTime.all (· < minCacheTime) then
    (hosts.expireAll (hosts.staleHosts minCacheTime)).map fun rest =>
      (hosts.staleHosts minCacheTime,
        { rest with
          oldestHostTime := some (((rest.cache.map (·.2.cacheTime)).min?).getD now) })
  else some ([], hosts)

/-! ## Agreement of the indices -/

/-- Both indices have the same entries, each under its own MAC address and the number of its
port. -/
structure Coherent : Prop where
  ownMac : ∀ mac entry, hosts.cachedHost mac = some entry → entry.ethSrc = mac
  mem_onPort : ∀ port entry, entry ∈ hosts.cachedHostsOnPort port ↔
    hosts.cachedHost entry.ethSrc = some entry ∧ entry.port.number = port
  keys : (hosts.cache.map Prod.fst).Nodup
  sets : ∀ port, ((hosts.cachedHostsOnPort port).map (·.ethSrc)).Nodup

variable {hosts} {next : Hosts} {mac : Mac} {port : Port} {time now : Time}
  {entry : HostCacheEntry}

theorem coherent_empty : empty.Coherent where
  ownMac _ _ found := nomatch found
  mem_onPort _ _ := ⟨nofun, nofun⟩
  keys := List.nodup_nil
  sets _ := List.nodup_nil

/-- The sets of the ports lose exactly the host that is written or expires. -/
theorem Coherent.removed (coherent : hosts.Coherent) (found : hosts.cachedHost mac = some entry) :
    ∃ byPort, hosts.removeFromPort entry = some byPort ∧
      (∀ port other, other ∈ (byPort port).getD [] ↔
        other ∈ hosts.cachedHostsOnPort port ∧ other.ethSrc ≠ mac) ∧
      ∀ port, (((byPort port).getD []).map (·.ethSrc)).Nodup := by
  have own := coherent.ownMac mac entry found
  subst own
  have listed := (coherent.mem_onPort entry.port.number entry).mpr ⟨found, rfl⟩
  obtain ⟨set, isSet, member⟩ : ∃ set, hosts.byPort entry.port.number = some set ∧ entry ∈ set := by
    rw [cachedHostsOnPort] at listed
    cases isSet : hosts.byPort entry.port.number with
    | none =>
        rw [isSet] at listed
        cases listed
    | some set =>
        rw [isSet] at listed
        exact ⟨set, rfl, listed⟩
  have present : (set.any fun other => SameHash other entry) = true :=
    List.any_eq_true.mpr ⟨entry, member, decide_eq_true ⟨rfl, rfl⟩⟩
  have onPort : hosts.cachedHostsOnPort entry.port.number = set := by
    rw [cachedHostsOnPort, isSet]
    rfl
  refine ⟨_, by rw [removeFromPort, isSet, Option.bind_some, setRemove, if_pos present,
    Option.map_some], ?_, ?_⟩
  · intro port other
    by_cases here : port = entry.port.number
    · subst here
      rw [Function.update_self, Option.getD_some, List.mem_filter, onPort]
      refine and_congr_right fun inSet => ?_
      have number := ((coherent.mem_onPort _ other).mp (onPort ▸ inSet)).2
      simp [SameHash, number]
    · rw [Function.update_of_ne here]
      refine ⟨fun inSet => ⟨inSet, fun same => here ?_⟩, And.left⟩
      obtain ⟨cached, number⟩ := (coherent.mem_onPort port other).mp inSet
      rw [same, found] at cached
      cases cached
      exact number.symm
  · intro port
    by_cases here : port = entry.port.number
    · subst here
      rw [Function.update_self, Option.getD_some]
      exact (onPort ▸ coherent.sets _).sublist (List.filter_sublist.map _)
    · rw [Function.update_of_ne here]
      exact coherent.sets port

/-- **A host is written into both indices.** -/
theorem Coherent.addCacheHost (coherent : hosts.Coherent) (mac : Mac) (port : Port) (time : Time) :
    ∃ next, hosts.addCacheHost mac port time = some next ∧ next.Coherent ∧
      next.oldestHostTime = hosts.oldestHostTime ∧
      ∀ other, next.cachedHost other =
        if other = mac then some ⟨mac, port, time⟩ else hosts.cachedHost other := by
  obtain ⟨byPort, removed, mem_byPort, sets⟩ : ∃ byPort,
      (match hosts.cachedHost mac with
        | none => some hosts.byPort
        | some existing => hosts.removeFromPort existing) = some byPort ∧
      (∀ port other, other ∈ (byPort port).getD [] ↔
        other ∈ hosts.cachedHostsOnPort port ∧ other.ethSrc ≠ mac) ∧
      ∀ port, (((byPort port).getD []).map (·.ethSrc)).Nodup := by
    cases found : hosts.cachedHost mac with
    | none =>
        refine ⟨_, rfl, fun port other => ⟨fun listed => ⟨listed, ?_⟩, And.left⟩, coherent.sets⟩
        rintro rfl
        cases found.symm.trans ((coherent.mem_onPort port other).mp listed).1
    | some existing => exact coherent.removed found
  have absent : ¬ (((byPort port.number).getD []).any fun other =>
      SameHash other ⟨mac, port, time⟩) = true := by
    rw [List.any_eq_true]
    rintro ⟨other, listed, same⟩
    exact ((mem_byPort _ other).mp listed).2 (of_decide_eq_true same).1
  have lookup : ∀ other, (OrderedDict.set hosts.cache mac ⟨mac, port, time⟩).lookup other =
      if other = mac then some ⟨mac, port, time⟩ else hosts.cachedHost other :=
    fun other => OrderedDict.lookup_set
  let next : Hosts :=
    { hosts with
      cache := OrderedDict.set hosts.cache mac ⟨mac, port, time⟩
      byPort := Function.update byPort port.number
        (some (setAdd ((byPort port.number).getD []) ⟨mac, port, time⟩)) }
  have added : hosts.addCacheHost mac port time = some next := by
    rw [Hosts.addCacheHost, removed]
    rfl
  have onPort : ∀ number, next.cachedHostsOnPort number =
      (Function.update byPort port.number
        (some (setAdd ((byPort port.number).getD []) ⟨mac, port, time⟩)) number).getD [] :=
    fun _ => rfl
  refine ⟨next, added, ?_, rfl, lookup⟩
  constructor
  case ownMac =>
    intro other entry found
    rw [cachedHost, lookup] at found
    split at found
    next same =>
      cases found
      exact same.symm
    next => exact coherent.ownMac other entry found
  case mem_onPort =>
    intro number other
    rw [cachedHost, lookup, onPort]
    by_cases here : number = port.number
    · subst here
      rw [Function.update_self, Option.getD_some, setAdd, if_neg absent, List.mem_append,
        List.mem_singleton, mem_byPort, coherent.mem_onPort]
      by_cases same : other.ethSrc = mac
      · rw [if_pos same]
        constructor
        · rintro (⟨_, different⟩ | rfl)
          · exact absurd same different
          · exact ⟨rfl, rfl⟩
        · rintro ⟨isEntry, _⟩
          exact .inr (Option.some.inj isEntry).symm
      · rw [if_neg same]
        constructor
        · rintro (⟨old, _⟩ | rfl)
          · exact old
          · exact absurd rfl same
        · exact fun old => .inl ⟨old, same⟩
    · rw [Function.update_of_ne here, mem_byPort, coherent.mem_onPort]
      by_cases same : other.ethSrc = mac
      · rw [if_pos same]
        refine ⟨fun both => absurd same both.2, ?_⟩
        rintro ⟨isEntry, rfl⟩
        cases isEntry
        exact absurd rfl here
      · rw [if_neg same]
        exact ⟨And.left, fun old => ⟨old, same⟩⟩
  case keys => exact OrderedDict.nodup_set coherent.keys
  case sets =>
    intro number
    rw [onPort]
    by_cases here : number = port.number
    · subst here
      rw [Function.update_self, Option.getD_some, setAdd, if_neg absent, List.map_append,
        List.map_singleton]
      refine List.nodup_append.mpr ⟨sets _, List.nodup_singleton _, ?_⟩
      intro other listed _ only same
      rw [List.mem_singleton.mp only] at same
      obtain ⟨entry, inSet, rfl⟩ := List.mem_map.mp listed
      exact ((mem_byPort _ entry).mp inSet).2 same
    · rw [Function.update_of_ne here]
      exact sets number

/-- **A host leaves both indices.** -/
theorem Coherent.expireCacheHost (coherent : hosts.Coherent) (mac : Mac) :
    ∃ next, hosts.expireCacheHost mac = some next ∧ next.Coherent ∧
      next.oldestHostTime = hosts.oldestHostTime ∧
      ∀ other, next.cachedHost other = if other = mac then none else hosts.cachedHost other := by
  cases found : hosts.cachedHost mac with
  | none =>
      refine ⟨hosts, by rw [Hosts.expireCacheHost, found], coherent, rfl, fun other => ?_⟩
      split
      next same => rw [same, found]
      next => rfl
  | some entry =>
      obtain ⟨byPort, removed, mem_byPort, sets⟩ := coherent.removed found
      have lookup : ∀ other, (OrderedDict.del hosts.cache mac).lookup other =
          if other = mac then none else hosts.cachedHost other := fun other => OrderedDict.lookup_del
      let next : Hosts := { hosts with cache := OrderedDict.del hosts.cache mac, byPort }
      have expired : hosts.expireCacheHost mac = some next := by
        rw [Hosts.expireCacheHost, found]
        simp only [removed, Option.map_some, next]
      refine ⟨next, expired, ?_, rfl, lookup⟩
      constructor
      case ownMac =>
        intro other entry cached
        rw [cachedHost, lookup] at cached
        split at cached
        next => cases cached
        next => exact coherent.ownMac other entry cached
      case mem_onPort =>
        intro number other
        rw [cachedHost, lookup, cachedHostsOnPort, mem_byPort, coherent.mem_onPort]
        by_cases same : other.ethSrc = mac
        · simp [same]
        · simp [same]
      case keys => exact OrderedDict.nodup_del coherent.keys
      case sets => exact sets

/-- Hosts that expire one after the other are gone in the end, and no others. -/
theorem Coherent.expireAll (coherent : hosts.Coherent) (entries : List HostCacheEntry) :
    ∃ next, hosts.expireAll entries = some next ∧ next.Coherent ∧
      next.oldestHostTime = hosts.oldestHostTime ∧
      ∀ other, next.cachedHost other =
        if other ∈ entries.map (·.ethSrc) then none else hosts.cachedHost other := by
  induction entries generalizing hosts with
  | nil => exact ⟨hosts, rfl, coherent, rfl, fun other => by simp⟩
  | cons entry rest ih =>
      obtain ⟨middle, expired, kept, same, lookup⟩ := coherent.expireCacheHost entry.ethSrc
      obtain ⟨next, all, last, oldest, lookups⟩ := ih kept
      refine ⟨next, ?_, last, oldest.trans same, fun other => ?_⟩
      · rw [Hosts.expireAll, List.foldlM_cons, expired]
        exact all
      · by_cases first : other = entry.ethSrc
        · simp [lookups, lookup, first]
        · simp [lookups, lookup, first]

/-- The hosts that stay are those that do not expire. -/
theorem fewer_of_lookup {expired : Mac → Prop} [DecidablePred expired]
    (lookup : ∀ other, next.cachedHost other =
      if expired other then none else hosts.cachedHost other) :
    ∀ mac entry, next.cachedHost mac = some entry → hosts.cachedHost mac = some entry := by
  intro mac entry found
  rw [lookup] at found
  split at found
  next => cases found
  next => exact found

theorem Coherent.mem_cache (coherent : hosts.Coherent) :
    entry ∈ hosts.cache.map Prod.snd ↔ hosts.cachedHost entry.ethSrc = some entry := by
  rw [cachedHost, ← OrderedDict.mem_iff_lookup coherent.keys, List.mem_map]
  constructor
  · rintro ⟨⟨mac, entry⟩, member, rfl⟩
    rw [coherent.ownMac mac entry ((OrderedDict.mem_iff_lookup coherent.keys).mp member)]
    exact member
  · exact fun member => ⟨_, member, rfl⟩

/-! ## Time -/

/-- No host is from the future, and none is older than the bound of the last scan. -/
structure Bounded (hosts : Hosts) (clock : Time) : Prop where
  recent : ∀ mac entry, hosts.cachedHost mac = some entry → entry.cacheTime ≤ clock
  oldest : ∀ bound, hosts.oldestHostTime = some bound → bound ≤ clock ∧
    ∀ mac entry, hosts.cachedHost mac = some entry → bound ≤ entry.cacheTime

variable {clock later : Time}

/-- Fewer hosts, under the same bound, are bounded too. -/
theorem Bounded.sub (bounded : hosts.Bounded clock) (elapsed : clock ≤ later)
    (fewer : ∀ mac entry, next.cachedHost mac = some entry → hosts.cachedHost mac = some entry)
    (same : next.oldestHostTime = hosts.oldestHostTime) : next.Bounded later where
  recent mac entry found := (bounded.recent mac entry (fewer mac entry found)).trans elapsed
  oldest bound isBound := by
    obtain ⟨past, below⟩ := bounded.oldest bound (same ▸ isBound)
    exact ⟨past.trans elapsed, fun mac entry found => below mac entry (fewer mac entry found)⟩

theorem Bounded.addCacheHost (bounded : hosts.Bounded clock) (elapsed : clock ≤ time)
    (same : next.oldestHostTime = hosts.oldestHostTime)
    (lookup : ∀ other, next.cachedHost other =
      if other = mac then some ⟨mac, port, time⟩ else hosts.cachedHost other) :
    next.Bounded time where
  recent other entry found := by
    rw [lookup] at found
    split at found
    next =>
      cases found
      exact le_refl time
    next => exact (bounded.recent other entry found).trans elapsed
  oldest bound isBound := by
    obtain ⟨past, below⟩ := bounded.oldest bound (same ▸ isBound)
    refine ⟨past.trans elapsed, fun other entry found => ?_⟩
    rw [lookup] at found
    split at found
    next =>
      cases found
      exact past.trans elapsed
    next => exact below other entry found

/-- Hosts expire when a scan finds them, and the scan is left out only when it would find
none. -/
theorem Coherent.expireCacheHosts (coherent : hosts.Coherent) (learnTimeout : Time)
    (bounded : hosts.Bounded clock) (elapsed : clock ≤ now) :
    ∃ next, hosts.expireCacheHosts now learnTimeout =
        some (hosts.staleHosts (now - learnTimeout), next) ∧
      next.Coherent ∧ next.Bounded now ∧
      ∀ mac, next.cachedHost mac =
        if mac ∈ (hosts.staleHosts (now - learnTimeout)).map (·.ethSrc) then none
        else hosts.cachedHost mac := by
  rw [Hosts.expireCacheHosts]
  split
  next scans =>
    obtain ⟨rest, expired, kept, _, lookup⟩ :=
      coherent.expireAll (hosts.staleHosts (now - learnTimeout))
    have fewer := fewer_of_lookup lookup
    rw [expired, Option.map_some]
    refine ⟨_, rfl, ⟨kept.ownMac, kept.mem_onPort, kept.keys, kept.sets⟩, ⟨?_, ?_⟩, lookup⟩
    · exact fun mac entry found => (bounded.recent mac entry (fewer mac entry found)).trans elapsed
    · rintro bound ⟨⟩
      cases least : (rest.cache.map (·.2.cacheTime)).min? with
      | none =>
          refine ⟨le_refl now, fun mac entry found => ?_⟩
          have nothing := List.map_eq_nil_iff.mp (List.min?_eq_none_iff.mp least)
          change rest.cache.lookup mac = some entry at found
          rw [nothing] at found
          cases found
      | some bound =>
          obtain ⟨attained, below⟩ := List.min?_eq_some_iff.mp least
          have listed : ∀ mac entry, rest.cachedHost mac = some entry → bound ≤ entry.cacheTime :=
            fun mac entry found => below _ (List.mem_map.mpr
              ⟨(mac, entry), (OrderedDict.mem_iff_lookup kept.keys).mpr found, rfl⟩)
          refine ⟨?_, listed⟩
          obtain ⟨⟨mac, entry⟩, member, rfl⟩ := List.mem_map.mp attained
          have found := (OrderedDict.mem_iff_lookup kept.keys).mp member
          exact (bounded.recent mac entry (fewer mac entry found)).trans elapsed
  next early =>
    obtain ⟨bound, isBound, fresh⟩ : ∃ bound, hosts.oldestHostTime = some bound ∧
        now - learnTimeout ≤ bound := by
      cases isBound : hosts.oldestHostTime with
      | none =>
          rw [isBound] at early
          exact absurd rfl early
      | some bound =>
          rw [isBound] at early
          exact ⟨bound, rfl, by simpa using early⟩
    have none_stale : hosts.staleHosts (now - learnTimeout) = [] := by
      refine List.filter_eq_nil_iff.mpr fun entry member stale => ?_
      have below := (bounded.oldest bound isBound).2 _ entry (coherent.mem_cache.mp member)
      exact absurd (of_decide_eq_true stale).1 (not_lt.mpr (fresh.trans below))
    rw [none_stale]
    exact ⟨hosts, rfl, coherent, bounded.sub elapsed (fun _ _ found => found) rfl, fun mac => by simp⟩

variable {number : PortNo} {extra : List Mac}

/-! ## Which hosts leave -/

theorem Coherent.mem_onPort_map (coherent : hosts.Coherent) :
    mac ∈ (hosts.cachedHostsOnPort number).map (·.ethSrc) ↔
      ∃ entry, hosts.cachedHost mac = some entry ∧ entry.port.number = number := by
  rw [List.mem_map]
  constructor
  · rintro ⟨entry, listed, rfl⟩
    exact ⟨entry, (coherent.mem_onPort number entry).mp listed⟩
  · rintro ⟨entry, found, onPort⟩
    obtain rfl := coherent.ownMac mac entry found
    exact ⟨entry, (coherent.mem_onPort number entry).mpr ⟨found, onPort⟩, rfl⟩

theorem Coherent.mem_staleHosts_map (coherent : hosts.Coherent) {minCacheTime : Time} :
    mac ∈ (hosts.staleHosts minCacheTime).map (·.ethSrc) ↔
      ∃ entry, hosts.cachedHost mac = some entry ∧
        entry.cacheTime < minCacheTime ∧ entry.port.permanentLearn = false := by
  simp only [staleHosts, List.mem_map, List.mem_filter, decide_eq_true_eq, coherent.mem_cache]
  constructor
  · rintro ⟨entry, ⟨found, stale⟩, rfl⟩
    exact ⟨entry, found, stale⟩
  · rintro ⟨entry, found, stale⟩
    obtain rfl := coherent.ownMac mac entry found
    exact ⟨entry, ⟨found, stale⟩, rfl⟩

/-! ## How many -/

/-- A port gains no hosts but those given. -/
theorem Coherent.length_onPort_le (before : hosts.Coherent) (after : next.Coherent)
    (gains : ∀ mac entry, next.cachedHost mac = some entry → entry.port.number = number →
      mac ∈ extra ∨ ∃ entry, hosts.cachedHost mac = some entry ∧ entry.port.number = number) :
    (next.cachedHostsOnPort number).length ≤
      extra.length + (hosts.cachedHostsOnPort number).length := by
  have sub : (next.cachedHostsOnPort number).map (·.ethSrc) ⊆
      extra ++ (hosts.cachedHostsOnPort number).map (·.ethSrc) := by
    intro mac member
    obtain ⟨entry, found, onPort⟩ := after.mem_onPort_map.mp member
    rw [List.mem_append, before.mem_onPort_map]
    exact gains mac entry found onPort
  simpa using ((after.sets number).subperm sub).length_le

/-- The VLAN gains no hosts but those given. -/
theorem Coherent.length_cache_le (after : next.Coherent)
    (gains : ∀ mac entry, next.cachedHost mac = some entry →
      mac ∈ extra ∨ ∃ entry, hosts.cachedHost mac = some entry) :
    next.cache.length ≤ extra.length + hosts.cache.length := by
  have sub : next.cache.map Prod.fst ⊆ extra ++ hosts.cache.map Prod.fst := by
    intro mac member
    obtain ⟨⟨_, entry⟩, listed, rfl⟩ := List.mem_map.mp member
    rcases gains _ entry ((OrderedDict.mem_iff_lookup after.keys).mp listed) with new | ⟨old, found⟩
    · exact List.mem_append_left _ new
    · have cached := OrderedDict.mem_of_lookup found
      exact List.mem_append_right _ (List.mem_map.mpr ⟨_, cached, rfl⟩)
  simpa using (after.keys.subperm sub).length_le

section Adding

variable (before : hosts.Coherent) (after : next.Coherent)
  (lookup : ∀ other, next.cachedHost other =
    if other = mac then some ⟨mac, port, time⟩ else hosts.cachedHost other)
include before after lookup

/-- A host that is written adds one to its port at most. -/
theorem Coherent.length_onPort_add :
    (next.cachedHostsOnPort number).length ≤ 1 + (hosts.cachedHostsOnPort number).length := by
  have single : [mac].length = 1 := rfl
  rw [← single]
  refine before.length_onPort_le after fun other entry found onPort => ?_
  by_cases same : other = mac
  · exact .inl (List.mem_singleton.mpr same)
  · rw [lookup, if_neg same] at found
    exact .inr ⟨entry, found, onPort⟩

/-- Other ports do not gain, and neither does the port that the host is on. -/
theorem Coherent.length_onPort_stay (stays : number = port.number →
      ∃ entry, hosts.cachedHost mac = some entry ∧ entry.port.number = number) :
    (next.cachedHostsOnPort number).length ≤ (hosts.cachedHostsOnPort number).length := by
  have gains : (next.cachedHostsOnPort number).length ≤
      ([] : List Mac).length + (hosts.cachedHostsOnPort number).length := by
    refine before.length_onPort_le after fun other entry found onPort => .inr ?_
    rw [lookup] at found
    split at found
    next same =>
      cases found
      exact same ▸ stays onPort.symm
    next => exact ⟨entry, found, onPort⟩
  simpa using gains

omit before in
theorem Coherent.length_cache_add : next.cache.length ≤ 1 + hosts.cache.length := by
  have single : [mac].length = 1 := rfl
  rw [← single]
  refine after.length_cache_le fun other entry found => ?_
  by_cases same : other = mac
  · exact .inl (List.mem_singleton.mpr same)
  · rw [lookup, if_neg same] at found
    exact .inr ⟨entry, found⟩

omit before in
theorem Coherent.length_cache_stay {existing : HostCacheEntry}
    (stays : hosts.cachedHost mac = some existing) : next.cache.length ≤ hosts.cache.length := by
  have gains : next.cache.length ≤ ([] : List Mac).length + hosts.cache.length := by
    refine after.length_cache_le fun other entry found => .inr ?_
    rw [lookup] at found
    split at found
    next same => exact ⟨existing, same ▸ stays⟩
    next => exact ⟨entry, found⟩
  simpa using gains

end Adding

end Hosts

/-! ## Runs -/

/-- The calls that change the caches. -/
inductive HostEvent where
  | add (ethSrc : Mac) (port : Port) (cacheTime : Time)
  | expire (ethSrc : Mac)
  | clear (order : SetOrder HostCacheEntry) (port : PortNo)
  | expireStale (now learnTimeout : Time)

/-- The cache, and the time of the last event that has one. -/
structure TimedHosts where
  hosts : Hosts
  clock : Time

/-- The events by which hosts leave; `none` when it raises, and for the other event. -/
def Hosts.forget (hosts : Hosts) : HostEvent → Option Hosts
  | .add _ _ _ => none
  | .expire ethSrc => hosts.expireCacheHost ethSrc
  | .clear order port => hosts.clearCacheHostsOnPort order port
  | .expireStale now learnTimeout => (hosts.expireCacheHosts now learnTimeout).map Prod.snd

theorem Hosts.Coherent.forget {hosts next : Hosts} {event : HostEvent} (coherent : hosts.Coherent)
    (taken : hosts.forget event = some next) :
    next.Coherent ∧
      ∀ mac entry, next.cachedHost mac = some entry → hosts.cachedHost mac = some entry := by
  cases event with
  | add => cases taken
  | expire ethSrc =>
      obtain ⟨next', taken', kept, _, lookup⟩ := coherent.expireCacheHost ethSrc
      cases taken'.symm.trans taken
      exact ⟨kept, Hosts.fewer_of_lookup lookup⟩
  | clear order port =>
      obtain ⟨next', taken', kept, _, lookup⟩ :=
        coherent.expireAll (order.run (hosts.cachedHostsOnPort port))
      cases taken'.symm.trans taken
      exact ⟨kept, Hosts.fewer_of_lookup lookup⟩
  | expireStale now learnTimeout =>
      obtain ⟨⟨_, next⟩, expired, rfl⟩ := Option.map_eq_some_iff.mp taken
      rw [Hosts.expireCacheHosts] at expired
      split at expired
      next =>
        obtain ⟨rest, all, kept, _, lookup⟩ :=
          coherent.expireAll (hosts.staleHosts (now - learnTimeout))
        rw [all] at expired
        cases expired
        exact ⟨⟨kept.ownMac, kept.mem_onPort, kept.keys, kept.sets⟩,
          Hosts.fewer_of_lookup lookup⟩
      next =>
        cases expired
        exact ⟨coherent, fun _ _ found => found⟩

namespace TimedHosts

/-- A step; `none` when it raises. -/
def step (timed : TimedHosts) : HostEvent → Option TimedHosts
  | .add ethSrc port cacheTime =>
      (timed.hosts.addCacheHost ethSrc port cacheTime).map (⟨·, cacheTime⟩)
  | .expire ethSrc => (timed.hosts.expireCacheHost ethSrc).map (⟨·, timed.clock⟩)
  | .clear order port => (timed.hosts.clearCacheHostsOnPort order port).map (⟨·, timed.clock⟩)
  | .expireStale now learnTimeout =>
      (timed.hosts.expireCacheHosts now learnTimeout).map fun expired => ⟨expired.2, now⟩

/-- Time does not go back. -/
def OnTime (timed : TimedHosts) : HostEvent → Prop
  | .add _ _ time | .expireStale time _ => timed.clock ≤ time
  | _ => True

/-- The indices are coherent, and no time lies after the clock. -/
structure Sound (timed : TimedHosts) : Prop where
  coherent : timed.hosts.Coherent
  bounded : timed.hosts.Bounded timed.clock

variable {timed : TimedHosts}

/-- **An event does not raise**, and keeps the indices and the bound sound. -/
theorem Sound.step (sound : timed.Sound) {event : HostEvent} (onTime : timed.OnTime event) :
    ∃ next, timed.step event = some next ∧ next.Sound := by
  have ofFewer : ∀ next : Hosts, next.Coherent →
      next.oldestHostTime = timed.hosts.oldestHostTime →
      (∀ mac entry, next.cachedHost mac = some entry → timed.hosts.cachedHost mac = some entry) →
      TimedHosts.Sound ⟨next, timed.clock⟩ :=
    fun _ coherent same fewer => ⟨coherent, sound.bounded.sub (le_refl _) fewer same⟩
  cases event with
  | add ethSrc port cacheTime =>
      obtain ⟨next, added, coherent, same, lookup⟩ :=
        sound.coherent.addCacheHost ethSrc port cacheTime
      refine ⟨⟨next, cacheTime⟩, by rw [TimedHosts.step, added, Option.map_some], coherent, ?_⟩
      exact sound.bounded.addCacheHost onTime same lookup
  | expire ethSrc =>
      obtain ⟨next, expired, coherent, same, lookup⟩ := sound.coherent.expireCacheHost ethSrc
      refine ⟨⟨next, timed.clock⟩, by rw [TimedHosts.step, expired, Option.map_some], ?_⟩
      exact ofFewer next coherent same (Hosts.fewer_of_lookup lookup)
  | clear order port =>
      obtain ⟨next, cleared, coherent, same, lookup⟩ :=
        sound.coherent.expireAll (order.run (timed.hosts.cachedHostsOnPort port))
      refine ⟨⟨next, timed.clock⟩, ?_, ofFewer next coherent same (Hosts.fewer_of_lookup lookup)⟩
      rw [TimedHosts.step, Hosts.clearCacheHostsOnPort, cleared, Option.map_some]
  | expireStale now learnTimeout =>
      obtain ⟨next, expired, coherent, bounded, _⟩ :=
        sound.coherent.expireCacheHosts learnTimeout sound.bounded onTime
      exact ⟨⟨next, now⟩, by rw [TimedHosts.step, expired, Option.map_some], coherent, bounded⟩

theorem sound_of_reaches {start : Time}
    (reaches : Reaches step OnTime ⟨Hosts.empty, start⟩ timed) : timed.Sound := by
  have empty : Sound ⟨Hosts.empty, start⟩ :=
    ⟨Hosts.coherent_empty, fun _ _ found => (nomatch found), fun _ isBound => (nomatch isBound)⟩
  refine reaches.invariant Sound empty fun sound onTime taken => ?_
  obtain ⟨next, taken', kept⟩ := sound.step onTime
  cases taken'.symm.trans taken
  exact kept

/-! ## What an event leaves -/

/-- The learned hosts as a map from MAC addresses, after an event. -/
def held (cached : Mac → Option HostCacheEntry) : HostEvent → Mac → Option HostCacheEntry
  | .add ethSrc port cacheTime => Function.update cached ethSrc (some ⟨ethSrc, port, cacheTime⟩)
  | .expire ethSrc => Function.update cached ethSrc none
  | .clear _ port => fun mac => (cached mac).filter fun entry => entry.port.number ≠ port
  | .expireStale now learnTimeout => fun mac =>
      (cached mac).filter fun entry =>
        ¬ (entry.cacheTime < now - learnTimeout ∧ entry.port.permanentLearn = false)

/-- Where the hosts of a list are those with a property, the others are kept. -/
theorem ite_mem_eq_filter {cached : Option HostCacheEntry} {leaving : List Mac} {mac : Mac}
    {leaves : HostCacheEntry → Prop} [DecidablePred leaves]
    (listed : mac ∈ leaving ↔ ∃ entry, cached = some entry ∧ leaves entry) :
    (if mac ∈ leaving then none else cached) = cached.filter fun entry => ¬ leaves entry := by
  cases cached with
  | none => simp
  | some entry =>
      have same : mac ∈ leaving ↔ leaves entry := by simpa using listed
      by_cases gone : leaves entry
      · simp [same, gone, Option.filter_some]
      · simp [same, gone, Option.filter_some]

/-- **Every event leaves the hosts that it should**: hosts that are written or expire, that are
on the port that is cleared, or that are stale, and no others, are not what they were. -/
theorem Sound.held (sound : timed.Sound) {event : HostEvent} (onTime : timed.OnTime event) :
    ∃ next, timed.step event = some next ∧
      ∀ mac, next.hosts.cachedHost mac = held timed.hosts.cachedHost event mac := by
  cases event with
  | add ethSrc port cacheTime =>
      obtain ⟨next, added, _, _, lookup⟩ := sound.coherent.addCacheHost ethSrc port cacheTime
      refine ⟨_, by rw [TimedHosts.step, added, Option.map_some], fun mac => ?_⟩
      rw [lookup]
      exact (Function.update_apply _ _ _ _).symm
  | expire ethSrc =>
      obtain ⟨next, expired, _, _, lookup⟩ := sound.coherent.expireCacheHost ethSrc
      refine ⟨_, by rw [TimedHosts.step, expired, Option.map_some], fun mac => ?_⟩
      rw [lookup]
      exact (Function.update_apply _ _ _ _).symm
  | clear order port =>
      obtain ⟨next, cleared, _, _, lookup⟩ :=
        sound.coherent.expireAll (order.run (timed.hosts.cachedHostsOnPort port))
      refine ⟨_, by rw [TimedHosts.step, Hosts.clearCacheHostsOnPort, cleared, Option.map_some],
        fun mac => ?_⟩
      rw [lookup]
      refine ite_mem_eq_filter ?_
      rw [((order.perm _).map _).mem_iff, sound.coherent.mem_onPort_map]
  | expireStale now learnTimeout =>
      obtain ⟨next, expired, _, _, lookup⟩ :=
        sound.coherent.expireCacheHosts learnTimeout sound.bounded onTime
      refine ⟨_, by rw [TimedHosts.step, expired, Option.map_some], fun mac => ?_⟩
      rw [lookup]
      exact ite_mem_eq_filter sound.coherent.mem_staleHosts_map

/-- **The indices agree, nothing raises, and what expires is what a full scan finds**, in
every state of a run whose time does not go back. The hosts that an event removes leave the
caches, and no others do. -/
theorem coherent_and_exact {start : Time}
    (reaches : Reaches step OnTime ⟨Hosts.empty, start⟩ timed) :
    timed.hosts.Coherent ∧
      (∀ event, timed.OnTime event → ∃ next, timed.step event = some next ∧
        next.hosts.Coherent ∧
        ∀ mac, next.hosts.cachedHost mac = held timed.hosts.cachedHost event mac) ∧
      ∀ now learnTimeout, timed.clock ≤ now →
        (timed.hosts.expireCacheHosts now learnTimeout).map Prod.fst =
          some (timed.hosts.staleHosts (now - learnTimeout)) := by
  have sound := sound_of_reaches reaches
  refine ⟨sound.coherent, fun event onTime => ?_, fun now learnTimeout elapsed => ?_⟩
  · obtain ⟨next, taken, kept⟩ := sound.step onTime
    obtain ⟨next', taken', leaves⟩ := sound.held onTime
    cases taken.symm.trans taken'
    exact ⟨next, taken, kept.coherent, leaves⟩
  · obtain ⟨next, expired, _⟩ :=
      sound.coherent.expireCacheHosts learnTimeout sound.bounded elapsed
    rw [expired, Option.map_some]

/-- A port without any feature. -/
def plainPort (number : PortNo) : Port where
  number := number
  nativeVlan := some 100
  dynDot1xNativeVlan := none
  taggedVlans := []
  mirror := []
  lacp := 0
  forwards := false
  permanentLearn := false
  loopProtect := false
  loopProtectExternal := false
  hairpin := false
  hairpinUnicast := false
  maxHosts := 0
  dynUpdateTime := some 1

/-- Two hosts are learned on a port, and one of them moves to another port. -/
def moving : List HostEvent :=
  [.add 1 (plainPort 1) 10, .add 2 (plainPort 1) 20, .add 1 (plainPort 2) 330]

/-- The host that has stayed expires, and is not in the caches then. -/
theorem coherent_and_exact_moving : ∃ timed,
    exec step ⟨Hosts.empty, 0⟩ moving = some timed ∧ timed.hosts.Coherent ∧
      (timed.hosts.expireCacheHosts 331 300).map Prod.fst = some [⟨2, plainPort 1, 20⟩] ∧
      ∃ next, timed.step (.expireStale 331 300) = some next ∧
        next.hosts.cachedHost 1 = some ⟨1, plainPort 2, 330⟩ ∧
        next.hosts.cachedHost 2 = none := by
  have runs : (exec step ⟨Hosts.empty, 0⟩ moving).isSome = true := by decide +kernel
  obtain ⟨timed, executed⟩ := Option.isSome_iff_exists.mp runs
  have allowed : Allowed step OnTime ⟨Hosts.empty, 0⟩ moving := by
    refine ⟨?_, ?_, ?_, trivial⟩
    all_goals
      simp only [OnTime]
      decide +kernel
  have stale : (exec step ⟨Hosts.empty, 0⟩ moving).map (·.hosts.staleHosts (331 - 300)) =
      some [⟨2, plainPort 1, 20⟩] := by decide +kernel
  obtain ⟨coherent, leaves, exact⟩ := coherent_and_exact (Reaches.of_exec moving allowed executed)
  have elapsed : (exec step ⟨Hosts.empty, 0⟩ moving).map (·.clock) = some 330 := by decide +kernel
  have moved : (exec step ⟨Hosts.empty, 0⟩ moving).map (·.hosts.cachedHost 1) =
      some (some ⟨1, plainPort 2, 330⟩) := by decide +kernel
  have stayed : (exec step ⟨Hosts.empty, 0⟩ moving).map (·.hosts.cachedHost 2) =
      some (some ⟨2, plainPort 1, 20⟩) := by decide +kernel
  rw [executed, Option.map_some, Option.some_inj] at stale elapsed moved stayed
  have onTime : timed.clock ≤ 331 := by rw [elapsed]; decide +kernel
  obtain ⟨next, taken, _, cached⟩ := leaves (.expireStale 331 300) onTime
  refine ⟨timed, executed, coherent, ?_, next, taken, ?_, ?_⟩
  · rw [exact 331 300 onTime, stale]
  · rw [cached, held]
    dsimp only
    rw [moved]
    decide +kernel
  · rw [cached, held]
    dsimp only
    rw [stayed]
    decide +kernel

end TimedHosts

end Faucet.Vlan
