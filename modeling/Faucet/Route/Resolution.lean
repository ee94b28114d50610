import Faucet.Route.Agreement
import Faucet.Route.Requests

/-!
# Resolution backs off

The retries of an entry of the cache are never less than the requests of the history, and its next
retry comes no sooner than the backoff after the last of them. A handler keeps
this when it asks for a next hop whose entry is due, and when it hears of one.
-/

set_option autoImplicit false

namespace Faucet.Route

open Vlan OrderedDict

/-! ## Host routes -/

section Filed

variable {v : IpVersion} {t : Routes} {ipDst : IpNetwork} {ipGw other : IpAddress}

/-- The routes to a gateway are listed, its own one is in use when it is, and the gateways filed as
hosts have no other. -/
structure Filed (v : IpVersion) (t : Routes) : Prop where
  wellFormed : t.WellFormed
  listed : ∀ ipDst ipGw, t.dynRoutesByIpv v ipDst = some ipGw → ipDst ∈ t.gws v ipGw
  own : ∀ ipGw, .ofHost ipGw ∈ t.gws v ipGw → t.dynRoutesByIpv v (.ofHost ipGw) = some ipGw
  hosts : ∀ ipGw ∈ t.dynHostGwsByIpv v, ipGw.version = v ∧ t.gws v ipGw = [.ofHost ipGw]

theorem isHostFibRoute_iff_gws : t.isHostFibRoute ipGw = true ↔ t.gws ipGw.version ipGw = [.ofHost ipGw] := by
  rw [Routes.isHostFibRoute, Routes.ipDstsForIpGw_eq]
  split
  next ipDst single =>
    rw [single, List.singleton_inj, IpNetwork.eq_ofHost_iff]
    simp
  next several =>
    refine iff_of_false Bool.false_ne_true fun single => several _ single

theorem mem_hosts_updateGwTypes : other ∈ (t.updateGwTypes ipGw).dynHostGwsByIpv v ↔
    if v = ipGw.version ∧ other = ipGw then t.gws ipGw.version ipGw = [.ofHost ipGw]
    else other ∈ t.dynHostGwsByIpv v := by
  rw [← isHostFibRoute_iff_gws, Routes.updateGwTypes]
  cases isHost : t.isHostFibRoute ipGw
  · refine Routes.mem_update_erase.trans ?_
    by_cases same : v = ipGw.version ∧ other = ipGw <;> simp [same]
  · refine Routes.mem_update_insert.trans ?_
    by_cases same : v = ipGw.version ∧ other = ipGw <;> simp [same]

theorem ofHost_injective : Function.Injective IpNetwork.ofHost := by
  intro first second same
  exact congrArg IpNetwork.networkAddress same

theorem gws_addRoute (t : Routes) (ipDst : IpNetwork) (ipGw : IpAddress) :
    (t.addRoute ipDst ipGw).gws v = if v = ipGw.version then
      Function.update (t.gws v) ipGw ((t.gws ipGw.version ipGw).insert ipDst) else t.gws v := by
  rw [Routes.addRoute_eq, Routes.write, Routes.updateGwTypes_gws, Routes.setGw_setRoute_gws]
  rfl

theorem mem_hosts_addRoute : other ∈ (t.addRoute ipDst ipGw).dynHostGwsByIpv v ↔
    if v = ipGw.version ∧ other = ipGw then
      (t.addRoute ipDst ipGw).gws ipGw.version ipGw = [.ofHost ipGw]
    else other ∈ t.dynHostGwsByIpv v := by
  rw [Routes.addRoute_eq, Routes.write, Routes.updateGwTypes_gws]
  exact mem_hosts_updateGwTypes

/-- A route that does not take a gateway's own one from it keeps the files. -/
theorem Filed.addRoute (filed : Filed v t)
    (keeps : ∀ old, t.dynRoutesByIpv ipGw.version ipDst = some old → ipDst = .ofHost old → old = ipGw) :
    Filed v (t.addRoute ipDst ipGw) := by
  have wellFormed : (t.addRoute ipDst ipGw).WellFormed :=
    Routes.call_wellFormed filed.wellFormed (.addRoute ipDst ipGw) rfl
  by_cases same : v = ipGw.version
  · subst same
    have routes := Routes.addRoute_routes t ipDst ipGw ipGw.version
    have gws := gws_addRoute (v := ipGw.version) t ipDst ipGw
    rw [if_pos rfl] at routes gws
    refine ⟨wellFormed, fun dst gw routed => ?_, fun gw member => ?_, fun gw member => ?_⟩
    · rw [routes] at routed
      rw [gws]
      by_cases sameDst : dst = ipDst
      · subst sameDst
        rw [Function.update_self] at routed
        cases routed
        rw [Function.update_self]
        exact List.mem_insert_self
      · rw [Function.update_of_ne sameDst] at routed
        have before := filed.listed dst gw routed
        by_cases sameGw : gw = ipGw
        · subst sameGw
          rw [Function.update_self]
          exact List.mem_insert_of_mem before
        · rwa [Function.update_of_ne sameGw]
    · rw [routes]
      rw [gws] at member
      by_cases sameDst : IpNetwork.ofHost gw = ipDst
      · by_cases sameGw : gw = ipGw
        · rw [sameDst, Function.update_self, sameGw]
        · rw [Function.update_of_ne sameGw] at member
          have before := filed.own gw member
          rw [sameDst] at before
          exact absurd (keeps gw before sameDst.symm) sameGw
      · rw [Function.update_of_ne sameDst]
        refine filed.own gw ?_
        by_cases sameGw : gw = ipGw
        · subst sameGw
          rw [Function.update_self] at member
          exact (List.mem_insert_iff.mp member).resolve_left sameDst
        · rwa [Function.update_of_ne sameGw] at member
    · rw [mem_hosts_addRoute] at member
      split at member
      next both =>
        rw [both.2]
        exact ⟨rfl, member⟩
      next different =>
        have otherGw : gw ≠ ipGw := fun sameGw => different ⟨rfl, sameGw⟩
        rw [gws, Function.update_of_ne otherGw]
        exact filed.hosts gw member
  · have routes := Routes.addRoute_routes t ipDst ipGw v
    have gws := gws_addRoute (v := v) t ipDst ipGw
    rw [if_neg same] at routes gws
    refine ⟨wellFormed, ?_, ?_, fun gw member => ?_⟩
    · rw [routes, gws]
      exact filed.listed
    · rw [routes, gws]
      exact filed.own
    · rw [gws]
      rw [mem_hosts_addRoute, if_neg fun both => same both.1] at member
      exact filed.hosts gw member

/-- What the removal of the route to a host leaves, if there was one through a gateway. -/
structure HostRemoved (v : IpVersion) (ipGw gateway : IpAddress) (t after : Routes) : Prop where
  wellFormed : after.WellFormed
  routes : after.dynRoutesByIpv v = Function.update (t.dynRoutesByIpv v) (.ofHost ipGw) none
  gws : after.gws v = Function.update (t.gws v) gateway ((t.gws v gateway).erase (.ofHost ipGw))
  hosts : ∀ other, other ∈ after.dynHostGwsByIpv v ↔
    if other = gateway then after.gws v gateway = [.ofHost gateway] else other ∈ t.dynHostGwsByIpv v

theorem hostRemoved_delRoute (wellFormed : t.WellFormed) {gateway : IpAddress}
    (routed : t.dynRoutesByIpv ipGw.version (.ofHost ipGw) = some gateway) :
    HostRemoved ipGw.version ipGw gateway t ((t.delRoute (.ofHost ipGw)).getD t) := by
  have version : gateway.version = ipGw.version := wellFormed.gwVersion _ _ _ routed
  obtain ⟨ipDsts, erased, eq⟩ :=
    @Routes.delRoute_eq t (.ofHost ipGw) gateway wellFormed routed
  refine ⟨Routes.call_wellFormed wellFormed (.delRoute (.ofHost ipGw)) rfl, ?_, ?_, fun other => ?_⟩
  · rw [eq, Option.getD_some, Routes.write, Routes.updateGwTypes_routes,
      Routes.setGw_setRoute_routes, if_pos version.symm]
  · rw [eq, Option.getD_some, Routes.write, Routes.updateGwTypes_gws, Routes.setGw_setRoute_gws,
      if_pos version.symm, erased, version]
  · rw [eq, Option.getD_some, Routes.write, Routes.updateGwTypes_gws, mem_hosts_updateGwTypes, version]
    simp only [true_and]
    rfl

namespace HostRemoved

variable {gateway : IpAddress} {after : Routes}

theorem ne_of_mem (removed : HostRemoved v ipGw gateway t after) (filed : Filed v t)
    (routed : t.dynRoutesByIpv v (.ofHost ipGw) = some gateway) :
    .ofHost ipGw ∉ after.gws v ipGw := by
  intro member
  rw [removed.gws] at member
  by_cases same : ipGw = gateway
  · subst same
    rw [Function.update_self] at member
    exact (filed.wellFormed.nodup v ipGw).not_mem_erase member
  · rw [Function.update_of_ne same] at member
    exact same (Option.some_inj.mp ((filed.own ipGw member).symm.trans routed))

theorem filed (removed : HostRemoved v ipGw gateway t after) (filed : Filed v t)
    (version : gateway.version = v)
    (routed : t.dynRoutesByIpv v (.ofHost ipGw) = some gateway) : Filed v after := by
  refine ⟨removed.wellFormed, fun dst gw routedAfter => ?_, fun gw member => ?_, fun gw member => ?_⟩
  · rw [removed.routes] at routedAfter
    by_cases sameDst : dst = .ofHost ipGw
    · rw [sameDst, Function.update_self] at routedAfter
      cases routedAfter
    · rw [Function.update_of_ne sameDst] at routedAfter
      have before := filed.listed dst gw routedAfter
      rw [removed.gws]
      by_cases sameGw : gw = gateway
      · subst sameGw
        rw [Function.update_self]
        exact (List.mem_erase_of_ne sameDst).mpr before
      · rwa [Function.update_of_ne sameGw]
  · have different : IpNetwork.ofHost gw ≠ .ofHost ipGw := by
      intro same
      rw [ofHost_injective same] at member
      exact removed.ne_of_mem filed routed member
    rw [removed.routes, Function.update_of_ne different]
    refine filed.own gw ?_
    rw [removed.gws] at member
    by_cases sameGw : gw = gateway
    · subst sameGw
      rw [Function.update_self] at member
      exact List.mem_of_mem_erase member
    · rwa [Function.update_of_ne sameGw] at member
  · rw [removed.hosts] at member
    split at member
    next same =>
      subst same
      exact ⟨version, member⟩
    next different =>
      rw [removed.gws, Function.update_of_ne different]
      exact filed.hosts gw member

end HostRemoved

/-- The route of a host is removed: the files are kept, no route is added, a host without another
route is no longer filed, and the others are filed as before. -/
theorem Filed.delRoute (filed : Filed v t) (version : ipGw.version = v) :
    Filed v ((t.delRoute (.ofHost ipGw)).getD t) ∧
      (∀ dst gw, ((t.delRoute (.ofHost ipGw)).getD t).dynRoutesByIpv v dst = some gw →
        t.dynRoutesByIpv v dst = some gw) ∧
      (t.HostRouteOnly v ipGw → ipGw ∉ ((t.delRoute (.ofHost ipGw)).getD t).dynHostGwsByIpv v) ∧
      ∀ gw, t.HostRouteOnly v gw → gw ≠ ipGw →
        (gw ∈ ((t.delRoute (.ofHost ipGw)).getD t).dynHostGwsByIpv v ↔ gw ∈ t.dynHostGwsByIpv v) := by
  subst version
  have own : ipGw ∈ t.dynHostGwsByIpv ipGw.version →
      t.dynRoutesByIpv ipGw.version (.ofHost ipGw) = some ipGw := by
    intro host
    refine filed.own ipGw ?_
    rw [(filed.hosts ipGw host).2]
    exact List.mem_singleton_self _
  cases routed : t.dynRoutesByIpv ipGw.version (.ofHost ipGw) with
  | none =>
      have kept : (t.delRoute (.ofHost ipGw)).getD t = t := by
        have missing : t.dynRoutesByIpv (IpNetwork.ofHost ipGw).version (.ofHost ipGw) = none := routed
        rw [Routes.delRoute, missing]
        rfl
      rw [kept]
      refine ⟨filed, fun _ _ => id, fun _ host => ?_, fun _ _ _ => Iff.rfl⟩
      rw [own host] at routed
      cases routed
  | some gateway =>
      have removed := hostRemoved_delRoute filed.wellFormed routed
      refine ⟨removed.filed filed (filed.wellFormed.gwVersion _ _ _ routed) routed,
        fun dst gw after => ?_, fun _ host => ?_, fun gw only different => ?_⟩
      · rw [removed.routes] at after
        by_cases sameDst : dst = .ofHost ipGw
        · rw [sameDst, Function.update_self] at after
          cases after
        · rwa [Function.update_of_ne sameDst] at after
      · rw [removed.hosts] at host
        split at host
        next same =>
          subst same
          refine removed.ne_of_mem filed routed ?_
          rw [host]
          exact List.mem_singleton_self _
        next other =>
          exact other (Option.some_inj.mp ((own host).symm.trans routed))
      · rw [removed.hosts, if_neg]
        rintro rfl
        exact different (ofHost_injective (only _ routed)).symm

/-- A new host route leaves no other gateway with another route than before. -/
theorem hostRouteOnly_addRoute (only : t.HostRouteOnly v other) :
    (t.addRoute (.ofHost ipGw) ipGw).HostRouteOnly v other := by
  intro dst routed
  rw [Routes.addRoute_routes] at routed
  split at routed
  next =>
    by_cases sameDst : dst = .ofHost ipGw
    · rw [sameDst, Function.update_self] at routed
      cases routed
      exact sameDst
    · rw [Function.update_of_ne sameDst] at routed
      exact only dst routed
  next => exact only dst routed

theorem Filed.addHost (filed : Filed v t) : Filed v (t.addRoute (.ofHost ipGw) ipGw) :=
  filed.addRoute fun _ _ same => (ofHost_injective same).symm

theorem Filed.hostRouteOnly (filed : Filed v t) (host : ipGw ∈ t.dynHostGwsByIpv v) :
    t.HostRouteOnly v ipGw := by
  intro dst routed
  have member := filed.listed dst ipGw routed
  rw [(filed.hosts ipGw host).2] at member
  exact List.mem_singleton.mp member

end Filed

/-! ## The history and the cache -/

section History

variable {key : Vid × IpAddress} {notice : Notice} {history : List Notice}

theorem asked_of_ne (different : notice.about ≠ key) :
    asked key (notice :: history) = asked key history := if_neg different

theorem gone_of_ne (different : notice.about ≠ key) :
    gone key (notice :: history) = gone key history := if_neg different

@[simp] theorem asked_requested {vlan : Vid} {ipGw : IpAddress} {now : ℤ} {host : Bool} :
    asked (vlan, ipGw) (.requested vlan ipGw now host :: history) =
      now :: asked (vlan, ipGw) history := if_pos rfl

@[simp] theorem asked_heard {vlan : Vid} {ipGw : IpAddress} :
    asked (vlan, ipGw) (.heard vlan ipGw :: history) = [] := if_pos rfl

@[simp] theorem asked_expired {vlan : Vid} {ipGw : IpAddress} :
    asked (vlan, ipGw) (.expired vlan ipGw :: history) = [] := if_pos rfl

@[simp] theorem asked_wanted {vlan : Vid} {ipGw : IpAddress} :
    asked (vlan, ipGw) (.wanted vlan ipGw :: history) = asked (vlan, ipGw) history := if_pos rfl

@[simp] theorem gone_requested {vlan : Vid} {ipGw : IpAddress} {now : ℤ} {host : Bool} :
    gone (vlan, ipGw) (.requested vlan ipGw now host :: history) = gone (vlan, ipGw) history :=
  if_pos rfl

@[simp] theorem gone_heard {vlan : Vid} {ipGw : IpAddress} :
    gone (vlan, ipGw) (.heard vlan ipGw :: history) = false := if_pos rfl

@[simp] theorem gone_wanted {vlan : Vid} {ipGw : IpAddress} :
    gone (vlan, ipGw) (.wanted vlan ipGw :: history) = false := if_pos rfl

/-- The entry has the retries of the requests, and rests after the last one. -/
def Remembers (maxResolveBackoffTime : ℕ) (entry : Option NextHop) : List ℤ → Prop
  | [] => True
  | last :: earlier => ∃ nexthop nextRetryTime, entry = some nexthop ∧
      earlier.length < nexthop.resolveRetries ∧ nexthop.nextRetryTime = some nextRetryTime ∧
      last + (min (2 ^ (earlier.length + 1)) maxResolveBackoffTime : ℕ) ≤ nextRetryTime

variable {maxResolveBackoffTime : ℕ} {entry : Option NextHop} {nexthop : NextHop} {times : List ℤ}
  {now maxAge : ℤ}

theorem Remembers.length_le (remembers : Remembers maxResolveBackoffTime (some nexthop) times) :
    times.length ≤ nexthop.resolveRetries := by
  cases times with
  | nil => exact Nat.zero_le _
  | cons last earlier =>
      obtain ⟨_, _, same, less, _⟩ := remembers
      cases same
      exact less

/-- An entry that is due has rested. -/
theorem Remembers.rested (remembers : Remembers maxResolveBackoffTime (some nexthop) times)
    (due : nexthop.resolutionDue now maxAge = true) : Rested maxResolveBackoffTime now times := by
  cases times with
  | nil => trivial
  | cons last earlier =>
      obtain ⟨_, nextRetryTime, same, _, next, rests⟩ := remembers
      cases same
      rw [NextHop.resolutionDue, next] at due
      split at due
      next => cases due
      next =>
        have past : nextRetryTime < now := of_decide_eq_true due
        rw [Rested]
        omega

/-- An entry that has rested remembers after a retry, whether a request is sent or not. -/
theorem Remembers.nextRetry (remembers : Remembers maxResolveBackoffTime (some nexthop) times)
    (rested : Rested maxResolveBackoffTime now times) (jitter : ℕ) :
    Remembers maxResolveBackoffTime (some (nexthop.nextRetry now maxResolveBackoffTime jitter))
        times ∧
      Remembers maxResolveBackoffTime (some (nexthop.nextRetry now maxResolveBackoffTime jitter))
        (now :: times) := by
  have length := remembers.length_le
  constructor
  · cases times with
    | nil => trivial
    | cons last earlier =>
        refine ⟨_, _, rfl, Nat.lt_succ_of_le (Nat.le_of_succ_le length), rfl, ?_⟩
        exact rested.trans (Int.le_add_of_nonneg_right (Int.natCast_nonneg _))
  · refine ⟨_, _, rfl, Nat.lt_succ_of_le length, rfl, ?_⟩
    have power : 2 ^ (times.length + 1) ≤ 2 ^ (nexthop.resolveRetries + 1) :=
      Nat.pow_le_pow_right (by omega) (by omega)
    have least : min (2 ^ (times.length + 1)) maxResolveBackoffTime ≤
        min (2 ^ (nexthop.resolveRetries + 1) + jitter) maxResolveBackoffTime := by
      omega
    omega

end History

/-! ## What is kept -/

section Tracked

variable (manager : RouteManager)

/-- The history and the state of a VLAN. -/
structure VlanTracked (vlan : Vid) (state : VlanState) (history : List Notice) : Prop where
  filed : Filed manager.ipv state.routes
  remembers : ∀ ipGw, Remembers manager.maxResolveBackoffTime (state.neighCache.lookup ipGw)
    (asked (vlan, ipGw) history)
  forgotten : ∀ ipGw, gone (vlan, ipGw) history = true → state.neighCache.lookup ipGw = none ∧
    ipGw ∉ state.routes.dynHostGwsByIpv manager.ipv ∧ state.routes.HostRouteOnly manager.ipv ipGw
  queued : ∀ ipGw ∈ state.dynUnresolvedHostIpGws, ipGw.version = manager.ipv ∧
    state.routes.HostRouteOnly manager.ipv ipGw

/-- The invariant: requests back off, and the caches agree with what was seen. -/
structure Tracked (vlans : Vlans) (history : List Notice) : Prop where
  backsOff : manager.BacksOff history
  vlan : ∀ vlan, VlanTracked manager vlan (vlans vlan) history

variable {manager} {vlans : Vlans} {vlan : Vid} {state : VlanState} {history : List Notice}
  {notice : Notice} {ipGw : IpAddress} {nexthop : NextHop} {now : ℤ}

/-- A notice about another VLAN. -/
theorem VlanTracked.elsewhere (tracked : VlanTracked manager vlan state history)
    (different : notice.about.1 ≠ vlan) : VlanTracked manager vlan state (notice :: history) := by
  have other : ∀ ipGw, notice.about ≠ (vlan, ipGw) := by
    intro ipGw same
    exact different (congrArg Prod.fst same)
  refine ⟨tracked.filed, fun ipGw => ?_, fun ipGw isGone => ?_, tracked.queued⟩
  · rw [asked_of_ne (other ipGw)]
    exact tracked.remembers ipGw
  · rw [gone_of_ne (other ipGw)] at isGone
    exact tracked.forgotten ipGw isGone

theorem Tracked.update (tracked : Tracked manager vlans history)
    (changed : VlanTracked manager vlan state history) :
    Tracked manager (Function.update vlans vlan state) history := by
  refine ⟨tracked.backsOff, fun other => ?_⟩
  by_cases same : other = vlan
  · subst same
    rw [Function.update_self]
    exact changed
  · rw [Function.update_of_ne same]
    exact tracked.vlan other

theorem Tracked.noticed (tracked : Tracked manager vlans history) (due : manager.Due history notice)
    (about : notice.about.1 = vlan)
    (changed : VlanTracked manager vlan state (notice :: history)) :
    Tracked manager (Function.update vlans vlan state) (notice :: history) := by
  refine ⟨⟨due, tracked.backsOff⟩, fun other => ?_⟩
  by_cases same : other = vlan
  · subst same
    rw [Function.update_self]
    exact changed
  · rw [Function.update_of_ne same]
    exact (tracked.vlan other).elsewhere fun same' => same (same'.symm.trans about)

/-! ## One next hop -/

/-- A notice about a next hop of the VLAN. -/
theorem VlanTracked.noticed (tracked : VlanTracked manager vlan state history)
    (about : notice.about = (vlan, ipGw))
    (remembers : Remembers manager.maxResolveBackoffTime (state.neighCache.lookup ipGw)
      (asked (vlan, ipGw) (notice :: history)))
    (forgotten : gone (vlan, ipGw) (notice :: history) = true →
      state.neighCache.lookup ipGw = none ∧ ipGw ∉ state.routes.dynHostGwsByIpv manager.ipv ∧
        state.routes.HostRouteOnly manager.ipv ipGw) :
    VlanTracked manager vlan state (notice :: history) := by
  have elsewhere : ∀ other, other ≠ ipGw → notice.about ≠ (vlan, other) := by
    intro other different same
    rw [about] at same
    exact different (congrArg Prod.snd same).symm
  refine ⟨tracked.filed, fun other => ?_, fun other isGone => ?_, tracked.queued⟩
  · by_cases same : other = ipGw
    · rwa [same]
    · rw [asked_of_ne (elsewhere other same)]
      exact tracked.remembers other
  · by_cases same : other = ipGw
    · rw [same] at isGone ⊢
      exact forgotten isGone
    · rw [gone_of_ne (elsewhere other same)] at isGone
      exact tracked.forgotten other isGone

theorem VlanTracked.wanted (tracked : VlanTracked manager vlan state history) :
    VlanTracked manager vlan state (.wanted vlan ipGw :: history) := by
  refine tracked.noticed rfl ?_ ?_
  · rw [asked_wanted]
    exact tracked.remembers ipGw
  · rw [gone_wanted]
    simp

theorem VlanTracked.heard (tracked : VlanTracked manager vlan state history) :
    VlanTracked manager vlan state (.heard vlan ipGw :: history) := by
  refine tracked.noticed rfl ?_ ?_
  · rw [asked_heard]
    trivial
  · rw [gone_heard]
    simp

/-- A host that is not gone gets its route. -/
theorem VlanTracked.addHost (tracked : VlanTracked manager vlan state history)
    (present : gone (vlan, ipGw) history = false) :
    VlanTracked manager vlan { state with routes := state.routes.addRoute (.ofHost ipGw) ipGw }
      history := by
  refine ⟨tracked.filed.addHost, tracked.remembers, fun other isGone => ?_, fun other queued => ?_⟩
  · obtain ⟨uncached, notHost, only⟩ := tracked.forgotten other isGone
    refine ⟨uncached, ?_, hostRouteOnly_addRoute only⟩
    rw [mem_hosts_addRoute, if_neg]
    · exact notHost
    · rintro ⟨_, rfl⟩
      rw [present] at isGone
      cases isGone
  · exact (tracked.queued other queued).imp_right hostRouteOnly_addRoute

/-- The entry of a next hop that is not gone is replaced by one that remembers. -/
theorem VlanTracked.setEntry (tracked : VlanTracked manager vlan state history)
    (present : gone (vlan, ipGw) history = false)
    (remembers : Remembers manager.maxResolveBackoffTime (some nexthop) (asked (vlan, ipGw) history)) :
    VlanTracked manager vlan { state with neighCache := OrderedDict.set state.neighCache ipGw nexthop }
      history := by
  refine ⟨tracked.filed, fun other => ?_, fun other isGone => ?_, tracked.queued⟩
  · rw [lookup_set]
    split
    next same => rwa [same]
    next => exact tracked.remembers other
  · obtain ⟨uncached, kept⟩ := tracked.forgotten other isGone
    refine ⟨?_, kept⟩
    rw [lookup_set, if_neg]
    · exact uncached
    · rintro rfl
      rw [present] at isGone
      cases isGone

theorem VlanTracked.present (tracked : VlanTracked manager vlan state history)
    (cached : state.neighCache.lookup ipGw = some nexthop) : gone (vlan, ipGw) history = false := by
  by_contra isGone
  rw [Bool.not_eq_false] at isGone
  rw [(tracked.forgotten ipGw isGone).1] at cached
  cases cached

/-- A host without other routes expires. -/
theorem VlanTracked.expired (tracked : VlanTracked manager vlan state history)
    (version : ipGw.version = manager.ipv) (only : state.routes.HostRouteOnly manager.ipv ipGw) :
    VlanTracked manager vlan
      { state with
        routes := (state.routes.delRoute (.ofHost ipGw)).getD state.routes
        neighCache := OrderedDict.del state.neighCache ipGw } (.expired vlan ipGw :: history) := by
  obtain ⟨filed, fewer, notHost, same⟩ := tracked.filed.delRoute version
  have stillOnly : ∀ other, state.routes.HostRouteOnly manager.ipv other →
      ((state.routes.delRoute (.ofHost ipGw)).getD state.routes).HostRouteOnly manager.ipv other :=
    fun other only dst routed => only dst (fewer dst other routed)
  have about : ∀ other, other ≠ ipGw → (Notice.expired vlan ipGw).about ≠ (vlan, other) :=
    fun other different same => different (congrArg Prod.snd same).symm
  refine ⟨filed, fun other => ?_, fun other isGone => ?_,
    fun other queued => (tracked.queued other queued).imp_right (stillOnly other)⟩
  · by_cases sameGw : other = ipGw
    · rw [sameGw, asked_expired]
      trivial
    · rw [asked_of_ne (about other sameGw), lookup_del, if_neg sameGw]
      exact tracked.remembers other
  · by_cases sameGw : other = ipGw
    · rw [sameGw]
      refine ⟨?_, notHost only, stillOnly ipGw only⟩
      rw [lookup_del, if_pos rfl]
    · rw [gone_of_ne (about other sameGw)] at isGone
      obtain ⟨uncached, notHost, only⟩ := tracked.forgotten other isGone
      refine ⟨?_, ?_, stillOnly other only⟩
      · rw [lookup_del, if_neg sameGw, uncached]
      · rw [same other only sameGw]
        exact notHost

/-- A next hop that has rested is tried again, and a request may be sent. -/
theorem VlanTracked.tried (tracked : VlanTracked manager vlan state history)
    (cached : state.neighCache.lookup ipGw = some nexthop)
    (rested : Rested manager.maxResolveBackoffTime now (asked (vlan, ipGw) history)) (jitter : ℕ)
    (host : Bool) :
    VlanTracked manager vlan
        { state with
          neighCache := OrderedDict.set state.neighCache ipGw
            (nexthop.nextRetry now manager.maxResolveBackoffTime jitter) } history ∧
      VlanTracked manager vlan
        { state with
          neighCache := OrderedDict.set state.neighCache ipGw
            (nexthop.nextRetry now manager.maxResolveBackoffTime jitter) }
        (.requested vlan ipGw now host :: history) := by
  have present := tracked.present cached
  have remembers := tracked.remembers ipGw
  rw [cached] at remembers
  obtain ⟨unsent, sent⟩ := remembers.nextRetry rested jitter
  have changed := tracked.setEntry present unsent
  refine ⟨changed, changed.noticed rfl ?_ ?_⟩
  · rw [lookup_set, if_pos rfl, asked_requested]
    exact sent
  · rw [gone_requested, present]
    simp

end Tracked

end Faucet.Route
