import Faucet.Route.Resolution

/-!
# Runs that back off

Each handler keeps what is tracked, with its notices. A packet that has an address resolved
replaces the entry of the cache by one without retries, and `resolve_gateways` asks for
a gateway that is filed without a route as for any other. A run in which no packet does this
to a next hop that has been tried, and no cycle comes to such a gateway, is `Orderly`.
-/

set_option autoImplicit false

namespace Faucet.Route

open Vlan OrderedDict TransitionSystem

variable {manager : RouteManager} {vlans : Vlans} {vlan : Vid} {history : List Notice}
  {ipGw : IpAddress} {nexthop : NextHop} {now : ℤ} {pkt : Packet}

/-! ## Learning -/

theorem Tracked.addHostFibRoute (tracked : Tracked manager vlans history) (blackhole : Bool) :
    Tracked manager (manager.addHostFibRoute vlans vlan ipGw blackhole).1
      ((manager.addHostNotices vlan ipGw).reverse ++ history) := by
  rw [RouteManager.addHostFibRoute, RouteManager.addHostNotices, RouteManager.addRoute]
  cases manager.routerVlanForIpGw vlan ipGw with
  | none => exact tracked
  | some target =>
      have wanted : VlanTracked manager target (vlans target) (.wanted target ipGw :: history) :=
        (tracked.vlan target).wanted
      dsimp only
      split
      · have due : manager.Due history (.wanted target ipGw) := trivial
        have kept : Tracked manager (Function.update vlans target (vlans target)) _ :=
          tracked.noticed due rfl wanted
        rwa [Function.update_eq_self] at kept
      · refine tracked.noticed trivial rfl (wanted.addHost ?_)
        rw [gone_wanted]

theorem Tracked.updateNexthop (tracked : Tracked manager vlans history) {port : ℕ} {ethSrc : Mac} :
    Tracked manager (manager.updateNexthop vlans now vlan port ethSrc ipGw).1
      (.heard vlan ipGw :: history) := by
  refine tracked.noticed trivial rfl ((tracked.vlan vlan).heard.setEntry ?_ ?_)
  · rw [gone_heard]
  · rw [asked_heard]
    trivial

theorem Tracked.learnNexthop (tracked : Tracked manager vlans history) :
    Tracked manager (manager.learnNexthop vlans pkt now).1
      ((manager.learnNotices pkt).reverse ++ history) := by
  rw [RouteManager.learnNotices, List.reverse_append, List.append_assoc]
  exact (tracked.addHostFibRoute false).updateNexthop

theorem Tracked.addHostFibRouteFromPkt (tracked : Tracked manager vlans history) :
    Tracked manager (manager.addHostFibRouteFromPkt vlans pkt now).1
      ((if manager.senderIsNeighbor vlans pkt && pkt.hasIp then manager.learnNotices pkt
        else []).reverse ++ history) := by
  rw [RouteManager.addHostFibRouteFromPkt]
  split
  · exact tracked.learnNexthop
  · exact tracked

/-! ## Resolving and expiring -/

theorem Tracked.resolveGatewayFlows (tracked : Tracked manager vlans history)
    (cached : (vlans vlan).neighCache.lookup ipGw = some nexthop)
    (rested : Rested manager.maxResolveBackoffTime now (asked (vlan, ipGw) history))
    (limited : ipGw ∈ (vlans vlan).routes.dynHostGwsByIpv manager.ipv →
      (asked (vlan, ipGw) history).length < manager.maxHostFibRetryCount)
    (jitter : IpAddress → ℕ) (sends : IpAddress → Bool) :
    Tracked manager (manager.resolveGatewayFlows vlans ipGw nexthop vlan now jitter sends).1
      ((manager.resolveNotices vlans vlan now sends ipGw).reverse ++ history) := by
  obtain ⟨unsent, sent⟩ := (tracked.vlan vlan).tried cached rested (jitter ipGw)
    (ipGw ∈ (vlans vlan).routes.dynHostGwsByIpv manager.ipv)
  rw [RouteManager.resolveGatewayFlows, RouteManager.resolveNotices]
  cases found : (manager.vlan vlan).vipMap ipGw with
  | none => exact tracked
  | some faucetVip =>
      cases isSent : sends ipGw with
      | false => exact tracked.update unsent
      | true =>
          refine tracked.noticed ⟨rested, fun host => limited (of_decide_eq_true host), ?_⟩ rfl sent
          exact (tracked.vlan vlan).present cached

theorem expireGatewayFlows_eq (version : ipGw.version = manager.ipv) :
    (manager.expireGatewayFlows vlans ipGw nexthop vlan).1 = Function.update vlans vlan
      { vlans vlan with
        routes := ((vlans vlan).routes.delRoute (.ofHost ipGw)).getD (vlans vlan).routes
        neighCache := OrderedDict.del (vlans vlan).neighCache ipGw } := by
  rw [RouteManager.expireGatewayFlows, delRoute_delNexthopCacheEntry, RouteManager.delRoute]
  cases routed : (vlans vlan).routes.dynRoutesByIpv manager.ipv (.ofHost ipGw) with
  | none =>
      have missing : (vlans vlan).routes.dynRoutesByIpv (IpNetwork.ofHost ipGw).version
          (.ofHost ipGw) = none := by
        rw [← routed, ← version]
        rfl
      rw [Routes.delRoute, missing]
      rfl
  | some gateway =>
      dsimp only
      rw [Function.update_self, Function.update_idem]
      rfl

theorem Tracked.expireGatewayFlows (tracked : Tracked manager vlans history)
    (nexthop : NextHop) (version : ipGw.version = manager.ipv)
    (only : (vlans vlan).routes.HostRouteOnly manager.ipv ipGw) :
    Tracked manager (manager.expireGatewayFlows vlans ipGw nexthop vlan).1
      (.expired vlan ipGw :: history) := by
  have due : manager.Due history (.expired vlan ipGw) := trivial
  rw [expireGatewayFlows_eq version]
  exact tracked.noticed due rfl ((tracked.vlan vlan).expired version only)

/-! ## The cycles -/

/-- The rule of the loop over the unresolved next hops. -/
theorem resolveGatewaysNotices_rule
    (handler : Vlans → IpAddress → NextHop → Vlans × List FibMod × Bool)
    (notices : Vlans → IpAddress → NextHop → List Notice)
    (inv : Vlans → List Notice → List IpAddress → Prop)
    (skip : ∀ {vlans history ipGw rest}, inv vlans history (ipGw :: rest) → inv vlans history rest)
    (handles : ∀ {vlans history ipGw rest nexthop}, inv vlans history (ipGw :: rest) →
      (vlans vlan).neighCache.lookup ipGw = some nexthop →
      nexthop.resolutionDue now manager.neighborTimeout = true →
      inv (handler vlans ipGw nexthop).1 ((notices vlans ipGw nexthop).reverse ++ history) rest)
    {ipGws : List IpAddress} (remaining : ℕ) (holds : inv vlans history ipGws) :
    ∃ rest, inv (manager.resolveGatewaysFlows handler vlan now vlans ipGws remaining).1
      ((manager.resolveGatewaysNotices handler notices vlan now vlans ipGws remaining).reverse ++
        history) rest := by
  induction ipGws generalizing vlans history remaining with
  | nil => exact ⟨[], holds⟩
  | cons ipGw rest ih =>
      cases remaining with
      | zero => exact ⟨_, holds⟩
      | succ remaining =>
          rw [RouteManager.resolveGatewaysFlows, RouteManager.resolveGatewaysNotices]
          cases cached : (vlans vlan).neighCache.lookup ipGw with
          | none => exact ih _ (skip holds)
          | some nexthop =>
              dsimp only
              split
              next due =>
                rw [List.reverse_append, List.append_assoc]
                exact ih _ (handles holds cached due)
              next => exact ih _ (skip holds)

section Touch

variable {state : VlanState}

/-- An entry is made for a next hop that has none and is not gone. -/
theorem VlanTracked.touch (tracked : VlanTracked manager vlan state history)
    (present : gone (vlan, ipGw) history = false) :
    VlanTracked manager vlan (RouteManager.touch now state ipGw) history := by
  rw [RouteManager.touch]
  split
  next uncached =>
    refine tracked.setEntry present ?_
    have remembers := tracked.remembers ipGw
    rw [uncached] at remembers
    cases times : asked (vlan, ipGw) history with
    | nil => trivial
    | cons last earlier =>
        rw [times] at remembers
        obtain ⟨_, _, missing, _⟩ := remembers
        cases missing
  next => exact tracked

theorem VlanTracked.foldl_touch {ipGws : List IpAddress}
    (tracked : VlanTracked manager vlan state history)
    (present : ∀ ipGw ∈ ipGws, gone (vlan, ipGw) history = false) :
    VlanTracked manager vlan (ipGws.foldl (RouteManager.touch now) state) history := by
  induction ipGws generalizing state with
  | nil => exact tracked
  | cons first rest ih =>
      exact ih (tracked.touch (present first List.mem_cons_self))
        fun ipGw later => present ipGw (List.mem_cons_of_mem _ later)

theorem VlanTracked.present_of_not_only (tracked : VlanTracked manager vlan state history)
    (other : ¬ state.routes.HostRouteOnly manager.ipv ipGw) : gone (vlan, ipGw) history = false := by
  by_contra isGone
  rw [Bool.not_eq_false] at isGone
  exact other (tracked.forgotten ipGw isGone).2.2

theorem VlanTracked.present_of_host (tracked : VlanTracked manager vlan state history)
    (host : ipGw ∈ state.routes.dynHostGwsByIpv manager.ipv) :
    gone (vlan, ipGw) history = false := by
  by_contra isGone
  rw [Bool.not_eq_false] at isGone
  exact (tracked.forgotten ipGw isGone).2.1 host

end Touch

/-- What the loop over the gateways keeps. -/
theorem Tracked.unresolvedGateways (tracked : Tracked manager vlans history)
    {resolveAll : Option (List IpAddress)}
    (routed : ∀ ipGw ∈ (RouteManager.unresolvedGateways vlans vlan now resolveAll).2,
      ¬ (vlans vlan).routes.HostRouteOnly manager.ipv ipGw) :
    Tracked manager (RouteManager.unresolvedGateways vlans vlan now resolveAll).1 history ∧
      ((RouteManager.unresolvedGateways vlans vlan now resolveAll).1 vlan).routes =
        (vlans vlan).routes := by
  cases resolveAll with
  | none =>
      obtain ⟨filed, remembers, forgotten, queued⟩ := tracked.vlan vlan
      refine ⟨tracked.update ⟨filed, remembers, forgotten, queued⟩, ?_⟩
      rw [RouteManager.unresolvedGateways]
      dsimp only
      rw [Function.update_self]
  | some unresolved =>
      have touched : VlanTracked manager vlan
          (unresolved.foldl (RouteManager.touch now) (vlans vlan)) history :=
        (tracked.vlan vlan).foldl_touch fun ipGw member =>
          (tracked.vlan vlan).present_of_not_only (routed ipGw member)
      obtain ⟨filed, remembers, forgotten, queued⟩ := touched
      refine ⟨tracked.update ⟨filed, remembers, forgotten, queued⟩, ?_⟩
      rw [RouteManager.unresolvedGateways]
      dsimp only
      rw [Function.update_self]
      exact (foldl_touch_keeps now unresolved (vlans vlan)).1

theorem resolveGatewayFlows_routes {jitter : IpAddress → ℕ} {sends : IpAddress → Bool} :
    ((manager.resolveGatewayFlows vlans ipGw nexthop vlan now jitter sends).1 vlan).routes =
      (vlans vlan).routes := by
  rw [RouteManager.resolveGatewayFlows]
  split
  · rfl
  · dsimp only
    rw [Function.update_self]

/-- A gateway with another route than its own is asked for. -/
theorem Tracked.resolveGateways (tracked : Tracked manager vlans history)
    {resolveAll : Option (List IpAddress)} {jitter : IpAddress → ℕ} {sends : IpAddress → Bool}
    (routed : ∀ ipGw ∈ (RouteManager.unresolvedGateways vlans vlan now resolveAll).2,
      ¬ (vlans vlan).routes.HostRouteOnly manager.ipv ipGw) :
    Tracked manager (manager.resolveGateways vlans vlan now resolveAll jitter sends).1
      ((manager.resolveGatewaysNotices (manager.resolveHandler vlan now jitter sends)
        (fun vlans ipGw _ => manager.resolveNotices vlans vlan now sends ipGw) vlan now
        (RouteManager.unresolvedGateways vlans vlan now resolveAll).1
        (RouteManager.unresolvedGateways vlans vlan now resolveAll).2
        manager.maxHostsPerResolveCycle).reverse ++ history) := by
  rw [RouteManager.resolveGateways_eq]
  obtain ⟨started, sameRoutes⟩ := tracked.unresolvedGateways routed
  obtain ⟨_, kept, _⟩ := resolveGatewaysNotices_rule
    (manager.resolveHandler vlan now jitter sends)
    (fun vlans ipGw _ => manager.resolveNotices vlans vlan now sends ipGw)
    (fun vlans history ipGws => Tracked manager vlans history ∧
      ∀ ipGw ∈ ipGws, ¬ (vlans vlan).routes.HostRouteOnly manager.ipv ipGw)
    (fun holds => ⟨holds.1, fun ipGw later => holds.2 ipGw (List.mem_cons_of_mem _ later)⟩)
    (fun {vlans history ipGw rest nexthop} holds cached due => by
      obtain ⟨tracked, routed⟩ := holds
      have remembers := (tracked.vlan vlan).remembers ipGw
      rw [cached] at remembers
      have notHost : ipGw ∉ (vlans vlan).routes.dynHostGwsByIpv manager.ipv := fun host =>
        routed ipGw List.mem_cons_self ((tracked.vlan vlan).filed.hostRouteOnly host)
      refine ⟨tracked.resolveGatewayFlows cached (remembers.rested due)
        (fun host => absurd host notHost) jitter sends, fun other later => ?_⟩
      rw [RouteManager.resolveHandler, resolveGatewayFlows_routes]
      exact routed other (List.mem_cons_of_mem _ later))
    manager.maxHostsPerResolveCycle ⟨started, fun ipGw member => sameRoutes ▸ routed ipGw member⟩
  exact kept

/-! ## Hosts -/

/-- What the loop over the hosts keeps. -/
structure HostsTracked (manager : RouteManager) (vlan : Vid) (vlans : Vlans) (history : List Notice)
    (ipGws : List IpAddress) : Prop where
  tracked : Tracked manager vlans history
  hosts : ∀ ipGw ∈ ipGws, ipGw.version = manager.ipv ∧
    (vlans vlan).routes.HostRouteOnly manager.ipv ipGw

theorem Tracked.unresolvedHosts (tracked : Tracked manager vlans history)
    {resolveAll : Option (List IpAddress)}
    (hosts : ∀ unresolved ∈ resolveAll, ∀ ipGw ∈ unresolved,
      ipGw ∈ (vlans vlan).routes.dynHostGwsByIpv manager.ipv) :
    HostsTracked manager vlan (RouteManager.unresolvedHosts vlans vlan now resolveAll).1 history
      (RouteManager.unresolvedHosts vlans vlan now resolveAll).2 := by
  cases resolveAll with
  | none =>
      obtain ⟨filed, remembers, forgotten, queued⟩ := tracked.vlan vlan
      refine ⟨tracked.update ⟨filed, remembers, forgotten, fun ipGw member => ?_⟩, fun ipGw member => ?_⟩
      · exact queued ipGw (List.mem_of_mem_tail member)
      · rw [RouteManager.unresolvedHosts]
        dsimp only
        rw [Function.update_self]
        exact queued ipGw (List.mem_of_mem_take member)
  | some unresolved =>
      have touched : VlanTracked manager vlan
          (unresolved.foldl (RouteManager.touch now) (vlans vlan)) history :=
        (tracked.vlan vlan).foldl_touch fun ipGw member =>
          (tracked.vlan vlan).present_of_host (hosts unresolved rfl ipGw member)
      have sameRoutes := (foldl_touch_keeps now unresolved (vlans vlan)).1
      have only : ∀ ipGw ∈ unresolved, ipGw.version = manager.ipv ∧
          (unresolved.foldl (RouteManager.touch now) (vlans vlan)).routes.HostRouteOnly
            manager.ipv ipGw := by
        intro ipGw member
        have host := hosts unresolved rfl ipGw member
        rw [sameRoutes]
        have filed := (tracked.vlan vlan).filed
        exact ⟨(filed.hosts ipGw host).1, filed.hostRouteOnly host⟩
      obtain ⟨filed, remembers, forgotten, _⟩ := touched
      refine ⟨tracked.update ⟨filed, remembers, forgotten, only⟩, fun ipGw member => ?_⟩
      rw [RouteManager.unresolvedHosts]
      dsimp only
      rw [Function.update_self]
      exact only ipGw member

/-- A host is asked for, or expires. -/
theorem HostsTracked.resolveExpireGatewayFlows {rest : List IpAddress}
    (tracked : HostsTracked manager vlan vlans history (ipGw :: rest))
    (cached : (vlans vlan).neighCache.lookup ipGw = some nexthop)
    (due : nexthop.resolutionDue now manager.neighborTimeout = true) (jitter : IpAddress → ℕ)
    (sends : IpAddress → Bool) :
    HostsTracked manager vlan
      (manager.resolveExpireGatewayFlows vlans vlan now jitter sends ipGw nexthop).1
      ((manager.resolveExpireNotices vlans vlan now sends ipGw nexthop).reverse ++ history) rest := by
  obtain ⟨tracked, hosts⟩ := tracked
  obtain ⟨version, only⟩ := hosts ipGw List.mem_cons_self
  have later : ∀ other ∈ rest, other.version = manager.ipv ∧
      (vlans vlan).routes.HostRouteOnly manager.ipv other :=
    fun other member => hosts other (List.mem_cons_of_mem _ member)
  rw [RouteManager.resolveExpireGatewayFlows, RouteManager.resolveExpireNotices]
  by_cases dead : nexthop.dead manager.maxHostFibRetryCount = true
  · rw [if_pos dead, if_pos dead]
    refine ⟨tracked.expireGatewayFlows nexthop version only, fun other member => ?_⟩
    obtain ⟨otherVersion, otherOnly⟩ := later other member
    refine ⟨otherVersion, fun dst routed => otherOnly dst ?_⟩
    dsimp only at routed
    rw [expireGatewayFlows_eq version, Function.update_self] at routed
    exact ((tracked.vlan vlan).filed.delRoute version).2.1 dst other routed
  · rw [if_neg dead, if_neg dead]
    have remembers := (tracked.vlan vlan).remembers ipGw
    rw [cached] at remembers
    have fewer : nexthop.resolveRetries < manager.maxHostFibRetryCount := by
      simpa [NextHop.dead] using dead
    refine ⟨tracked.resolveGatewayFlows cached (remembers.rested due)
      (fun _ => remembers.length_le.trans_lt fewer) jitter sends, fun other member => ?_⟩
    dsimp only
    rw [resolveGatewayFlows_routes]
    exact later other member

theorem Tracked.resolveExpireHosts (tracked : Tracked manager vlans history)
    {resolveAll : Option (List IpAddress)} {jitter : IpAddress → ℕ} {sends : IpAddress → Bool}
    (hosts : ∀ unresolved ∈ resolveAll, ∀ ipGw ∈ unresolved,
      ipGw ∈ (vlans vlan).routes.dynHostGwsByIpv manager.ipv) :
    Tracked manager (manager.resolveExpireHosts vlans vlan now resolveAll jitter sends).1
      ((manager.resolveGatewaysNotices
        (fun vlans => manager.resolveExpireGatewayFlows vlans vlan now jitter sends)
        (fun vlans => manager.resolveExpireNotices vlans vlan now sends) vlan now
        (RouteManager.unresolvedHosts vlans vlan now resolveAll).1
        (RouteManager.unresolvedHosts vlans vlan now resolveAll).2
        manager.maxHostsPerResolveCycle).reverse ++ history) := by
  rw [RouteManager.resolveExpireHosts_eq]
  obtain ⟨_, kept⟩ := resolveGatewaysNotices_rule
    (fun vlans => manager.resolveExpireGatewayFlows vlans vlan now jitter sends)
    (fun vlans => manager.resolveExpireNotices vlans vlan now sends)
    (HostsTracked manager vlan)
    (fun holds => ⟨holds.tracked, fun ipGw later => holds.hosts ipGw (List.mem_cons_of_mem _ later)⟩)
    (fun holds cached due => holds.resolveExpireGatewayFlows cached due jitter sends)
    manager.maxHostsPerResolveCycle (tracked.unresolvedHosts hosts)
  exact kept.tracked

/-! ## Packets that have an address resolved -/

theorem asked_addHostNotices (key : Vid × IpAddress) :
    asked key ((manager.addHostNotices vlan ipGw).reverse ++ history) = asked key history := by
  rw [RouteManager.addHostNotices]
  split
  next target _ =>
    by_cases same : (target, ipGw) = key
    · subst same
      exact asked_wanted
    · exact asked_of_ne same
  next => rfl

theorem reverse_learnNotices : (manager.learnNotices pkt).reverse ++ history =
    .heard pkt.vlan pkt.l3Src :: ((manager.addHostNotices pkt.vlan pkt.l3Src).reverse ++ history) := by
  simp [RouteManager.learnNotices]

theorem asked_learned (key : Vid × IpAddress) (nothing : asked key history = []) :
    asked key ((if manager.senderIsNeighbor vlans pkt && pkt.hasIp then manager.learnNotices pkt
      else []).reverse ++ history) = [] := by
  split
  · rw [reverse_learnNotices]
    by_cases same : (pkt.vlan, pkt.l3Src) = key
    · subst same
      exact asked_heard
    · have different : (Notice.heard pkt.vlan pkt.l3Src).about ≠ key := same
      rw [asked_of_ne different, asked_addHostNotices, nothing]
  · exact nothing

/-- The destination of a packet is wanted, and may be asked for at once. -/
theorem Tracked.restart (tracked : Tracked manager vlans history)
    (positive : 0 < manager.maxHostFibRetryCount) (unasked : asked (vlan, ipGw) history = [])
    (jitter : IpAddress → ℕ) (sends : IpAddress → Bool) :
    Tracked manager
        (Function.update vlans vlan ((vlans vlan).updateNexthopCache now none none ipGw))
        (.wanted vlan ipGw :: history) ∧
      Tracked manager
        (manager.resolveGatewayFlows
          (Function.update vlans vlan ((vlans vlan).updateNexthopCache now none none ipGw)) ipGw
          (.new none none now) vlan now jitter sends).1
        ((manager.resolveNotices vlans vlan now sends ipGw).reverse ++
          .wanted vlan ipGw :: history) := by
  have due : manager.Due history (.wanted vlan ipGw) := trivial
  have nothing : asked (vlan, ipGw) (.wanted vlan ipGw :: history) = [] := by
    rw [asked_wanted, unasked]
  have replaced : VlanTracked manager vlan
      ((vlans vlan).updateNexthopCache now none none ipGw) (.wanted vlan ipGw :: history) := by
    refine (tracked.vlan vlan).wanted.setEntry ?_ ?_
    · rw [gone_wanted]
    · rw [nothing]
      trivial
  have started : Tracked manager
      (Function.update vlans vlan ((vlans vlan).updateNexthopCache now none none ipGw)) _ :=
    tracked.noticed due rfl replaced
  refine ⟨started, ?_⟩
  have sameHosts : manager.resolveNotices vlans vlan now sends ipGw = manager.resolveNotices
      (Function.update vlans vlan ((vlans vlan).updateNexthopCache now none none ipGw)) vlan now
      sends ipGw := by
    rw [RouteManager.resolveNotices, RouteManager.resolveNotices, Function.update_self]
    rfl
  rw [sameHosts]
  refine started.resolveGatewayFlows ?_ ?_ ?_ jitter sends
  · rw [Function.update_self, VlanState.updateNexthopCache, lookup_set, if_pos rfl]
  · rw [nothing]
    trivial
  · rw [nothing]
    exact fun _ => positive

theorem Tracked.proactiveResolveNeighbor (tracked : Tracked manager vlans history)
    (positive : 0 < manager.maxHostFibRetryCount) {jitter : IpAddress → ℕ} {sends : IpAddress → Bool}
    (fresh : ∀ vlan, manager.neighborVlan vlans pkt = some vlan → ∀ nexthop,
      (vlans vlan).neighCache.lookup pkt.l3Dst = some nexthop → nexthop.resolveRetries = 0) :
    Tracked manager (manager.proactiveResolveNeighbor vlans pkt now jitter sends).1
      ((manager.proactiveNotices vlans pkt now sends).reverse ++ history) := by
  rw [RouteManager.proactiveResolveNeighbor, RouteManager.proactiveNotices]
  cases found : manager.neighborVlan vlans pkt with
  | none => exact tracked
  | some vlan =>
      have unasked : asked (vlan, pkt.l3Dst) history = [] := by
        have remembers := (tracked.vlan vlan).remembers pkt.l3Dst
        cases times : asked (vlan, pkt.l3Dst) history with
        | nil => rfl
        | cons last earlier =>
            rw [times] at remembers
            obtain ⟨nexthop, _, cached, less, _⟩ := remembers
            rw [fresh vlan found nexthop cached] at less
            exact absurd less (Nat.not_lt_zero _)
      have learned : Tracked manager (manager.addHostFibRouteFromPkt vlans pkt now).1 _ :=
        tracked.addHostFibRouteFromPkt
      have unasked : asked (vlan, pkt.l3Dst) ((if manager.senderIsNeighbor vlans pkt && pkt.hasIp
          then manager.learnNotices pkt else []).reverse ++ history) = [] := asked_learned _ unasked
      have routed : Tracked manager (manager.addHostFibRoute
          (manager.addHostFibRouteFromPkt vlans pkt now).1 vlan pkt.l3Dst true).1 _ :=
        learned.addHostFibRoute true
      rw [← asked_addHostNotices] at unasked
      obtain ⟨waits, asks⟩ := routed.restart positive unasked jitter sends
      dsimp only
      rw [List.reverse_append, List.reverse_append, List.reverse_append, List.append_assoc,
        List.append_assoc, List.append_assoc]
      by_cases inProgress : pkt.l3Dst ∈ ((manager.addHostFibRouteFromPkt vlans pkt now).1
          vlan).routes.dynHostGwsByIpv manager.ipv
      · rw [if_pos inProgress, if_pos inProgress]
        exact waits
      · rw [if_neg inProgress, if_neg inProgress]
        exact asks

/-! ## The steps of a run -/

/-- No packet has an address resolved that has been asked for, and no gateway is asked for that
has no route but its own. Ports stay up and the static routes stay. -/
def Orderly (manager : RouteManager) (w : Watched) : Event → Prop
  | .resolveVipResponse _ _ _ => True
  | .gwAdvert _ _ _ => True
  | .addHostFibRouteFromPkt _ _ => True
  | .proactiveResolveNeighbor pkt _ _ _ => ∀ vlan, manager.neighborVlan w.state.vlans pkt = some vlan →
      ∀ nexthop, (w.state.vlans vlan).neighCache.lookup pkt.l3Dst = some nexthop →
        nexthop.resolveRetries = 0
  | .resolveGateways vlan now resolveAll _ _ =>
      ∀ ipGw ∈ (RouteManager.unresolvedGateways w.state.vlans vlan now resolveAll).2,
        ∃ ipDst, (w.state.vlans vlan).routes.dynRoutesByIpv manager.ipv ipDst = some ipGw ∧
          ipDst ≠ .ofHost ipGw
  | .resolveExpireHosts _ _ _ _ _ => True
  | _ => False

theorem isUnresolvedNexthops_host {state : VlanState} {ipGws : Finset IpAddress}
    {unresolved : List IpAddress}
    (returned : manager.isUnresolvedNexthops state ipGws now unresolved = true) :
    unresolved.Nodup ∧ ∀ ipGw ∈ unresolved, ipGw ∈ ipGws := by
  obtain ⟨nodup, same, _⟩ := of_decide_eq_true returned
  refine ⟨nodup, fun ipGw member => ?_⟩
  have listed : ipGw ∈ unresolved.toFinset := List.mem_toFinset.mpr member
  rw [same] at listed
  exact (Finset.mem_filter.mp listed).1

/-- One event. -/
theorem tracked_of_watch (positive : 0 < manager.maxHostFibRetryCount) {w next : Watched}
    {event : Event} (tracked : Tracked manager w.state.vlans w.history)
    (orderly : Orderly manager w event) (taken : manager.watch w event = some next) :
    Tracked manager next.state.vlans next.history := by
  obtain ⟨after, stepped, rfl⟩ := Option.map_eq_some_iff.mp taken
  cases event with
  | addRoute vlan ipGw ipDst => exact orderly.elim
  | delRoute vlan ipDst => exact orderly.elim
  | resolveVipResponse pkt solicitedIp now =>
      obtain ⟨_, result⟩ := Option.ite_none_right_eq_some.mp stepped
      cases result
      dsimp only [RouteManager.outcome]
      rw [RouteManager.notices, RouteManager.resolveVipResponse]
      split
      · exact tracked.learnNexthop
      · exact tracked
  | gwAdvert pkt targetIp now =>
      obtain ⟨_, result⟩ := Option.ite_none_right_eq_some.mp stepped
      cases result
      dsimp only [RouteManager.outcome]
      rw [RouteManager.notices, RouteManager.gwAdvert]
      split
      · exact tracked.updateNexthop
      · exact tracked
  | addHostFibRouteFromPkt pkt now =>
      obtain ⟨_, result⟩ := Option.ite_none_right_eq_some.mp stepped
      cases result
      exact tracked.addHostFibRouteFromPkt
  | proactiveResolveNeighbor pkt now jitter sends =>
      obtain ⟨_, result⟩ := Option.ite_none_right_eq_some.mp stepped
      cases result
      exact tracked.proactiveResolveNeighbor positive orderly
  | resolveGateways vlan now resolveAll jitter sends =>
      obtain ⟨_, result⟩ := Option.ite_none_right_eq_some.mp stepped
      cases result
      refine tracked.resolveGateways fun ipGw member only => ?_
      obtain ⟨ipDst, routed, other⟩ := orderly ipGw member
      exact other (only ipDst routed)
  | resolveExpireHosts vlan now resolveAll jitter sends =>
      obtain ⟨returned, result⟩ := Option.ite_none_right_eq_some.mp stepped
      cases result
      refine tracked.resolveExpireHosts fun unresolved listed => ?_
      cases listed
      exact (isUnresolvedNexthops_host returned).2
  | portDown port => exact orderly.elim
  | addVlans vlans => exact orderly.elim
  | reconnect ports => exact orderly.elim

/-- Each destination of the static routes of a VLAN has one gateway. -/
def OneGateway (manager : RouteManager) : Prop :=
  ∀ vlan, ∀ route ∈ (manager.vlan vlan).routes, ∀ route' ∈ (manager.vlan vlan).routes,
    route.1 = route'.1 → route.2 = route'.2

theorem filed_foldl {v : IpVersion} {all rest : List (IpNetwork × IpAddress)} {routes : Routes}
    (once : ∀ route ∈ all, ∀ route' ∈ all, route.1 = route'.1 → route.2 = route'.2)
    (listed : ∀ route ∈ rest, route ∈ all) (filed : Filed v routes)
    (held : ∀ v ipDst ipGw, routes.dynRoutesByIpv v ipDst = some ipGw → (ipDst, ipGw) ∈ all) :
    Filed v (rest.foldl (fun routes route => routes.addRoute route.1 route.2) routes) := by
  induction rest generalizing routes with
  | nil => exact filed
  | cons route rest ih =>
      have member := listed route List.mem_cons_self
      apply ih (fun route later => listed route (List.mem_cons_of_mem _ later))
      · refine filed.addRoute fun old routed _ => ?_
        exact once _ (held _ _ _ routed) route member rfl
      · intro v ipDst ipGw routed
        rw [Routes.addRoute_routes] at routed
        split at routed
        next =>
          by_cases here : ipDst = route.1
          · rw [here, Function.update_self] at routed
            cases routed
            rw [here]
            exact member
          · rw [Function.update_of_ne here] at routed
            exact held v ipDst ipGw routed
        next => exact held v ipDst ipGw routed

theorem tracked_initial (static : OneGateway manager) :
    Tracked manager manager.watched.state.vlans manager.watched.history := by
  have empty : Filed manager.ipv Routes.initial := by
    refine ⟨Routes.initial_wellFormed, (by intros; contradiction), (by intros; contradiction), fun ipGw member => ?_⟩
    exact absurd member (Finset.notMem_empty ipGw)
  refine ⟨trivial, fun vlan => ⟨?_, fun _ => trivial, (by intros; contradiction), (by intros; contradiction)⟩⟩
  exact filed_foldl (static vlan) (fun _ => id) empty (by intros; contradiction)

end Faucet.Route
