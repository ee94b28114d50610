import Faucet.Route.Agreement

/-!
# Withdrawal of a route

`add_route` puts a route on the VLAN of the router that has the gateway, and writes its
flows for all routed VLANs. `del_route` looks for the route in the VLAN that it is given,
and nowhere else. So it undoes the add just when the gateway is in this VLAN, or in
none of the router (`withdrawn_iff`), whatever is resolved in between.
-/

set_option autoImplicit false

namespace Faucet.Route

open Vlan TransitionSystem

/-! ## What is left of a destination -/

/-- No VLAN has a route for the destination, or lists it under a gateway, and there is no
flow for it. -/
structure Unrouted (manager : RouteManager) (ipDst : IpNetwork) (s : State) : Prop where
  rib : ∀ vlan, (s.vlans vlan).routes.dynRoutesByIpv manager.ipv ipDst = none
  unlisted : ∀ vlan ipGw, ipDst ∉ (s.vlans vlan).routes.ipDstsForIpGw ipGw
  fib : ∀ vlan, s.fib (vlan, ipDst) = none

/-- The VLANs of the router of a VLAN; a VLAN without a router is alone. -/
def routerVlans (manager : RouteManager) (vlan : Vid) : List Vid :=
  match manager.routerForVlan vlan with
  | some router => router.vlans
  | none => [vlan]

/-- No VLAN of the router has a route for the destination, and no routed VLAN a flow. -/
structure Withdrawn (manager : RouteManager) (vlan : Vid) (ipDst : IpNetwork) (s : State) :
    Prop where
  rib : ∀ other ∈ routerVlans manager vlan,
    (s.vlans other).routes.dynRoutesByIpv manager.ipv ipDst = none
  fib : ∀ routedVlan ∈ manager.routedVlans vlan, s.fib (routedVlan, ipDst) = none

/-- `Router.finalize` fills `vip_map` from the VLANs of the router. -/
def MapsToOwn (manager : RouteManager) : Prop :=
  ∀ router ∈ manager.routers, ∀ ipa vlan faucetVip,
    router.vipMap ipa = some (vlan, faucetVip) → vlan ∈ router.vlans

/-- A neighbour is asked for, answers, or is given up, and the destination is not
the host route of it. -/
def Resolves (ipDst : IpNetwork) (s : State) : Event → Prop
  | .gwAdvert _ _ _ | .resolveGateways _ _ _ _ _ => True
  | .resolveVipResponse pkt _ _ | .addHostFibRouteFromPkt pkt _ => IpNetwork.ofHost pkt.l3Src ≠ ipDst
  | .proactiveResolveNeighbor pkt _ _ _ =>
      IpNetwork.ofHost pkt.l3Src ≠ ipDst ∧ IpNetwork.ofHost pkt.l3Dst ≠ ipDst
  | .resolveExpireHosts vlan _ resolveAll _ _ =>
      ∀ ipGw ∈ expiringGws s.vlans vlan resolveAll, IpNetwork.ofHost ipGw ≠ ipDst
  | _ => False

/-! ## What a step leaves alone -/

/-- The routes for the destination stay, and nothing about it appears. -/
structure Spares (manager : RouteManager) (ipDst : IpNetwork) (before after : State) : Prop where
  rib : ∀ vlan, (after.vlans vlan).routes.dynRoutesByIpv manager.ipv ipDst =
    (before.vlans vlan).routes.dynRoutesByIpv manager.ipv ipDst
  unrouted : Unrouted manager ipDst before → Unrouted manager ipDst after

namespace Spares

variable {manager : RouteManager} {ipDst : IpNetwork} {before middle after : State}

theorem refl : Spares manager ipDst before before := ⟨fun _ => rfl, id⟩

theorem trans (first : Spares manager ipDst before middle)
    (second : Spares manager ipDst middle after) : Spares manager ipDst before after :=
  ⟨fun vlan => (second.rib vlan).trans (first.rib vlan), second.unrouted ∘ first.unrouted⟩

end Spares

section Tables

variable {t : Routes} {ipDst other : IpNetwork} {ipGw : IpAddress}

theorem addRoute_routes_of_ne (different : other ≠ ipDst) (v : IpVersion) :
    (t.addRoute other ipGw).dynRoutesByIpv v ipDst = t.dynRoutesByIpv v ipDst := by
  rw [Routes.addRoute_routes]
  split
  · exact Function.update_of_ne different.symm ..
  · rfl

theorem mem_of_mem_addRoute (different : other ≠ ipDst) {gw : IpAddress}
    (listed : ipDst ∈ (t.addRoute other ipGw).ipDstsForIpGw gw) : ipDst ∈ t.ipDstsForIpGw gw := by
  rw [Routes.ipDstsForIpGw_eq, Routes.addRoute_eq, Routes.write, Routes.updateGwTypes_gws,
    Routes.setGw_setRoute_gws] at listed
  rw [Routes.ipDstsForIpGw_eq]
  split at listed
  next same =>
    by_cases sameGw : gw = ipGw
    · subst sameGw
      rw [Function.update_self, Option.getD_some, List.mem_insert_iff] at listed
      exact listed.resolve_left different.symm
    · rwa [Function.update_of_ne sameGw] at listed
  next => exact listed

theorem delRoute_routes_of_ne (different : other ≠ ipDst) (v : IpVersion) :
    ((t.delRoute other).getD t).dynRoutesByIpv v ipDst = t.dynRoutesByIpv v ipDst := by
  rw [Routes.delRoute]
  split
  next => rfl
  next gw _ =>
    rw [Option.getD_some, Routes.updateGwTypes_routes]
    by_cases same : v = other.version
    · subst same
      simp [Routes.setGw, Routes.setRoute, different.symm]
    · simp [Routes.setGw, Routes.setRoute, same]

theorem mem_of_mem_delRoute {gw : IpAddress}
    (listed : ipDst ∈ ((t.delRoute other).getD t).ipDstsForIpGw gw) :
    ipDst ∈ t.ipDstsForIpGw gw := by
  rw [Routes.delRoute] at listed
  split at listed
  next => exact listed
  next old _ =>
    rw [Option.getD_some, Routes.ipDstsForIpGw_eq, Routes.updateGwTypes_gws] at listed
    rw [Routes.ipDstsForIpGw_eq]
    by_cases version : gw.version = old.version
    · rw [version, Routes.setGw_gws] at listed
      by_cases same : gw = old
      · subst same
        rw [Function.update_self] at listed
        split at listed
        next => cases listed
        next =>
          have member := List.mem_of_mem_erase listed
          rwa [Routes.ipDstsForIpGw_eq] at member
      · rw [Function.update_of_ne same, ← version] at listed
        exact listed
    · rw [Routes.setGw_gws_of_ne _ version] at listed
      exact listed

end Tables

/-! ## The handlers -/

section Handlers

variable {manager : RouteManager} {ipDst other : IpNetwork} {ipGw : IpAddress} {vlan : Vid}
  {vlans vlans' : Vlans} {fib : Fib}

/-- Flows that are written for other destinations, or deleted. -/
theorem overwrite_clean {ipDsts : List IpNetwork} {flow : Option FibFlow}
    (spared : ipDst ∈ ipDsts → flow = none) (clean : ∀ vid, fib (vid, ipDst) = none) (vid : Vid) :
    overwrite manager vlan ipDsts flow fib (vid, ipDst) = none := by
  rw [overwrite]
  split
  next written => exact spared written.2
  next => exact clean vid

/-- A step that changes the tables of one VLAN and some flows. -/
theorem Spares.update {state : VlanState} {fib' : Fib}
    (rib : state.routes.dynRoutesByIpv manager.ipv ipDst =
      (vlans vlan).routes.dynRoutesByIpv manager.ipv ipDst)
    (listed : ∀ gw, ipDst ∈ state.routes.ipDstsForIpGw gw →
      ipDst ∈ (vlans vlan).routes.ipDstsForIpGw gw)
    (flows : Unrouted manager ipDst ⟨vlans, fib⟩ → ∀ vid, fib' (vid, ipDst) = none) :
    Spares manager ipDst ⟨vlans, fib⟩ ⟨Function.update vlans vlan state, fib'⟩ where
  rib := by
    intro v
    by_cases same : v = vlan
    · subst same
      dsimp only
      rw [Function.update_self, rib]
    · dsimp only
      rw [Function.update_of_ne same]
  unrouted := by
    intro unrouted
    refine ⟨fun v => ?_, fun v gw member => ?_, flows unrouted⟩
    · by_cases same : v = vlan
      · subst same
        dsimp only
        rw [Function.update_self, rib]
        exact unrouted.rib v
      · dsimp only
        rw [Function.update_of_ne same]
        exact unrouted.rib v
    · dsimp only at member
      by_cases same : v = vlan
      · subst same
        rw [Function.update_self] at member
        exact unrouted.unlisted v gw (listed gw member)
      · rw [Function.update_of_ne same] at member
        exact unrouted.unlisted v gw member

/-- A step that changes the caches alone. -/
theorem Spares.cache {state : VlanState} (routes : state.routes = (vlans vlan).routes) :
    Spares manager ipDst ⟨vlans, fib⟩ ⟨Function.update vlans vlan state, fib⟩ :=
  .update (by rw [routes]) (by rw [routes]; exact fun _ => id) fun unrouted => unrouted.fib

/-- A step that writes flows alone. -/
theorem Spares.flows {fib' : Fib}
    (flows : Unrouted manager ipDst ⟨vlans, fib⟩ → ∀ vid, fib' (vid, ipDst) = none) :
    Spares manager ipDst ⟨vlans, fib⟩ ⟨vlans, fib'⟩ :=
  ⟨fun _ => rfl, fun unrouted => ⟨unrouted.rib, unrouted.unlisted, flows unrouted⟩⟩

theorem Spares.addRoute (different : other ≠ ipDst) :
    Spares manager ipDst ⟨vlans, fib⟩
      (RouteManager.outcome fib (manager.addRoute vlans vlan ipGw other)) := by
  rw [RouteManager.addRoute, RouteManager.outcome]
  split
  next => exact .refl
  next target _ =>
    dsimp only
    split
    next => exact .refl
    next =>
      refine .update (addRoute_routes_of_ne different _)
        (fun gw => mem_of_mem_addRoute different) fun unrouted => ?_
      split
      next =>
        rw [applyAll_addResolvedRoute]
        refine overwrite_clean (fun member => ?_) unrouted.fib
        exact absurd (List.mem_singleton.mp member).symm different
      next => exact unrouted.fib

/-- The route of another destination is taken from the tables. -/
theorem Spares.delRoute (different : other ≠ ipDst) :
    Spares manager ipDst ⟨vlans, fib⟩ ⟨(manager.delRoute vlans vlan other).1, fib⟩ := by
  rw [RouteManager.delRoute]
  split
  next => exact .refl
  next =>
    exact .update (delRoute_routes_of_ne different _) (fun gw => mem_of_mem_delRoute)
      fun unrouted => unrouted.fib

/-- A delete of flows leaves none. -/
theorem clean_delRoute (clean : ∀ vid, fib (vid, ipDst) = none) (vid : Vid) :
    applyAll (manager.delRoute vlans vlan other).2 fib (vid, ipDst) = none := by
  rw [RouteManager.delRoute]
  split
  next => exact clean vid
  next =>
    rw [applyAll_delRouteFlows]
    exact overwrite_clean (fun _ => rfl) clean vid

theorem Spares.addHostFibRoute {hostIp : IpAddress} (different : IpNetwork.ofHost hostIp ≠ ipDst)
    (blackhole : Bool) :
    Spares manager ipDst ⟨vlans, fib⟩
      (RouteManager.outcome fib (manager.addHostFibRoute vlans vlan hostIp blackhole)) := by
  have drops : ∀ fib : Fib, (∀ vid, fib (vid, ipDst) = none) → ∀ vid,
      applyAll (if blackhole then (manager.routedVlans vlan).map fun routedVlan =>
        .flowmod routedVlan (.ofHost hostIp) .drop else []) fib (vid, ipDst) = none := by
    intro fib clean vid
    cases blackhole with
    | false => exact clean vid
    | true =>
        have written : applyAll ((manager.routedVlans vlan).map fun routedVlan =>
            .flowmod routedVlan (.ofHost hostIp) .drop) fib =
            overwrite manager vlan [.ofHost hostIp] (some .drop) fib :=
          applyAll_map (fun _ _ => rfl) _ fib
        rw [if_pos rfl, written]
        refine overwrite_clean (fun member => ?_) clean vid
        exact absurd (List.mem_singleton.mp member).symm different
  refine (Spares.flows fun unrouted => drops fib unrouted.fib).trans ?_
  rw [RouteManager.addHostFibRoute, RouteManager.outcome, applyAll_append]
  exact .addRoute different

theorem Spares.updateNexthop {now : ℤ} {port : ℕ} {ethSrc : Mac} :
    Spares manager ipDst ⟨vlans, fib⟩
      (RouteManager.outcome fib (manager.updateNexthop vlans now vlan port ethSrc ipGw)) := by
  rw [RouteManager.updateNexthop, RouteManager.outcome]
  refine .update rfl (fun _ => id) fun unrouted => ?_
  dsimp only
  split
  next => exact unrouted.fib
  next =>
    rw [applyAll_flatMap fun dst fib => applyAll_addResolvedRoute vlan dst ethSrc _ fib]
    exact overwrite_clean (fun member => absurd member (unrouted.unlisted vlan ipGw)) unrouted.fib

theorem Spares.learnNexthop {pkt : Packet} {now : ℤ} (different : IpNetwork.ofHost pkt.l3Src ≠ ipDst) :
    Spares manager ipDst ⟨vlans, fib⟩
      (RouteManager.outcome fib (manager.learnNexthop vlans pkt now)) := by
  rw [RouteManager.learnNexthop, RouteManager.outcome, applyAll_append]
  exact (Spares.addHostFibRoute different false).trans .updateNexthop

theorem Spares.addHostFibRouteFromPkt {pkt : Packet} {now : ℤ}
    (different : IpNetwork.ofHost pkt.l3Src ≠ ipDst) :
    Spares manager ipDst ⟨vlans, fib⟩
      (RouteManager.outcome fib (manager.addHostFibRouteFromPkt vlans pkt now)) := by
  rw [RouteManager.addHostFibRouteFromPkt]
  split
  · exact .learnNexthop different
  · exact .refl

theorem Spares.resolveGatewayFlows {nexthop : NextHop} {now : ℤ} {jitter : IpAddress → ℕ}
    {sends : IpAddress → Bool} :
    Spares manager ipDst ⟨vlans, fib⟩
      ⟨(manager.resolveGatewayFlows vlans ipGw nexthop vlan now jitter sends).1, fib⟩ := by
  rw [RouteManager.resolveGatewayFlows]
  split
  · exact .refl
  · exact .cache rfl

theorem Spares.proactiveResolveNeighbor {pkt : Packet} {now : ℤ} {jitter : IpAddress → ℕ}
    {sends : IpAddress → Bool} (sender : IpNetwork.ofHost pkt.l3Src ≠ ipDst)
    (target : IpNetwork.ofHost pkt.l3Dst ≠ ipDst) :
    Spares manager ipDst ⟨vlans, fib⟩
      (RouteManager.outcome fib (manager.proactiveResolveNeighbor vlans pkt now jitter sends)) := by
  rw [RouteManager.proactiveResolveNeighbor]
  split
  next => exact .refl
  next vlan _ =>
    have learned : Spares manager ipDst ⟨vlans, fib⟩
        (RouteManager.outcome fib (manager.addHostFibRouteFromPkt vlans pkt now)) :=
      .addHostFibRouteFromPkt sender
    have dropped : ∀ s : State, Spares manager ipDst s
        (RouteManager.outcome s.fib (manager.addHostFibRoute s.vlans vlan pkt.l3Dst true)) :=
      fun _ => .addHostFibRoute target true
    rw [RouteManager.outcome, applyAll_append]
    refine (learned.trans (dropped _)).trans ?_
    have cached : ∀ s : State, Spares manager ipDst s ⟨Function.update s.vlans vlan
        ((s.vlans vlan).updateNexthopCache now none none pkt.l3Dst), s.fib⟩ := fun _ => .cache rfl
    dsimp only
    split
    next => exact cached _
    next => exact (cached _).trans .resolveGatewayFlows

theorem Spares.expireGatewayFlows {nexthop : NextHop} (different : IpNetwork.ofHost ipGw ≠ ipDst) :
    Spares manager ipDst ⟨vlans, fib⟩
      (RouteManager.outcome fib (manager.expireGatewayFlows vlans ipGw nexthop vlan)) := by
  have uncached : Spares manager ipDst ⟨vlans, fib⟩
      ⟨Function.update vlans vlan ((vlans vlan).delNexthopCacheEntry ipGw), fib⟩ := .cache rfl
  rw [RouteManager.expireGatewayFlows, RouteManager.outcome]
  refine uncached.trans ((Spares.delRoute different).trans (Spares.flows fun unrouted => ?_))
  dsimp only
  split
  next => exact unrouted.fib
  next =>
    intro vid
    rw [applyAll_append, applyAll_flatMap fun dst fib => applyAll_delRouteFlows vlan dst fib]
    exact overwrite_clean (fun _ => rfl) (clean_delRoute unrouted.fib) vid

/-! ## Cycles -/

/-- The loop over unresolved gateways spares what its handler spares. -/
theorem Spares.resolveGatewaysFlows
    {handler : Vlans → IpAddress → NextHop → Vlans × List FibMod × Bool} {now : ℤ}
    {ipGws : List IpAddress}
    (each : ∀ ipGw ∈ ipGws, ∀ vlans fib nexthop, Spares manager ipDst ⟨vlans, fib⟩
      ⟨(handler vlans ipGw nexthop).1, applyAll (handler vlans ipGw nexthop).2.1 fib⟩)
    (remaining : ℕ) :
    Spares manager ipDst ⟨vlans, fib⟩ (RouteManager.outcome fib
      (manager.resolveGatewaysFlows handler vlan now vlans ipGws remaining)) := by
  suffices kept : ∃ rest : List IpAddress, rest ⊆ ipGws ∧ Spares manager ipDst ⟨vlans, fib⟩
      (RouteManager.outcome fib
        (manager.resolveGatewaysFlows handler vlan now vlans ipGws remaining)) by
    obtain ⟨_, _, spares⟩ := kept
    exact spares
  refine resolveGatewaysFlows_keeps
    (fun vlans' fib' rest => rest ⊆ ipGws ∧ Spares manager ipDst ⟨vlans, fib⟩ ⟨vlans', fib'⟩)
    ?_ ?_ remaining ⟨List.Subset.refl _, .refl⟩
  · intro _ _ _ _ holds
    exact ⟨(List.cons_subset.mp holds.1).2, holds.2⟩
  · intro _ _ _ _ _ holds _ _
    obtain ⟨listed, rest⟩ := List.cons_subset.mp holds.1
    exact ⟨rest, holds.2.trans (each _ listed _ _ _)⟩

theorem Spares.resolveGateways {now : ℤ} {resolveAll : Option (List IpAddress)}
    {jitter : IpAddress → ℕ} {sends : IpAddress → Bool} :
    Spares manager ipDst ⟨vlans, fib⟩ (RouteManager.outcome fib
      (manager.resolveGateways vlans vlan now resolveAll jitter sends)) := by
  have loop : ∀ state ipGws, state.routes = (vlans vlan).routes →
      Spares manager ipDst ⟨vlans, fib⟩ (RouteManager.outcome fib (manager.resolveGatewaysFlows
        (fun vlans ipGw nexthop =>
          ((manager.resolveGatewayFlows vlans ipGw nexthop vlan now jitter sends).1, [],
            (manager.resolveGatewayFlows vlans ipGw nexthop vlan now jitter sends).2))
        vlan now (Function.update vlans vlan state) ipGws manager.maxHostsPerResolveCycle)) :=
    fun state ipGws routes => (Spares.cache routes).trans
      (.resolveGatewaysFlows (fun _ _ _ _ _ => .resolveGatewayFlows) _)
  unfold RouteManager.resolveGateways
  cases resolveAll with
  | none => exact loop _ _ rfl
  | some ipGws => exact loop _ _ (foldl_touch_keeps now ipGws (vlans vlan)).1

theorem Spares.resolveExpireGatewayFlows {nexthop : NextHop} {now : ℤ} {jitter : IpAddress → ℕ}
    {sends : IpAddress → Bool} (different : IpNetwork.ofHost ipGw ≠ ipDst) :
    Spares manager ipDst ⟨vlans, fib⟩
      ⟨(manager.resolveExpireGatewayFlows vlans vlan now jitter sends ipGw nexthop).1,
        applyAll (manager.resolveExpireGatewayFlows vlans vlan now jitter sends ipGw nexthop).2.1
          fib⟩ := by
  rw [RouteManager.resolveExpireGatewayFlows]
  split
  · exact .expireGatewayFlows different
  · exact .resolveGatewayFlows

theorem Spares.resolveExpireHosts {now : ℤ} {resolveAll : Option (List IpAddress)}
    {jitter : IpAddress → ℕ} {sends : IpAddress → Bool}
    (different : ∀ ipGw ∈ expiringGws vlans vlan resolveAll, IpNetwork.ofHost ipGw ≠ ipDst) :
    Spares manager ipDst ⟨vlans, fib⟩ (RouteManager.outcome fib
      (manager.resolveExpireHosts vlans vlan now resolveAll jitter sends)) := by
  have loop : ∀ state ipGws, state.routes = (vlans vlan).routes →
      (∀ ipGw ∈ ipGws, IpNetwork.ofHost ipGw ≠ ipDst) →
      Spares manager ipDst ⟨vlans, fib⟩ (RouteManager.outcome fib (manager.resolveGatewaysFlows
        (fun vlans => manager.resolveExpireGatewayFlows vlans vlan now jitter sends)
        vlan now (Function.update vlans vlan state) ipGws manager.maxHostsPerResolveCycle)) :=
    fun state ipGws routes others => (Spares.cache routes).trans
      (.resolveGatewaysFlows (fun gw member _ _ _ => .resolveExpireGatewayFlows (others gw member)) _)
  unfold RouteManager.resolveExpireHosts
  cases resolveAll with
  | none => exact loop _ _ rfl different
  | some ipGws => exact loop _ _ (foldl_touch_keeps now ipGws (vlans vlan)).1 different

end Handlers

/-! ## Runs -/

section Runs

variable {manager : RouteManager} {ipDst : IpNetwork} {ipGw : IpAddress} {vlan : Vid}
  {s next : State} {events : List Event}

/-- One step. -/
theorem spares_of_step {event : Event} (resolves : Resolves ipDst s event)
    (taken : manager.step s event = some next) : Spares manager ipDst s next := by
  cases event with
  | resolveVipResponse pkt solicitedIp now =>
      obtain ⟨_, result⟩ := Option.ite_none_right_eq_some.mp taken
      cases result
      rw [RouteManager.resolveVipResponse]
      split
      · exact .learnNexthop resolves
      · exact .refl
  | gwAdvert pkt targetIp now =>
      obtain ⟨_, result⟩ := Option.ite_none_right_eq_some.mp taken
      cases result
      rw [RouteManager.gwAdvert]
      split
      · exact .updateNexthop
      · exact .refl
  | addHostFibRouteFromPkt pkt now =>
      obtain ⟨_, result⟩ := Option.ite_none_right_eq_some.mp taken
      cases result
      exact .addHostFibRouteFromPkt resolves
  | proactiveResolveNeighbor pkt now jitter sends =>
      obtain ⟨_, result⟩ := Option.ite_none_right_eq_some.mp taken
      cases result
      exact .proactiveResolveNeighbor resolves.1 resolves.2
  | resolveGateways vlan now resolveAll jitter sends =>
      obtain ⟨_, result⟩ := Option.ite_none_right_eq_some.mp taken
      cases result
      exact .resolveGateways
  | resolveExpireHosts vlan now resolveAll jitter sends =>
      obtain ⟨_, result⟩ := Option.ite_none_right_eq_some.mp taken
      cases result
      exact .resolveExpireHosts resolves
  | _ => exact resolves.elim

/-- **A run of resolutions** keeps the routes for the destination, and makes none. -/
theorem spares_of_exec (resolves : TransitionSystem.Allowed manager.step (Resolves ipDst) s events)
    (runs : exec manager.step s events = some next) : Spares manager ipDst s next := by
  induction events generalizing s with
  | nil =>
      cases runs
      exact .refl
  | cons event rest ih =>
      obtain ⟨middle, taken, runs⟩ := Option.bind_eq_some_iff.mp runs
      obtain ⟨first, later⟩ := resolves
      rw [taken] at later
      exact (spares_of_step first taken).trans (ih later runs)

/-- The routes for the destination after the add. -/
theorem addRoute_rib (added : manager.step s (.addRoute vlan ipGw ipDst) = some next) (other : Vid) :
    (next.vlans other).routes.dynRoutesByIpv manager.ipv ipDst =
      if manager.routerVlanForIpGw vlan ipGw = some other then some ipGw
      else (s.vlans other).routes.dynRoutesByIpv manager.ipv ipDst := by
  obtain ⟨⟨version, _⟩, result⟩ := Option.ite_none_right_eq_some.mp added
  cases result
  rw [RouteManager.addRoute, RouteManager.outcome]
  cases found : manager.routerVlanForIpGw vlan ipGw with
  | none => simp
  | some target =>
      dsimp only
      by_cases known : (s.vlans target).routes.dynRoutesByIpv manager.ipv ipDst = some ipGw
      · rw [if_pos known]
        split
        next same =>
          cases same
          exact known
        next => rfl
      · rw [if_neg known]
        by_cases same : target = other
        · subst same
          dsimp only
          rw [Function.update_self, if_pos rfl, Routes.addRoute_routes, if_pos version.symm,
            Function.update_self]
        · dsimp only
          rw [Function.update_of_ne (Ne.symm same), if_neg (by simpa using same)]

/-- Without a VLAN for the gateway nothing is added. -/
theorem addRoute_of_none (notFound : manager.routerVlanForIpGw vlan ipGw = none)
    (added : manager.step s (.addRoute vlan ipGw ipDst) = some next) : next = s := by
  obtain ⟨_, result⟩ := Option.ite_none_right_eq_some.mp added
  cases result
  rw [RouteManager.addRoute, notFound]
  rfl

/-- The routes for the destination after the delete, in the other VLANs. -/
theorem delRoute_rib_of_ne (deleted : manager.step s (.delRoute vlan ipDst) = some next)
    {other : Vid} (different : other ≠ vlan) :
    (next.vlans other).routes.dynRoutesByIpv manager.ipv ipDst =
      (s.vlans other).routes.dynRoutesByIpv manager.ipv ipDst := by
  obtain ⟨_, result⟩ := Option.ite_none_right_eq_some.mp deleted
  cases result
  rw [RouteManager.delRoute, RouteManager.outcome]
  split
  next => rfl
  next => simp [different]

/-- The route is taken from the VLAN that is named. -/
theorem delRoute_rib (deleted : manager.step s (.delRoute vlan ipDst) = some next) :
    (next.vlans vlan).routes.dynRoutesByIpv manager.ipv ipDst = none := by
  obtain ⟨version, result⟩ := Option.ite_none_right_eq_some.mp deleted
  cases result
  rw [RouteManager.delRoute, RouteManager.outcome]
  split
  next missing => exact missing
  next gw routed =>
    dsimp only
    rw [Function.update_self, Routes.delRoute, version, routed, Option.getD_some,
      Routes.updateGwTypes_routes]
    simp [Routes.setGw, Routes.setRoute]

/-- With the route go its flows. -/
theorem delRoute_fib (routed : (s.vlans vlan).routes.dynRoutesByIpv manager.ipv ipDst ≠ none)
    (deleted : manager.step s (.delRoute vlan ipDst) = some next) :
    ∀ routedVlan ∈ manager.routedVlans vlan, next.fib (routedVlan, ipDst) = none := by
  obtain ⟨_, result⟩ := Option.ite_none_right_eq_some.mp deleted
  cases result
  intro routedVlan member
  rw [RouteManager.delRoute, RouteManager.outcome]
  split
  next missing => exact absurd missing routed
  next =>
    rw [applyAll_delRouteFlows]
    exact if_pos ⟨member, List.mem_singleton_self _⟩

theorem delRoute_of_none (missing : (s.vlans vlan).routes.dynRoutesByIpv manager.ipv ipDst = none)
    (deleted : manager.step s (.delRoute vlan ipDst) = some next) : next = s := by
  obtain ⟨_, result⟩ := Option.ite_none_right_eq_some.mp deleted
  cases result
  rw [RouteManager.delRoute, missing]
  rfl

/-- The VLAN of a gateway is one of the router. -/
theorem mem_routerVlans (mapped : MapsToOwn manager) {target : Vid}
    (found : manager.routerVlanForIpGw vlan ipGw = some target) :
    target ∈ routerVlans manager vlan := by
  rw [RouteManager.routerVlanForIpGw] at found
  rw [routerVlans]
  cases ofVlan : manager.routerForVlan vlan with
  | some router =>
      rw [ofVlan] at found
      obtain ⟨⟨_, faucetVip⟩, mapsTo, rfl⟩ := Option.map_eq_some_iff.mp found
      exact mapped router (List.mem_of_find?_eq_some ofVlan) _ _ _ mapsTo
  | none =>
      rw [ofVlan] at found
      obtain ⟨_, same⟩ := Option.ite_none_right_eq_some.mp found
      cases same
      exact List.mem_singleton_self _

variable {added resolved withdrawn : State}

/-- **A withdrawal undoes the add** just when the gateway is in the VLAN that it names, and
no other VLAN of the router has had a route for the destination. -/
theorem withdrawn_iff (mapped : MapsToOwn manager)
    (start : (manager.routerVlanForIpGw vlan ipGw).isSome ∨ Unrouted manager ipDst s)
    (adds : manager.step s (.addRoute vlan ipGw ipDst) = some added)
    (resolves : TransitionSystem.Allowed manager.step (Resolves ipDst) added events)
    (runs : exec manager.step added events = some resolved)
    (deletes : manager.step resolved (.delRoute vlan ipDst) = some withdrawn) :
    Withdrawn manager vlan ipDst withdrawn ↔
      (∀ target, manager.routerVlanForIpGw vlan ipGw = some target → target = vlan) ∧
        ∀ other ∈ routerVlans manager vlan, other ≠ vlan →
          (s.vlans other).routes.dynRoutesByIpv manager.ipv ipDst = none := by
  have spares := spares_of_exec resolves runs
  have routes : ∀ other, (resolved.vlans other).routes.dynRoutesByIpv manager.ipv ipDst =
      if manager.routerVlanForIpGw vlan ipGw = some other then some ipGw
      else (s.vlans other).routes.dynRoutesByIpv manager.ipv ipDst :=
    fun other => (spares.rib other).trans (addRoute_rib adds other)
  constructor
  · intro gone
    have left : ∀ other ∈ routerVlans manager vlan, other ≠ vlan →
        (if manager.routerVlanForIpGw vlan ipGw = some other then some ipGw
          else (s.vlans other).routes.dynRoutesByIpv manager.ipv ipDst) = none := by
      intro other member different
      rw [← routes, ← delRoute_rib_of_ne deletes different]
      exact gone.rib other member
    refine ⟨fun target found => ?_, fun other member different => ?_⟩
    · by_contra different
      have none_left := left target (mem_routerVlans mapped found) different
      rw [if_pos found] at none_left
      cases none_left
    · have none_left := left other member different
      split at none_left
      next => cases none_left
      next => exact none_left
  · rintro ⟨own, others⟩
    refine ⟨fun other member => ?_, ?_⟩
    · by_cases same : other = vlan
      · subst same
        exact delRoute_rib deletes
      · rw [delRoute_rib_of_ne deletes same, routes, if_neg fun found => same (own other found)]
        exact others other member same
    · cases found : manager.routerVlanForIpGw vlan ipGw with
      | none =>
          have unrouted : Unrouted manager ipDst s := by
            rw [found] at start
            exact start.resolve_left nofun
          cases addRoute_of_none found adds
          have after := spares.unrouted unrouted
          cases delRoute_of_none (after.rib vlan) deletes
          exact fun routedVlan _ => after.fib routedVlan
      | some target =>
          cases own target found
          refine delRoute_fib ?_ deletes
          rw [routes, if_pos found]
          nofun

end Runs

/-! ## Two VLANs of a router -/

/-- `10.0.1.n` -/
def otherGateway (n : Fin 256) : IpAddress where
  version := .v4
  value := 167772416 + n
  inRange := by
    have bound := n.isLt
    change _ < 2 ^ 32
    omega

/-- `10.0.0.254/24` on VLAN 100 and `10.0.1.254/24` on VLAN 200. -/
def campusVip (vlan : Vid) : IpInterface :=
  if vlan = 100 then ⟨Routes.labGateway 254,
    ⟨Routes.labGateway 0, 24, Routes.labGateway_prefix, Routes.labGateway_aligned⟩⟩
  else ⟨otherGateway 254, ⟨otherGateway 0, 24, by decide, by decide⟩⟩

/-- The two VLANs in one router, without static routes. -/
def campus : RouteManager :=
  { lab with
    routers :=
      [{ vlans := [100, 200]
         vipMap := fun ipa => ([100, 200].find? fun vlan => (campusVip vlan).network.contains ipa).map
          fun vlan => (vlan, campusVip vlan) }]
    vlans := [100, 200]
    vlan := fun vlan => { lab.vlan vlan with faucetVips := [campusVip vlan], routes := [] }
    portVlans := fun port => if port = 1 then [100] else [200] }

theorem campus_mapsToOwn : MapsToOwn campus := by
  intro router member ipa vlan faucetVip mapsTo
  cases List.mem_singleton.mp member
  obtain ⟨_, found, same⟩ := Option.map_eq_some_iff.mp mapsTo
  cases same
  exact List.mem_of_find?_eq_some found

/-- The state after some events. -/
def campusAfter (events : List Event) : State :=
  (exec campus.step campus.initial events).getD campus.initial

/-- A neighbour at port 1 answers. -/
def campusReply (ipGw : IpAddress) : Event :=
  .gwAdvert ⟨100, 1, 0x0e0000000002, ipGw, Routes.labGateway 254, false⟩ ipGw 10

theorem withdrawn_iff_campus :
    Withdrawn campus 100 Routes.labNetwork (campusAfter
      [.addRoute 100 (Routes.labGateway 1) Routes.labNetwork, campusReply (Routes.labGateway 1),
        .delRoute 100 Routes.labNetwork]) := by
  have own : ∀ target, campus.routerVlanForIpGw 100 (Routes.labGateway 1) = some target →
      target = 100 := by
    intro target found
    exact (Option.some.inj found).symm
  have resolves : TransitionSystem.Allowed campus.step (Resolves Routes.labNetwork)
      (campusAfter [.addRoute 100 (Routes.labGateway 1) Routes.labNetwork])
      [campusReply (Routes.labGateway 1)] := ⟨trivial, trivial⟩
  exact (withdrawn_iff campus_mapsToOwn (.inl rfl) rfl resolves rfl rfl).mpr
    ⟨own, fun _ _ _ => rfl⟩

/-- The gateway is in the other VLAN of the router. -/
theorem not_withdrawn_campus :
    ¬ Withdrawn campus 100 Routes.labNetwork (campusAfter
      [.addRoute 100 (otherGateway 1) Routes.labNetwork,
        .gwAdvert ⟨200, 2, 0x0e0000000002, otherGateway 1, otherGateway 254, false⟩ (otherGateway 1) 10,
        .delRoute 100 Routes.labNetwork]) := by
  intro gone
  have route := gone.rib 200 (by decide)
  cases route

end Faucet.Route
