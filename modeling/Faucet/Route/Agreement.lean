import Faucet.Route.Expiry

/-!
# Routes and flows along a run

The `fib` table is written step by step, by whatever changes a route or the MAC
address of a gateway, and is right as long as nobody takes back a MAC address or a
route without its flows. The steps that do are left out by `Allowed`: a route that
replaces the gateway of its destination, the resolution of an address that is in use,
the expiry of an address whose own route goes elsewhere, and the controller's own
flows for the destination of a route.
-/

set_option autoImplicit false

namespace Faucet.Route

open Vlan SharedView TransitionSystem

variable {manager : RouteManager} {vlans vlans' : Vlans} {fib : Fib} {vlan other : Vid}
  {ipGw ipGw' : IpAddress} {ipDst : IpNetwork}

/-! ## The controller's own flows -/

theorem mem_addVlan {coldStart : Bool} {ofmsg : FibMod} (member : ofmsg ∈ manager.addVlan vlan coldStart) :
    ∃ vid ipDst, ofmsg = .flowmod vid ipDst .toVip := by
  have singleton : ∀ {vid : Vid} {ipDst : IpNetwork}, ofmsg ∈ [FibMod.flowmod vid ipDst .toVip] →
      ∃ vid ipDst, ofmsg = .flowmod vid ipDst .toVip :=
    fun member => ⟨_, _, List.mem_singleton.mp member⟩
  unfold RouteManager.addVlan at member
  dsimp only at member
  cases List.mem_append.mp member with
  | inl own =>
      obtain ⟨faucetVip, _, own⟩ := List.mem_flatMap.mp own
      cases List.mem_append.mp own with
      | inl early =>
          cases List.mem_append.mp early with
          | inl host => exact singleton host
          | inr connected =>
              split at connected
              · obtain ⟨routedVlan, _, rfl⟩ := List.mem_map.mp connected
                exact ⟨_, _, rfl⟩
              · cases connected
      | inr last =>
          split at last
          · cases last
          · exact singleton last
  | inr others =>
      split at others
      · cases others
      · obtain ⟨routedVlan, _, others⟩ := List.mem_flatMap.mp others
        obtain ⟨faucetVip, _, others⟩ := List.mem_flatMap.mp others
        split at others
        · exact singleton others
        · cases others

/-- Flows that rewrite nothing, written where nothing is rewritten. -/
theorem rewrites_applyAll {ofmsgs : List FibMod}
    (harmless : ∀ ofmsg ∈ ofmsgs, ∃ vid ipDst, ofmsg = .flowmod vid ipDst .toVip ∧
      rewrites (fib (vid, ipDst)) = none) (key : Vid × IpNetwork) :
    rewrites (applyAll ofmsgs fib key) = rewrites (fib key) := by
  induction ofmsgs generalizing fib with
  | nil => rfl
  | cons ofmsg rest ih =>
      obtain ⟨vid, ipDst, rfl, free⟩ := harmless ofmsg List.mem_cons_self
      have first : ∀ key, rewrites ((FibMod.flowmod vid ipDst .toVip).apply fib key) =
          rewrites (fib key) := by
        intro key
        by_cases here : key = (vid, ipDst)
        · rw [here, free, FibMod.apply, Function.update_self]
          rfl
        · rw [FibMod.apply, Function.update_of_ne here]
      rw [applyAll, List.foldl_cons]
      refine (ih fun ofmsg later => ?_).trans (first key)
      obtain ⟨vid', ipDst', rfl, free'⟩ := harmless ofmsg (List.mem_cons_of_mem _ later)
      exact ⟨vid', ipDst', rfl, (first _).trans free'⟩

theorem rewrites_coldFib (key : Vid × IpNetwork) : rewrites (manager.coldFib key) = none := by
  unfold RouteManager.coldFib
  rw [rewrites_applyAll]
  · rfl
  · intro ofmsg member
    obtain ⟨vlan, _, member⟩ := List.mem_flatMap.mp member
    obtain ⟨vid, ipDst, rfl⟩ := mem_addVlan member
    exact ⟨vid, ipDst, rfl, rfl⟩

/-- The controller's own flows for a VLAN overwrite no flow of a route. -/
def VipsFree (manager : RouteManager) (fib : Fib) (vlan : Vid) : Prop :=
  ∀ vid ipDst, .flowmod vid ipDst .toVip ∈ manager.addVlan vlan false →
    rewrites (fib (vid, ipDst)) = none

/-- **VLANs are added again**, as when a port comes up. -/
theorem Consistent.addVlans (consistent : Consistent manager vlans fib) {added : List Vid}
    (free : ∀ vlan ∈ added, VipsFree manager fib vlan) :
    Consistent manager vlans (applyAll (added.flatMap fun vlan => manager.addVlan vlan false) fib) := by
  apply consistent.congrFib
  apply rewrites_applyAll
  intro ofmsg member
  obtain ⟨vlan, listed, member⟩ := List.mem_flatMap.mp member
  obtain ⟨vid, ipDst, rfl⟩ := mem_addVlan member
  exact ⟨vid, ipDst, rfl, free vlan listed vid ipDst member⟩

/-- Nothing is resolved and no flow rewrites anything. -/
theorem shows_cold (uncached : ∀ vlan ipGw, (vlans vlan).cachedNexthopEthDst ipGw = none) :
    Shows (Owns manager) (wanted manager vlans) fun key => rewrites (manager.coldFib key) := by
  intro key actions
  dsimp only
  rw [rewrites_coldFib]
  constructor
  · exact nofun
  · intro asked
    obtain ⟨vlan, _, want⟩ := asked
    obtain ⟨ethDst, isResolved, _⟩ := Option.map_eq_some_iff.mp want
    obtain ⟨ipGw, _, cached⟩ := resolved_eq_some.mp isResolved
    cases (uncached vlan ipGw).symm.trans cached

/-- **The switch connects again** and starts cold. -/
theorem Consistent.reconnect (consistent : Consistent manager vlans fib) (ports : List ℕ) :
    Consistent manager (fun vlan => RouteManager.resetCaches (manager.disconnect vlans ports vlan))
      manager.coldFib := by
  obtain ⟨_, disconnected⟩ := consistent.disconnect ports
  exact {
    indexed := disconnected.indexed
    dstVersion := disconnected.dstVersion
    noPort := fun _ _ _ cached => by cases cached
    alone := disconnected.alone
    shows' := shows_cold fun _ _ => rfl }

/-! ## Static routes -/

/-- The static routes: a gateway is of its destination's version, and a destination has
one gateway among the VLANs that are routed together. -/
structure StaticRoutes (manager : RouteManager) : Prop where
  version : ∀ vlan, ∀ route ∈ (manager.vlan vlan).routes, route.1.version = route.2.version
  unclaimed : ∀ vlan other, Shares manager vlan other → ∀ route ∈ (manager.vlan vlan).routes,
    ∀ route' ∈ (manager.vlan other).routes, route.1 = route'.1 → vlan = other ∧ route.2 = route'.2

/-- The tables hold routes of the list only. -/
theorem foldl_addRoute {all rest : List (IpNetwork × IpAddress)} {routes : Routes}
    (version : ∀ route ∈ all, route.1.version = route.2.version)
    (unclaimed : ∀ route ∈ all, ∀ route' ∈ all, route.1 = route'.1 → route.2 = route'.2)
    (listed : ∀ route ∈ rest, route ∈ all) (indexed : routes.Indexed)
    (held : ∀ v ipDst ipGw, routes.dynRoutesByIpv v ipDst = some ipGw →
      (ipDst, ipGw) ∈ all ∧ ipDst.version = v) :
    (rest.foldl (fun routes route => routes.addRoute route.1 route.2) routes).Indexed ∧
      ∀ v ipDst ipGw, (rest.foldl (fun routes route => routes.addRoute route.1 route.2)
        routes).dynRoutesByIpv v ipDst = some ipGw → (ipDst, ipGw) ∈ all ∧ ipDst.version = v := by
  induction rest generalizing routes with
  | nil => exact ⟨indexed, held⟩
  | cons route rest ih =>
      have member := listed route List.mem_cons_self
      apply ih (fun route later => listed route (List.mem_cons_of_mem _ later))
      · apply indexed.addRoute
        intro old routed
        exact unclaimed _ (held _ _ _ routed).1 route member rfl
      · intro v ipDst ipGw routed
        rw [Routes.addRoute_routes] at routed
        split at routed
        next same =>
          by_cases here : ipDst = route.1
          · rw [here, Function.update_self] at routed
            cases routed
            rw [here]
            exact ⟨member, (version route member).trans same.symm⟩
          · rw [Function.update_of_ne here] at routed
            exact held v ipDst ipGw routed
        next => exact held v ipDst ipGw routed

theorem initial_indexed : Routes.initial.Indexed :=
  ⟨Routes.initial_wellFormed, Routes.initial_routesAgree.inverse⟩

theorem initial_consistent (static : StaticRoutes manager) :
    Consistent manager manager.initial.vlans manager.initial.fib := by
  have tables : ∀ vlan, (manager.initial.vlans vlan).routes.Indexed ∧ ∀ v ipDst ipGw,
      (manager.initial.vlans vlan).routes.dynRoutesByIpv v ipDst = some ipGw →
        (ipDst, ipGw) ∈ (manager.vlan vlan).routes ∧ ipDst.version = v := by
    intro vlan
    apply foldl_addRoute (static.version vlan)
    · exact fun route member route' member' same =>
        (static.unclaimed vlan vlan shares_self route member route' member' same).2
    · exact fun _ => id
    · exact initial_indexed
    · intros; contradiction
  exact {
    indexed := fun vlan => (tables vlan).1
    dstVersion := fun vlan v ipDst ipGw routed => ((tables vlan).2 v ipDst ipGw routed).2
    noPort := fun _ _ _ cached => by cases cached
    alone := fun vlan other shares ipDst ipGw ipGw' routed routed' =>
      (static.unclaimed vlan other shares _ ((tables vlan).2 _ _ _ routed).1 _
        ((tables other).2 _ _ _ routed').1 rfl).1
    shows' := shows_cold fun _ _ => rfl }

/-! ## Runs -/

/-- The steps that take back no MAC address and no route without its flows. -/
def Allowed (manager : RouteManager) (s : State) : Event → Prop
  | .addRoute vlan ipGw ipDst => ∀ target, manager.routerVlanForIpGw vlan ipGw = some target →
      Unclaimed manager s.vlans target ipGw ipDst
  | .resolveVipResponse pkt _ _ => SenderUnclaimed manager s.vlans pkt
  | .addHostFibRouteFromPkt pkt _ => SenderUnclaimed manager s.vlans pkt
  | .proactiveResolveNeighbor pkt now _ _ => ∀ vlan, manager.neighborVlan s.vlans pkt = some vlan →
      SenderUnclaimed manager s.vlans pkt ∧
        ResolutionAllowed manager (manager.addHostFibRouteFromPkt s.vlans pkt now).1 vlan pkt.l3Dst
  | .resolveExpireHosts vlan now resolveAll _ _ =>
      ∀ ipGw ∈ expiringGws s.vlans vlan resolveAll, Silent manager s.vlans vlan now ipGw
  | .addVlans vlans => ∀ vlan ∈ vlans, VipsFree manager s.fib vlan
  | _ => True

/-- One event. -/
theorem step_consistent {s next : State} {event : Event} (consistent : Consistent manager s.vlans s.fib)
    (allowed : Allowed manager s event) (taken : manager.step s event = some next) :
    Consistent manager next.vlans next.fib := by
  cases event with
  | addRoute vlan ipGw ipDst =>
      obtain ⟨versions, result⟩ := Option.ite_none_right_eq_some.mp taken
      cases result
      exact consistent.addRoute versions.1 versions.2 allowed
  | delRoute vlan ipDst =>
      obtain ⟨_, result⟩ := Option.ite_none_right_eq_some.mp taken
      cases result
      exact consistent.delRoute
  | resolveVipResponse pkt solicitedIp now =>
      obtain ⟨version, result⟩ := Option.ite_none_right_eq_some.mp taken
      cases result
      exact consistent.resolveVipResponse version allowed
  | gwAdvert pkt targetIp now =>
      obtain ⟨version, result⟩ := Option.ite_none_right_eq_some.mp taken
      cases result
      exact consistent.gwAdvert version
  | addHostFibRouteFromPkt pkt now =>
      obtain ⟨version, result⟩ := Option.ite_none_right_eq_some.mp taken
      cases result
      exact consistent.addHostFibRouteFromPkt version allowed
  | proactiveResolveNeighbor pkt now jitter sends =>
      obtain ⟨versions, result⟩ := Option.ite_none_right_eq_some.mp taken
      cases result
      exact consistent.proactiveResolveNeighbor versions.1 versions.2
        (fun vlan found => (allowed vlan found).1) (fun vlan found => (allowed vlan found).2) jitter sends
  | resolveGateways vlan now resolveAll jitter sends =>
      obtain ⟨_, result⟩ := Option.ite_none_right_eq_some.mp taken
      cases result
      exact consistent.resolveGateways resolveAll jitter sends
  | resolveExpireHosts vlan now resolveAll jitter sends =>
      obtain ⟨returned, result⟩ := Option.ite_none_right_eq_some.mp taken
      cases result
      refine consistent.resolveExpireHosts (fun ipGws listed => ?_) allowed jitter sends
      cases listed
      exact (of_decide_eq_true returned).1
  | portDown port =>
      cases taken
      exact consistent.expirePortNexthops port _
  | addVlans vlans =>
      cases taken
      exact consistent.addVlans allowed
  | reconnect ports =>
      cases taken
      exact consistent.reconnect ports

/-- **Along every run of allowed steps** the routes and the flows agree. -/
theorem ribFibAgree_of_allowed (static : StaticRoutes manager) {s : State}
    (reaches : Reaches manager.step (Allowed manager) manager.initial s) : RibFibAgree manager s := by
  have consistent := reaches.invariant (fun s => Consistent manager s.vlans s.fib)
    (initial_consistent static) step_consistent
  exact consistent.ribFibAgree

/-- One VLAN `10.0.0.0/24` with a static route. -/
def lab : RouteManager where
  ipv := .v4
  globalVlan := 0
  routers := []
  vlans := [100]
  vlan _ :=
    { faucetMac := 0x0e0000000001
      faucetVips := [⟨Routes.labGateway 254, ⟨Routes.labGateway 0, 24, Routes.labGateway_prefix,
        Routes.labGateway_aligned⟩⟩]
      proactiveLimit := none
      routes := [(Routes.labNetwork, Routes.labGateway 1)] }
  portVlans _ := [100]
  decTtl := true
  proactiveLearn := true
  neighborTimeout := 30
  maxHostFibRetryCount := 10
  maxResolveBackoffTime := 64
  maxHostsPerResolveCycle := 5

/-- The gateway of the static route answers. -/
def labReply : Event :=
  .gwAdvert ⟨100, 1, 0x0e0000000002, Routes.labGateway 1, Routes.labGateway 254, false⟩
    (Routes.labGateway 1) 10

theorem routedVlans_lab (vlan : Vid) : lab.routedVlans vlan = [vlan] := rfl

theorem lab_staticRoutes : StaticRoutes lab := by
  constructor
  · intro vlan route listed
    cases List.mem_singleton.mp listed
    rfl
  · intro vlan other shares route listed route' listed' _
    obtain ⟨vid, own, own'⟩ := shares
    rw [routedVlans_lab] at own own'
    cases List.mem_singleton.mp listed
    cases List.mem_singleton.mp listed'
    exact ⟨(List.mem_singleton.mp own).symm.trans (List.mem_singleton.mp own'), rfl⟩

/-- The state after some events. -/
def labAfter (events : List Event) : State := (exec lab.step lab.initial events).getD lab.initial

/-- A neighbour sends a packet, and its address gets a route of its own. -/
def labNeighbor : Event :=
  .addHostFibRouteFromPkt ⟨100, 3, 0x0e0000000003, Routes.labGateway 3, Routes.labGateway 7, true⟩ 10

/-- The gateway of the static route gets the route to `10.0.0.9` as well. -/
def labAdded : Event := .addRoute 100 (Routes.labGateway 1) (.ofHost (Routes.labGateway 9))

/-- A destination without a route in the VLAN is unclaimed. -/
theorem unclaimed_lab {vlans : Vlans} {target : Vid} {ipGw : IpAddress} {ipDst : IpNetwork}
    (own : lab.routerVlanForIpGw 100 ipGw = some 100)
    (unrouted : (vlans 100).routes.dynRoutesByIpv .v4 ipDst = none)
    (found : lab.routerVlanForIpGw 100 ipGw = some target) :
    Unclaimed lab vlans target ipGw ipDst := by
  cases own.symm.trans found
  intro other shares old routed
  obtain ⟨vid, listed, listed'⟩ := shares
  rw [routedVlans_lab] at listed listed'
  cases List.mem_singleton.mp listed
  cases List.mem_singleton.mp listed'
  cases unrouted.symm.trans routed

theorem ribFibAgree_of_allowed_lab : RibFibAgree lab (labAfter [labReply, labNeighbor, labAdded]) ∧
    (labAfter [labReply, labNeighbor, labAdded]).fib (100, .ofHost (Routes.labGateway 9)) =
      some (.forward (lab.nexthopActions 0x0e0000000002 100)) ∧
    (labAfter [labReply, labNeighbor, labAdded]).fib (100, .ofHost (Routes.labGateway 3)) =
      some (.forward (lab.nexthopActions 0x0e0000000003 100)) := by
  have executed : exec lab.step lab.initial [labReply, labNeighbor, labAdded] =
      some (labAfter [labReply, labNeighbor, labAdded]) := rfl
  have allowed : TransitionSystem.Allowed lab.step (Allowed lab) lab.initial
      [labReply, labNeighbor, labAdded] :=
    ⟨trivial, fun _ _ => unclaimed_lab (by decide) (by decide),
      fun _ => unclaimed_lab (by decide) (by decide), trivial⟩
  exact ⟨ribFibAgree_of_allowed lab_staticRoutes (.of_exec _ allowed executed), by decide, by decide⟩

/-- The gateway answers and another one takes its place. -/
def labReplaced : List Event :=
  [labReply, .addRoute 100 (Routes.labGateway 2) Routes.labNetwork]

/-- A flow keeps the MAC address of a gateway that another one has replaced. -/
theorem not_ribFibAgree_of_replaced :
    ¬ ∀ manager : RouteManager, StaticRoutes manager → ∀ s,
      Reaches manager.step anyStep manager.initial s → RibFibAgree manager s := by
  intro always
  have agree := always lab lab_staticRoutes (labAfter labReplaced)
    (.of_exec labReplaced (allowed_anyStep _ _) rfl)
  obtain ⟨vlan, ipGw, ethDst, own, routed, cached, _⟩ := (agree 100 Routes.labNetwork
    (lab.nexthopActions 0x0e0000000002 100)).mp (by decide)
  rw [routedVlans_lab] at own
  cases List.mem_singleton.mp own
  have unresolved : resolved lab (labAfter labReplaced).vlans 100 Routes.labNetwork = none := by decide
  cases unresolved.symm.trans (resolved_eq_some.mpr ⟨ipGw, routed, cached⟩)

end Faucet.Route
