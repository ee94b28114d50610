import Faucet.Route.Wanted

/-!
# Routes and MAC addresses change

What adds and deletes a route and what learns the MAC address of a gateway writes the
flows that the routes then ask for. A route must not take the place of another one,
whose gateway would still list the destination. The resolution of an address takes
back its MAC address without the flows, so that nothing but its own route may need it.
-/

set_option autoImplicit false

namespace Faucet.Route

open Vlan SharedView

variable {manager : RouteManager} {vlans vlans' : Vlans} {fib : Fib} {vlan other : Vid}
  {ipGw ipGw' : IpAddress} {ipDst : IpNetwork}

/-! ## Routes -/

/-- No VLAN that shares the flows of this one has another gateway for the destination. -/
def Unclaimed (manager : RouteManager) (vlans : Vlans) (vlan : Vid) (ipGw : IpAddress)
    (ipDst : IpNetwork) : Prop :=
  ∀ other, Shares manager vlan other → ∀ old,
    (vlans other).routes.dynRoutesByIpv manager.ipv ipDst = some old → other = vlan ∧ old = ipGw

theorem shares_self : Shares manager vlan vlan := by
  unfold Shares RouteManager.routedVlans
  split
  · exact ⟨_, List.mem_singleton_self _, List.mem_singleton_self _⟩
  · exact ⟨vlan, List.mem_dedup.mpr List.mem_cons_self, List.mem_dedup.mpr List.mem_cons_self⟩

/-- **A route is added** that replaces none. -/
theorem Consistent.addRoute (consistent : Consistent manager vlans fib)
    (gwVersion : ipGw.version = manager.ipv) (dstVersion : ipDst.version = manager.ipv)
    (unclaimed : ∀ target, manager.routerVlanForIpGw vlan ipGw = some target →
      Unclaimed manager vlans target ipGw ipDst) :
    Consistent manager (manager.addRoute vlans vlan ipGw ipDst).1
      (applyAll (manager.addRoute vlans vlan ipGw ipDst).2 fib) := by
  unfold RouteManager.addRoute
  cases found : manager.routerVlanForIpGw vlan ipGw with
  | none => exact consistent
  | some target =>
      have free := unclaimed target found
      dsimp only
      split
      next => exact consistent
      next absent =>
        -- The destination has no route, as one to another gateway would be replaced.
        have noRoute : (vlans target).routes.dynRoutesByIpv manager.ipv ipDst = none := by
          cases routed : (vlans target).routes.dynRoutesByIpv manager.ipv ipDst with
          | none => rfl
          | some old =>
              obtain ⟨_, rfl⟩ := free target shares_self old routed
              exact absurd routed absent
        have noRouteElsewhere : ∀ other, other ≠ target → Shares manager target other →
            (vlans other).routes.dynRoutesByIpv manager.ipv ipDst = none := by
          intro other different shares
          cases routed : (vlans other).routes.dynRoutesByIpv manager.ipv ipDst with
          | none => rfl
          | some old => exact absurd (free other shares old routed).1 different
        have routes : ((vlans target).routes.addRoute ipDst ipGw).dynRoutesByIpv manager.ipv =
            Function.update ((vlans target).routes.dynRoutesByIpv manager.ipv) ipDst (some ipGw) := by
          rw [Routes.addRoute_routes, if_pos gwVersion.symm]
        apply consistent.setRoutes
        · apply (consistent.indexed target).addRoute
          intro old routed
          rw [gwVersion, noRoute] at routed
          cases routed
        · intro v dst gw routed
          rw [Routes.addRoute_routes] at routed
          split at routed
          next same =>
            by_cases here : dst = ipDst
            · rw [here, dstVersion, same, gwVersion]
            · rw [Function.update_of_ne here] at routed
              exact consistent.dstVersion target v dst gw routed
          next => exact consistent.dstVersion target v dst gw routed
        · intro other different shares dst gw routed
          rw [routes] at routed
          by_cases here : dst = ipDst
          · rw [here]
            exact noRouteElsewhere other different shares
          · rw [Function.update_of_ne here] at routed
            cases routed' : (vlans other).routes.dynRoutesByIpv manager.ipv dst with
            | none => rfl
            | some gw' =>
                exact absurd (consistent.alone target other shares dst gw gw' routed routed').symm
                  different
        · have after : ∀ dst, resolved manager (Function.update vlans target
              { vlans target with routes := (vlans target).routes.addRoute ipDst ipGw }) target dst =
              if dst = ipDst then (vlans target).cachedNexthopEthDst ipGw
              else resolved manager vlans target dst := by
            intro dst
            rw [resolved_setRoutes, routes]
            by_cases here : dst = ipDst
            · rw [here, Function.update_self, if_pos rfl]
              rfl
            · rw [Function.update_of_ne here, if_neg here]
              rfl
          cases cached : (vlans target).cachedNexthopEthDst ipGw with
          | none =>
              refine consistent.shows'.congr (wanted_update fun dst => ?_) rfl
              rw [after, cached]
              split
              next here => rw [here, resolved, noRoute, Option.bind_none]
              next => rfl
          | some ethDst =>
              dsimp only
              rw [applyAll_addResolvedRoute]
              apply shows_overwrite consistent.shows'
              · intro dst notListed
                rw [after, if_neg fun here => notListed (List.mem_singleton.mpr here)]
              · intro dst listed
                rw [after, if_pos (List.mem_singleton.mp listed), cached]
                rfl
              · intro dst listed other different shares
                rw [List.mem_singleton.mp listed, resolved, noRouteElsewhere other different shares,
                  Option.bind_none]

/-- **A route is deleted** with its flows. -/
theorem Consistent.delRoute (consistent : Consistent manager vlans fib) :
    Consistent manager (manager.delRoute vlans vlan ipDst).1
      (applyAll (manager.delRoute vlans vlan ipDst).2 fib) := by
  unfold RouteManager.delRoute
  dsimp only
  split
  next => exact consistent
  next old routed =>
    have version := consistent.dstVersion vlan manager.ipv ipDst old routed
    obtain ⟨after, deleted, indexed, afterRoutes⟩ :=
      (consistent.indexed vlan).delRoute (by rwa [version])
    have routes : after.dynRoutesByIpv manager.ipv =
        Function.update ((vlans vlan).routes.dynRoutesByIpv manager.ipv) ipDst none := by
      rw [afterRoutes, if_pos version.symm]
    have earlier : ∀ v dst gw, after.dynRoutesByIpv v dst = some gw →
        (vlans vlan).routes.dynRoutesByIpv v dst = some gw := by
      intro v dst gw routed'
      rw [afterRoutes] at routed'
      split at routed'
      next =>
        by_cases here : dst = ipDst
        · rw [here, Function.update_self] at routed'
          cases routed'
        · rwa [Function.update_of_ne here] at routed'
      next => exact routed'
    rw [deleted, Option.getD_some, applyAll_delRouteFlows]
    apply consistent.setRoutes indexed
    · exact fun v dst gw routed' => consistent.dstVersion vlan v dst gw (earlier v dst gw routed')
    · intro other different shares dst gw routed'
      cases routedOther : (vlans other).routes.dynRoutesByIpv manager.ipv dst with
      | none => rfl
      | some gw' =>
          exact absurd (consistent.alone vlan other shares dst gw gw' (earlier _ dst gw routed')
            routedOther).symm different
    · apply shows_overwrite consistent.shows'
      · intro dst notListed
        rw [resolved_setRoutes, routes,
          Function.update_of_ne fun here => notListed (List.mem_singleton.mpr here)]
        rfl
      · intro dst listed
        rw [List.mem_singleton.mp listed, resolved_setRoutes, routes, Function.update_self]
        rfl
      · intro dst listed other different shares
        rw [List.mem_singleton.mp listed]
        exact consistent.unresolved_elsewhere routed different shares

/-! ## MAC addresses -/

theorem cached_updateNexthopCache {state : VlanState} {now : ℤ} {ethSrc : Option Mac}
    {port : Option ℕ} :
    (state.updateNexthopCache now ethSrc port ipGw).cachedNexthopEthDst ipGw' =
      if ipGw' = ipGw then ethSrc else state.cachedNexthopEthDst ipGw' := by
  unfold VlanState.cachedNexthopEthDst VlanState.updateNexthopCache
  rw [OrderedDict.lookup_set]
  split <;> rfl

theorem noPort_updateNexthopCache {state : VlanState} {now : ℤ} {ethSrc : Option Mac}
    {port : Option ℕ}
    (noPort : ∀ ipGw nexthop, state.neighCache.lookup ipGw = some nexthop →
      nexthop.port = none → nexthop.ethSrc = none)
    (portless : port = none → ethSrc = none) :
    ∀ other nexthop, (state.updateNexthopCache now ethSrc port ipGw).neighCache.lookup other =
      some nexthop → nexthop.port = none → nexthop.ethSrc = none := by
  intro other nexthop cached
  unfold VlanState.updateNexthopCache at cached
  rw [OrderedDict.lookup_set] at cached
  split at cached
  next =>
    cases cached
    exact portless
  next => exact noPort other nexthop cached

/-- **The MAC address of a gateway changes**, and the flows of its destinations with it. -/
theorem Consistent.updateNexthop (consistent : Consistent manager vlans fib)
    (gwVersion : ipGw.version = manager.ipv) (now : ℤ) (port : ℕ) (ethSrc : Mac) :
    Consistent manager (manager.updateNexthop vlans now vlan port ethSrc ipGw).1
      (applyAll (manager.updateNexthop vlans now vlan port ethSrc ipGw).2 fib) := by
  unfold RouteManager.updateNexthop
  dsimp only
  have routed : ∀ dst, dst ∈ (vlans vlan).routes.ipDstsForIpGw ipGw ↔
      (vlans vlan).routes.dynRoutesByIpv manager.ipv dst = some ipGw := by
    intro dst
    rw [Routes.mem_ipDstsForIpGw (consistent.indexed vlan), gwVersion]
  have after : ∀ dst, resolved manager (Function.update vlans vlan ((vlans vlan).updateNexthopCache
      now (some ethSrc) (some port) ipGw)) vlan dst =
      if dst ∈ (vlans vlan).routes.ipDstsForIpGw ipGw then some ethSrc
      else resolved manager vlans vlan dst := by
    intro dst
    have sameRoutes : ((vlans vlan).updateNexthopCache now (some ethSrc) (some port) ipGw).routes =
        (vlans vlan).routes := rfl
    rw [resolved_setCache sameRoutes, resolved]
    split
    next listed => rw [(routed dst).mp listed, Option.bind_some, cached_updateNexthopCache, if_pos rfl]
    next notListed =>
      cases routed' : (vlans vlan).routes.dynRoutesByIpv manager.ipv dst with
      | none => rfl
      | some gw =>
          have elsewhere : gw ≠ ipGw := by
            intro same
            rw [same] at routed'
            exact notListed ((routed dst).mpr routed')
          rw [Option.bind_some, Option.bind_some, cached_updateNexthopCache, if_neg elsewhere]
  refine consistent.setCache (by rfl) (noPort_updateNexthopCache (consistent.noPort vlan) (by simp)) ?_
  split
  next known =>
    refine consistent.shows'.congr (wanted_update fun dst => ?_) rfl
    rw [after]
    split
    next listed => rw [resolved, (routed dst).mp listed, Option.bind_some, known]
    next => rfl
  next =>
    rw [applyAll_flatMap fun dst fib => applyAll_addResolvedRoute vlan dst ethSrc _ fib]
    apply shows_overwrite consistent.shows'
    · intro dst notListed
      rw [after, if_neg notListed]
    · intro dst listed
      rw [after, if_pos listed]
      rfl
    · intro dst listed other different shares
      exact consistent.unresolved_elsewhere ((routed dst).mp listed) different shares

/-! ## Packets -/

theorem addHostFibRoute_false {hostIp : IpAddress} :
    manager.addHostFibRoute vlans vlan hostIp false =
      manager.addRoute vlans vlan hostIp (.ofHost hostIp) := rfl

/-- The own route of an address takes the place of no other. -/
def HostUnclaimed (manager : RouteManager) (vlans : Vlans) (vlan : Vid) (hostIp : IpAddress) : Prop :=
  ∀ target, manager.routerVlanForIpGw vlan hostIp = some target →
    Unclaimed manager vlans target hostIp (.ofHost hostIp)

theorem Consistent.learnNexthop (consistent : Consistent manager vlans fib) {pkt : Packet} {now : ℤ}
    (version : pkt.l3Src.version = manager.ipv)
    (unclaimed : HostUnclaimed manager vlans pkt.vlan pkt.l3Src) :
    Consistent manager (manager.learnNexthop vlans pkt now).1
      (applyAll (manager.learnNexthop vlans pkt now).2 fib) := by
  unfold RouteManager.learnNexthop
  dsimp only
  rw [addHostFibRoute_false, applyAll_append]
  have added : Consistent manager (manager.addRoute vlans pkt.vlan pkt.l3Src (.ofHost pkt.l3Src)).1
      (applyAll (manager.addRoute vlans pkt.vlan pkt.l3Src (.ofHost pkt.l3Src)).2 fib) :=
    consistent.addRoute version version unclaimed
  exact added.updateNexthop version now pkt.port pkt.ethSrc

/-- The sender of a packet can be learned as a next hop. -/
def SenderUnclaimed (manager : RouteManager) (vlans : Vlans) (pkt : Packet) : Prop :=
  manager.senderIsNeighbor vlans pkt = true → HostUnclaimed manager vlans pkt.vlan pkt.l3Src

/-- An answer to a neighbour. -/
theorem Consistent.resolveVipResponse (consistent : Consistent manager vlans fib) {pkt : Packet}
    {solicitedIp : IpAddress} {now : ℤ} (version : pkt.l3Src.version = manager.ipv)
    (unclaimed : SenderUnclaimed manager vlans pkt) :
    Consistent manager (manager.resolveVipResponse vlans pkt solicitedIp now).1
      (applyAll (manager.resolveVipResponse vlans pkt solicitedIp now).2 fib) := by
  unfold RouteManager.resolveVipResponse
  split
  next asks => exact consistent.learnNexthop version (unclaimed (Bool.and_eq_true_iff.mp asks).2)
  next => exact consistent

theorem Consistent.gwAdvert (consistent : Consistent manager vlans fib) {pkt : Packet}
    {targetIp : IpAddress} {now : ℤ} (version : targetIp.version = manager.ipv) :
    Consistent manager (manager.gwAdvert vlans pkt targetIp now).1
      (applyAll (manager.gwAdvert vlans pkt targetIp now).2 fib) := by
  unfold RouteManager.gwAdvert
  split
  · exact consistent.updateNexthop version now pkt.port pkt.ethSrc
  · exact consistent

theorem Consistent.addHostFibRouteFromPkt (consistent : Consistent manager vlans fib) {pkt : Packet}
    {now : ℤ} (version : pkt.l3Src.version = manager.ipv)
    (unclaimed : SenderUnclaimed manager vlans pkt) :
    Consistent manager (manager.addHostFibRouteFromPkt vlans pkt now).1
      (applyAll (manager.addHostFibRouteFromPkt vlans pkt now).2 fib) := by
  unfold RouteManager.addHostFibRouteFromPkt
  split
  next sends => exact consistent.learnNexthop version (unclaimed (Bool.and_eq_true_iff.mp sends).1)
  next => exact consistent

/-! ## Entries without a MAC address -/

/-- Only the flows that rewrite MAC addresses count. -/
theorem Consistent.congrFib (consistent : Consistent manager vlans fib) {fib' : Fib}
    (same : ∀ key, rewrites (fib' key) = rewrites (fib key)) : Consistent manager vlans fib' :=
  { consistent with shows' := consistent.shows'.congr rfl (funext same) }

/-- The cache has the same MAC addresses as before. -/
theorem Consistent.setCacheSame (consistent : Consistent manager vlans fib) {state : VlanState}
    (sameRoutes : state.routes = (vlans vlan).routes)
    (noPort : ∀ ipGw nexthop, state.neighCache.lookup ipGw = some nexthop →
      nexthop.port = none → nexthop.ethSrc = none)
    (sameCached : ∀ ipGw, state.cachedNexthopEthDst ipGw = (vlans vlan).cachedNexthopEthDst ipGw) :
    Consistent manager (Function.update vlans vlan state) fib := by
  apply consistent.setCache sameRoutes noPort
  refine consistent.shows'.congr (wanted_update fun dst => ?_) rfl
  rw [resolved_setCache sameRoutes, funext sameCached]
  rfl

/-- An entry is tried again; its MAC address and its port stay. -/
theorem Consistent.resolveGatewayFlows (consistent : Consistent manager vlans fib)
    {nexthop : NextHop} (cached : (vlans vlan).neighCache.lookup ipGw = some nexthop) (now : ℤ)
    (jitter : IpAddress → ℕ) (sends : IpAddress → Bool) :
    Consistent manager (manager.resolveGatewayFlows vlans ipGw nexthop vlan now jitter sends).1 fib := by
  unfold RouteManager.resolveGatewayFlows
  split
  · exact consistent
  · apply consistent.setCacheSame
    · rfl
    · intro other entry found portless
      rw [OrderedDict.lookup_set] at found
      split at found
      next same =>
        cases found
        exact consistent.noPort vlan ipGw nexthop cached portless
      next => exact consistent.noPort vlan other entry found portless
    · intro other
      rw [VlanState.cachedNexthopEthDst, VlanState.cachedNexthopEthDst, OrderedDict.lookup_set]
      split
      next same =>
        rw [same, cached]
        rfl
      next => rfl

theorem touch_keeps (now : ℤ) (state : VlanState) (ipGw : IpAddress) :
    (RouteManager.touch now state ipGw).routes = state.routes ∧
      (∀ other, (RouteManager.touch now state ipGw).cachedNexthopEthDst other =
        state.cachedNexthopEthDst other) ∧
      ((∀ gw nexthop, state.neighCache.lookup gw = some nexthop → nexthop.port = none →
          nexthop.ethSrc = none) →
        ∀ gw nexthop, (RouteManager.touch now state ipGw).neighCache.lookup gw = some nexthop →
          nexthop.port = none → nexthop.ethSrc = none) := by
  unfold RouteManager.touch
  split
  next missing =>
    refine ⟨rfl, fun other => ?_, fun noPort => noPort_updateNexthopCache noPort fun _ => rfl⟩
    rw [cached_updateNexthopCache]
    split
    next same => rw [same, VlanState.cachedNexthopEthDst, missing, Option.bind_none]
    next => rfl
  next => exact ⟨rfl, fun _ => rfl, id⟩

theorem foldl_touch_keeps (now : ℤ) (ipGws : List IpAddress) (state : VlanState) :
    (ipGws.foldl (RouteManager.touch now) state).routes = state.routes ∧
      (∀ other, (ipGws.foldl (RouteManager.touch now) state).cachedNexthopEthDst other =
        state.cachedNexthopEthDst other) ∧
      ((∀ gw nexthop, state.neighCache.lookup gw = some nexthop → nexthop.port = none →
          nexthop.ethSrc = none) →
        ∀ gw nexthop, (ipGws.foldl (RouteManager.touch now) state).neighCache.lookup gw =
          some nexthop → nexthop.port = none → nexthop.ethSrc = none) := by
  induction ipGws generalizing state with
  | nil => exact ⟨rfl, fun _ => rfl, id⟩
  | cons ipGw rest ih =>
      obtain ⟨routes, cached, noPort⟩ := touch_keeps now state ipGw
      obtain ⟨routes', cached', noPort'⟩ := ih (RouteManager.touch now state ipGw)
      exact ⟨routes'.trans routes, fun other => (cached' other).trans (cached other),
        fun before => noPort' (noPort before)⟩

/-! ## Proactive resolution -/

/-- An address can be asked for: it has no MAC address yet, or only its own route needs it. -/
def Resolvable (manager : RouteManager) (vlans : Vlans) (vlan : Vid) (dstIp : IpAddress) : Prop :=
  (vlans vlan).cachedNexthopEthDst dstIp = none ∨
    ∀ ipDst, (vlans vlan).routes.dynRoutesByIpv manager.ipv ipDst = some dstIp ↔
      ipDst = .ofHost dstIp

/-- The flows that drop what is sent to the address overwrite none but its own. -/
def Droppable (manager : RouteManager) (vlans : Vlans) (vlan : Vid) (dstIp : IpAddress) : Prop :=
  ∀ other, Shares manager vlan other → resolved manager vlans other (.ofHost dstIp) ≠ none →
    other = vlan ∧ (vlans vlan).routes.dynRoutesByIpv manager.ipv (.ofHost dstIp) = some dstIp

/-- The entry of an address starts again, and what is sent to the address is dropped. -/
theorem Consistent.restart (consistent : Consistent manager vlans fib) {dstIp : IpAddress}
    (resolvable : Resolvable manager vlans vlan dstIp)
    (droppable : Droppable manager vlans vlan dstIp) (now : ℤ) :
    Consistent manager
      (Function.update vlans vlan ((vlans vlan).updateNexthopCache now none none dstIp))
      (overwrite manager vlan [.ofHost dstIp] (some .drop) fib) := by
  have sameRoutes : ((vlans vlan).updateNexthopCache now none none dstIp).routes =
      (vlans vlan).routes := rfl
  apply consistent.setCache sameRoutes (noPort_updateNexthopCache (consistent.noPort vlan) fun _ => rfl)
  apply shows_overwrite consistent.shows'
  · intro dst notListed
    rw [resolved_setCache sameRoutes, resolved]
    cases routed : (vlans vlan).routes.dynRoutesByIpv manager.ipv dst with
    | none => rfl
    | some gw =>
        rw [Option.bind_some, Option.bind_some, cached_updateNexthopCache]
        split
        next same =>
          cases resolvable with
          | inl unresolved => rw [same, unresolved]
          | inr own =>
              rw [same] at routed
              exact absurd (List.mem_singleton.mpr ((own dst).mp routed)) notListed
        next => rfl
  · intro dst listed
    rw [List.mem_singleton.mp listed, resolved_setCache sameRoutes]
    cases routed : (vlans vlan).routes.dynRoutesByIpv manager.ipv (.ofHost dstIp) with
    | none => rfl
    | some gw =>
        rw [Option.bind_some, cached_updateNexthopCache]
        split
        next => rfl
        next elsewhere =>
          have noFlow : resolved manager vlans vlan (.ofHost dstIp) = none := by
            by_contra flow
            have own := (droppable vlan shares_self flow).2
            exact elsewhere (Option.some_inj.mp (routed.symm.trans own))
          rw [resolved, routed, Option.bind_some] at noFlow
          rw [noFlow]
          rfl
  · intro dst listed other different shares
    rw [List.mem_singleton.mp listed]
    by_contra flow
    exact different (droppable other shares flow).1

/-- Whether the entry starts again before or after the route is added is the same. -/
theorem addRoute_restart {dstIp : IpAddress} (resolvable : Resolvable manager vlans vlan dstIp)
    (now : ℤ) :
    manager.addRoute
        (Function.update vlans vlan ((vlans vlan).updateNexthopCache now none none dstIp))
        vlan dstIp (.ofHost dstIp) =
      (Function.update (manager.addRoute vlans vlan dstIp (.ofHost dstIp)).1 vlan
        (((manager.addRoute vlans vlan dstIp (.ofHost dstIp)).1 vlan).updateNexthopCache now none none
          dstIp),
        (manager.addRoute vlans vlan dstIp (.ofHost dstIp)).2) := by
  unfold RouteManager.addRoute
  cases manager.routerVlanForIpGw vlan dstIp with
  | none => rfl
  | some target =>
      dsimp only
      by_cases same : target = vlan
      · subst same
        rw [Function.update_self]
        have routes : ((vlans target).updateNexthopCache now none none dstIp).routes =
            (vlans target).routes := rfl
        rw [routes]
        split
        next => rfl
        next absent =>
          have unresolved : (vlans target).cachedNexthopEthDst dstIp = none := by
            cases resolvable with
            | inl unresolved => exact unresolved
            | inr own => exact absurd ((own _).mpr rfl) absent
          rw [cached_updateNexthopCache, if_pos rfl, unresolved]
          dsimp only
          rw [Function.update_self, Function.update_idem, Function.update_idem]
          rfl
      · rw [Function.update_of_ne same]
        split
        next => rfl
        next =>
          dsimp only
          rw [Function.update_of_ne (Ne.symm same), Function.update_comm same]

/-- Whether a destination is claimed depends on the routes alone. -/
theorem Unclaimed.congr (unclaimed : Unclaimed manager vlans vlan ipGw ipDst)
    (sameRoutes : ∀ other, (vlans' other).routes = (vlans other).routes) :
    Unclaimed manager vlans' vlan ipGw ipDst := by
  intro other shares old routed
  rw [sameRoutes] at routed
  exact unclaimed other shares old routed

theorem HostUnclaimed.restart {dstIp : IpAddress} (unclaimed : HostUnclaimed manager vlans vlan dstIp)
    (now : ℤ) :
    HostUnclaimed manager
      (Function.update vlans vlan ((vlans vlan).updateNexthopCache now none none dstIp)) vlan dstIp := by
  intro target found
  apply (unclaimed target found).congr
  intro other
  by_cases same : other = vlan
  · rw [same, Function.update_self]
    rfl
  · rw [Function.update_of_ne same]

/-- What is asked of the tables when an address is resolved that a packet is sent to. -/
structure ResolutionAllowed (manager : RouteManager) (vlans : Vlans) (vlan : Vid)
    (dstIp : IpAddress) : Prop where
  resolvable : Resolvable manager vlans vlan dstIp
  droppable : Droppable manager vlans vlan dstIp
  unclaimed : HostUnclaimed manager vlans vlan dstIp

/-- The second half of the resolution, with the vlans as the sender left them. -/
theorem Consistent.addBlackhole (consistent : Consistent manager vlans fib) {dstIp : IpAddress}
    (version : dstIp.version = manager.ipv) (allowed : ResolutionAllowed manager vlans vlan dstIp)
    (now : ℤ) :
    Consistent manager
      (Function.update (manager.addHostFibRoute vlans vlan dstIp true).1 vlan
        (((manager.addHostFibRoute vlans vlan dstIp true).1 vlan).updateNexthopCache now none none dstIp))
      (applyAll (manager.addHostFibRoute vlans vlan dstIp true).2 fib) := by
  have restarted := consistent.restart allowed.resolvable allowed.droppable now
  have added : Consistent manager
      (manager.addRoute (Function.update vlans vlan
        ((vlans vlan).updateNexthopCache now none none dstIp)) vlan dstIp (.ofHost dstIp)).1 _ :=
    restarted.addRoute version version (allowed.unclaimed.restart now)
  rw [addRoute_restart allowed.resolvable now] at added
  have drops : ∀ fib, applyAll ((manager.routedVlans vlan).map fun routedVlan =>
      .flowmod routedVlan (.ofHost dstIp) .drop) fib =
      overwrite manager vlan [.ofHost dstIp] (some .drop) fib :=
    applyAll_map (fun _ _ => rfl) _
  unfold RouteManager.addHostFibRoute
  dsimp only
  rw [if_pos rfl, applyAll_append, drops]
  exact added

/-- **The destination of a packet is resolved.** -/
theorem Consistent.proactiveResolveNeighbor (consistent : Consistent manager vlans fib)
    {pkt : Packet} {now : ℤ} (srcVersion : pkt.l3Src.version = manager.ipv)
    (dstVersion : pkt.l3Dst.version = manager.ipv)
    (sender : ∀ vlan, manager.neighborVlan vlans pkt = some vlan → SenderUnclaimed manager vlans pkt)
    (allowed : ∀ vlan, manager.neighborVlan vlans pkt = some vlan →
      ResolutionAllowed manager (manager.addHostFibRouteFromPkt vlans pkt now).1 vlan pkt.l3Dst)
    (jitter : IpAddress → ℕ) (sends : IpAddress → Bool) :
    Consistent manager (manager.proactiveResolveNeighbor vlans pkt now jitter sends).1
      (applyAll (manager.proactiveResolveNeighbor vlans pkt now jitter sends).2 fib) := by
  unfold RouteManager.proactiveResolveNeighbor
  cases found : manager.neighborVlan vlans pkt with
  | none => exact consistent
  | some vlan =>
      have learned : Consistent manager (manager.addHostFibRouteFromPkt vlans pkt now).1 _ :=
        consistent.addHostFibRouteFromPkt srcVersion (sender vlan found)
      have dropped := learned.addBlackhole dstVersion (allowed vlan found) now
      dsimp only
      rw [applyAll_append]
      split
      · exact dropped
      · apply dropped.resolveGatewayFlows
        rw [Function.update_self]
        unfold VlanState.updateNexthopCache
        rw [OrderedDict.lookup_set, if_pos rfl]

end Faucet.Route
