import Faucet.Route.Updates

/-!
# Next hops expire

A gateway that expires takes the flows of its destinations with it. One without a
port never had any, and the flows of the route to its own address stay: this route
must not go through another gateway that is resolved (`Silent`).
-/

set_option autoImplicit false

namespace Faucet.Route

open Vlan SharedView

variable {manager : RouteManager} {vlans vlans' : Vlans} {fib : Fib} {vlan other : Vid}
  {ipGw ipGw' : IpAddress} {ipDst : IpNetwork}

/-! ## Expiry -/

/-- Whether the entry or the route goes first is the same. -/
theorem delRoute_delNexthopCacheEntry :
    manager.delRoute (Function.update vlans vlan ((vlans vlan).delNexthopCacheEntry ipGw)) vlan ipDst =
      (Function.update (manager.delRoute vlans vlan ipDst).1 vlan
        (((manager.delRoute vlans vlan ipDst).1 vlan).delNexthopCacheEntry ipGw),
        (manager.delRoute vlans vlan ipDst).2) := by
  unfold RouteManager.delRoute
  simp only [Function.update_self]
  have routes : ((vlans vlan).delNexthopCacheEntry ipGw).routes = (vlans vlan).routes := rfl
  rw [routes]
  split
  next => rfl
  next =>
    dsimp only
    rw [Function.update_self, Function.update_idem, Function.update_idem]
    rfl

theorem cached_delNexthopCacheEntry {state : VlanState} :
    (state.delNexthopCacheEntry ipGw).cachedNexthopEthDst ipGw' =
      if ipGw' = ipGw then none else state.cachedNexthopEthDst ipGw' := by
  unfold VlanState.cachedNexthopEthDst VlanState.delNexthopCacheEntry
  rw [OrderedDict.lookup_del]
  split
  · rfl
  · rfl

theorem noPort_delNexthopCacheEntry {state : VlanState}
    (noPort : ∀ ipGw nexthop, state.neighCache.lookup ipGw = some nexthop →
      nexthop.port = none → nexthop.ethSrc = none) :
    ∀ other nexthop, (state.delNexthopCacheEntry ipGw).neighCache.lookup other = some nexthop →
      nexthop.port = none → nexthop.ethSrc = none := by
  intro other nexthop cached
  unfold VlanState.delNexthopCacheEntry at cached
  rw [OrderedDict.lookup_del] at cached
  split at cached
  next => cases cached
  next => exact noPort other nexthop cached

/-- An entry without a MAC address is dropped. -/
theorem Consistent.dropUnresolved (consistent : Consistent manager vlans fib)
    (unresolved : (vlans vlan).cachedNexthopEthDst ipGw = none) :
    Consistent manager (Function.update vlans vlan ((vlans vlan).delNexthopCacheEntry ipGw)) fib := by
  apply consistent.setCacheSame
  · rfl
  · exact noPort_delNexthopCacheEntry (consistent.noPort vlan)
  · intro other
    rw [cached_delNexthopCacheEntry]
    split
    next same => rw [same, unresolved]
    next => rfl

/-- A destination of a gateway has its route in the tables of the gateway's version. -/
theorem Consistent.listed (consistent : Consistent manager vlans fib)
    (listed : ipDst ∈ (vlans vlan).routes.ipDstsForIpGw ipGw) :
    (vlans vlan).routes.dynRoutesByIpv manager.ipv ipDst = some ipGw ∨
      ∀ other, (vlans other).routes.dynRoutesByIpv manager.ipv ipDst = none := by
  have routed := (Routes.mem_ipDstsForIpGw (consistent.indexed vlan)).mp listed
  by_cases version : ipGw.version = manager.ipv
  · exact .inl (version ▸ routed)
  · refine .inr fun other => Option.eq_none_iff_forall_ne_some.mpr fun gw routed' => version ?_
    rw [← consistent.dstVersion vlan _ ipDst ipGw routed, consistent.dstVersion other _ ipDst gw routed']

/-- An entry is dropped with the flows of its destinations. -/
theorem Consistent.dropResolved (consistent : Consistent manager vlans fib) :
    Consistent manager (Function.update vlans vlan ((vlans vlan).delNexthopCacheEntry ipGw))
      (applyAll (((vlans vlan).routes.ipDstsForIpGw ipGw).flatMap (manager.delRouteFlows vlan)) fib) := by
  have sameRoutes : ((vlans vlan).delNexthopCacheEntry ipGw).routes = (vlans vlan).routes := rfl
  have after : ∀ dst, resolved manager
      (Function.update vlans vlan ((vlans vlan).delNexthopCacheEntry ipGw)) vlan dst =
      if dst ∈ (vlans vlan).routes.ipDstsForIpGw ipGw then none
      else resolved manager vlans vlan dst := by
    intro dst
    rw [resolved_setCache sameRoutes, resolved]
    cases routed : (vlans vlan).routes.dynRoutesByIpv manager.ipv dst with
    | none => rw [Option.bind_none, Option.bind_none, ite_self]
    | some gw =>
        have version := (consistent.indexed vlan).wellFormed.gwVersion _ _ _ routed
        rw [Option.bind_some, Option.bind_some, cached_delNexthopCacheEntry]
        by_cases same : gw = ipGw
        · have listed : dst ∈ (vlans vlan).routes.ipDstsForIpGw ipGw := by
            rw [Routes.mem_ipDstsForIpGw (consistent.indexed vlan), ← same, version, routed]
          rw [if_pos same, if_pos listed]
        · have notListed : dst ∉ (vlans vlan).routes.ipDstsForIpGw ipGw := by
            intro listed
            cases consistent.listed listed with
            | inl routed' => exact same (Option.some_inj.mp (routed.symm.trans routed'))
            | inr nowhere => cases routed.symm.trans (nowhere vlan)
          rw [if_neg same, if_neg notListed]
  rw [applyAll_flatMap fun dst fib => applyAll_delRouteFlows vlan dst fib]
  apply consistent.setCache sameRoutes (noPort_delNexthopCacheEntry (consistent.noPort vlan))
  apply shows_overwrite consistent.shows'
  · intro dst notListed
    rw [after, if_neg notListed]
  · intro dst listed
    rw [after, if_pos listed]
    rfl
  · intro dst listed other different shares
    cases consistent.listed listed with
    | inl routed => exact consistent.unresolved_elsewhere routed different shares
    | inr nowhere => rw [resolved, nowhere, Option.bind_none]

/-- A route that has no flow is deleted without one. -/
theorem Consistent.delRoute_silently (consistent : Consistent manager vlans fib)
    (unresolved : resolved manager vlans vlan ipDst = none) :
    Consistent manager (manager.delRoute vlans vlan ipDst).1 fib := by
  have deleted : Consistent manager (manager.delRoute vlans vlan ipDst).1
      (applyAll (manager.delRoute vlans vlan ipDst).2 fib) := consistent.delRoute
  apply deleted.congrFib
  intro key
  unfold RouteManager.delRoute
  dsimp only
  split
  next => rfl
  next old routed =>
    rw [applyAll_delRouteFlows, overwrite]
    split
    next here =>
      apply consistent.shows'.eq_none
      intro other own
      rw [wanted, List.mem_singleton.mp here.2]
      by_cases same : other = vlan
      · rw [same, unresolved, Option.map_none]
      · rw [consistent.unresolved_elsewhere routed same ⟨key.1, here.1, own⟩, Option.map_none]
    next => rfl

/-- **A gateway expires.** Without a port the flows of its own route stay, so that
this route must not have any. -/
theorem Consistent.expireGatewayFlows (consistent : Consistent manager vlans fib)
    {nexthop : NextHop}
    (silent : nexthop.port = none → (vlans vlan).cachedNexthopEthDst ipGw = none ∧
      resolved manager vlans vlan (.ofHost ipGw) = none) :
    Consistent manager (manager.expireGatewayFlows vlans ipGw nexthop vlan).1
      (applyAll (manager.expireGatewayFlows vlans ipGw nexthop vlan).2 fib) := by
  unfold RouteManager.expireGatewayFlows
  dsimp only
  rw [delRoute_delNexthopCacheEntry]
  dsimp only
  rw [Function.update_self]
  cases port : nexthop.port with
  | none =>
      obtain ⟨noMac, noFlow⟩ := silent port
      apply (consistent.delRoute_silently noFlow).dropUnresolved
      unfold RouteManager.delRoute
      dsimp only
      split
      next => exact noMac
      next =>
        dsimp only
        rw [Function.update_self]
        exact noMac
  | some port =>
      rw [Option.isNone_some, if_neg Bool.false_ne_true, applyAll_append]
      exact consistent.delRoute.dropResolved

/-- Next hops with a port expire. -/
theorem Consistent.expireNexthops (consistent : Consistent manager vlans fib)
    {dead : List (IpAddress × NextHop)} (ports : ∀ entry ∈ dead, entry.2.port ≠ none) :
    Consistent manager (manager.expireNexthops vlan vlans dead).1
      (applyAll (manager.expireNexthops vlan vlans dead).2 fib) := by
  induction dead generalizing vlans fib with
  | nil => exact consistent
  | cons entry rest ih =>
      obtain ⟨ipGw, nexthop⟩ := entry
      rw [RouteManager.expireNexthops, applyAll_append]
      apply ih
      · exact consistent.expireGatewayFlows fun portless => absurd portless (ports _ List.mem_cons_self)
      · exact fun entry member => ports entry (List.mem_cons_of_mem _ member)

/-- **A port goes down** and the next hops behind it expire. -/
theorem Consistent.expirePortNexthops (consistent : Consistent manager vlans fib) (port : ℕ)
    (portVlans : List Vid) :
    Consistent manager (manager.expirePortNexthops port vlans portVlans).1
      (applyAll (manager.expirePortNexthops port vlans portVlans).2 fib) := by
  induction portVlans generalizing vlans fib with
  | nil => exact consistent
  | cons vlan rest ih =>
      rw [RouteManager.expirePortNexthops, applyAll_append]
      apply ih
      apply consistent.expireNexthops
      intro entry member portless
      have behind := (List.mem_filter.mp member).2
      rw [portless] at behind
      cases behind

/-- The next hops of all ports expire, whatever becomes of the messages. -/
theorem Consistent.disconnect (consistent : Consistent manager vlans fib) (ports : List ℕ) :
    ∃ fib', Consistent manager (manager.disconnect vlans ports) fib' := by
  induction ports generalizing vlans fib with
  | nil => exact ⟨fib, consistent⟩
  | cons port rest ih => exact ih (consistent.expirePortNexthops port _)

/-! ## Refreshing next hops -/

/-- The loop over unresolved gateways keeps what its handler keeps. -/
theorem resolveGatewaysFlows_keeps
    {handler : Vlans → IpAddress → NextHop → Vlans × List FibMod × Bool} {now : ℤ}
    (inv : Vlans → Fib → List IpAddress → Prop)
    (skip : ∀ {vlans fib ipGw rest}, inv vlans fib (ipGw :: rest) → inv vlans fib rest)
    (keeps : ∀ {vlans fib ipGw rest nexthop}, inv vlans fib (ipGw :: rest) →
      (vlans vlan).neighCache.lookup ipGw = some nexthop →
      nexthop.resolutionDue now manager.neighborTimeout = true →
      inv (handler vlans ipGw nexthop).1 (applyAll (handler vlans ipGw nexthop).2.1 fib) rest)
    {ipGws : List IpAddress} (remaining : ℕ) (holds : inv vlans fib ipGws) :
    ∃ rest, inv (manager.resolveGatewaysFlows handler vlan now vlans ipGws remaining).1
      (applyAll (manager.resolveGatewaysFlows handler vlan now vlans ipGws remaining).2 fib) rest := by
  induction ipGws generalizing vlans fib remaining with
  | nil => exact ⟨[], holds⟩
  | cons ipGw rest ih =>
      cases remaining with
      | zero => exact ⟨_, holds⟩
      | succ remaining =>
          rw [RouteManager.resolveGatewaysFlows]
          split
          next => exact ih _ (skip holds)
          next nexthop cached =>
            split
            next due =>
              rw [applyAll_append]
              exact ih _ (keeps holds cached due)
            next => exact ih _ (skip holds)

/-- Gateways are asked for: nothing changes but the entries' retries. -/
theorem Consistent.resolveGateways (consistent : Consistent manager vlans fib) {now : ℤ}
    (resolveAll : Option (List IpAddress)) (jitter : IpAddress → ℕ) (sends : IpAddress → Bool) :
    Consistent manager (manager.resolveGateways vlans vlan now resolveAll jitter sends).1
      (applyAll (manager.resolveGateways vlans vlan now resolveAll jitter sends).2 fib) := by
  have loop : ∀ state ipGws, Consistent manager (Function.update vlans vlan state) fib →
      ∃ _ : List IpAddress, Consistent manager (manager.resolveGatewaysFlows
        (fun vlans ipGw nexthop =>
          ((manager.resolveGatewayFlows vlans ipGw nexthop vlan now jitter sends).1, [],
            (manager.resolveGatewayFlows vlans ipGw nexthop vlan now jitter sends).2))
        vlan now (Function.update vlans vlan state) ipGws manager.maxHostsPerResolveCycle).1
        (applyAll (manager.resolveGatewaysFlows
          (fun vlans ipGw nexthop =>
            ((manager.resolveGatewayFlows vlans ipGw nexthop vlan now jitter sends).1, [],
              (manager.resolveGatewayFlows vlans ipGw nexthop vlan now jitter sends).2))
          vlan now (Function.update vlans vlan state) ipGws manager.maxHostsPerResolveCycle).2 fib) := by
    intro state ipGws started
    refine resolveGatewaysFlows_keeps (fun vlans fib _ => Consistent manager vlans fib) id ?_ _ started
    intro vlans fib ipGw rest nexthop before cached due
    exact before.resolveGatewayFlows cached now jitter sends
  unfold RouteManager.resolveGateways
  dsimp only
  cases resolveAll with
  | none =>
      have started : Consistent manager (Function.update vlans vlan { vlans vlan with
          dynUnresolvedRouteIpGws := (vlans vlan).dynUnresolvedRouteIpGws.tail }) fib :=
        consistent.setCacheSame rfl (consistent.noPort vlan) fun _ => rfl
      obtain ⟨_, kept⟩ := loop _ _ started
      exact kept
  | some ipGws =>
      obtain ⟨routes, cached, noPort⟩ := foldl_touch_keeps now ipGws (vlans vlan)
      have started : Consistent manager (Function.update vlans vlan
          { ipGws.foldl (RouteManager.touch now) (vlans vlan) with
            dynUnresolvedRouteIpGws := ipGws }) fib :=
        consistent.setCacheSame routes (noPort (consistent.noPort vlan)) cached
      obtain ⟨_, kept⟩ := loop _ _ started
      exact kept

/-! ## Expiring hosts -/

/-- The expiry of a gateway without a port finds no flow that it would leave. -/
def Silent (manager : RouteManager) (vlans : Vlans) (vlan : Vid) (now : ℤ) (ipGw : IpAddress) : Prop :=
  ∀ nexthop, (vlans vlan).neighCache.lookup ipGw = some nexthop → nexthop.port = none →
    nexthop.resolutionDue now manager.neighborTimeout = true →
    nexthop.dead manager.maxHostFibRetryCount = true →
    resolved manager vlans vlan (.ofHost ipGw) = none

/-- Nothing about other gateways changes that would make their expiry leave a flow. -/
theorem Silent.of_less {now : ℤ} (silent : Silent manager vlans vlan now ipGw)
    (sameEntry : ∀ nexthop, (vlans' vlan).neighCache.lookup ipGw = some nexthop →
      nexthop.resolutionDue now manager.neighborTimeout = true →
      (vlans vlan).neighCache.lookup ipGw = some nexthop)
    (less : resolved manager vlans vlan (.ofHost ipGw) = none →
      resolved manager vlans' vlan (.ofHost ipGw) = none) : Silent manager vlans' vlan now ipGw :=
  fun nexthop cached portless due dead =>
    less (silent nexthop (sameEntry nexthop cached due) portless due dead)

theorem delRoute_lookup :
    ((manager.delRoute vlans vlan ipDst).1 vlan).neighCache = (vlans vlan).neighCache := by
  unfold RouteManager.delRoute
  dsimp only
  split
  · rfl
  · dsimp only
    rw [Function.update_self]

theorem delRoute_resolved (consistent : Consistent manager vlans fib) {dst : IpNetwork}
    (before : resolved manager vlans vlan dst = none) :
    resolved manager (manager.delRoute vlans vlan ipDst).1 vlan dst = none := by
  unfold RouteManager.delRoute
  dsimp only
  split
  next => exact before
  next old routed =>
    obtain ⟨after, deleted, _, afterRoutes⟩ := (consistent.indexed vlan).delRoute
      ((consistent.dstVersion vlan manager.ipv ipDst old routed).symm ▸ routed)
    rw [deleted, Option.getD_some, resolved_setRoutes, afterRoutes]
    split
    next =>
      by_cases here : dst = ipDst
      · rw [here, Function.update_self, Option.bind_none]
      · rw [Function.update_of_ne here]
        exact before
    next => exact before

theorem expireGatewayFlows_lookup {nexthop : NextHop} :
    ((manager.expireGatewayFlows vlans ipGw nexthop vlan).1 vlan).neighCache =
      OrderedDict.del (vlans vlan).neighCache ipGw := by
  unfold RouteManager.expireGatewayFlows
  dsimp only
  rw [delRoute_lookup, Function.update_self]
  rfl

theorem expireGatewayFlows_resolved (consistent : Consistent manager vlans fib) (nexthop : NextHop)
    {dst : IpNetwork} (before : resolved manager vlans vlan dst = none) :
    resolved manager (manager.expireGatewayFlows vlans ipGw nexthop vlan).1 vlan dst = none := by
  unfold RouteManager.expireGatewayFlows
  dsimp only
  rw [delRoute_delNexthopCacheEntry]
  dsimp only
  have deleted : resolved manager (manager.delRoute vlans vlan (.ofHost ipGw)).1 vlan dst = none :=
    delRoute_resolved consistent before
  rw [resolved, Function.update_self]
  rw [resolved] at deleted
  cases routed : (((manager.delRoute vlans vlan (.ofHost ipGw)).1 vlan).delNexthopCacheEntry
      ipGw).routes.dynRoutesByIpv manager.ipv dst with
  | none => rfl
  | some gw =>
      have routed' : ((manager.delRoute vlans vlan (.ofHost ipGw)).1 vlan).routes.dynRoutesByIpv
          manager.ipv dst = some gw := routed
      rw [routed', Option.bind_some] at deleted
      rw [Option.bind_some, cached_delNexthopCacheEntry, deleted, ite_self]

theorem resolveGatewayFlows_lookup {nexthop : NextHop} {now : ℤ} {jitter : IpAddress → ℕ}
    {sends : IpAddress → Bool} (elsewhere : ipGw' ≠ ipGw) :
    ((manager.resolveGatewayFlows vlans ipGw nexthop vlan now jitter sends).1 vlan).neighCache.lookup
      ipGw' = (vlans vlan).neighCache.lookup ipGw' := by
  unfold RouteManager.resolveGatewayFlows
  split
  · rfl
  · dsimp only
    rw [Function.update_self, OrderedDict.lookup_set, if_neg elsewhere]

theorem resolveGatewayFlows_resolved {nexthop : NextHop} {now : ℤ} {jitter : IpAddress → ℕ}
    {sends : IpAddress → Bool} (cached : (vlans vlan).neighCache.lookup ipGw = some nexthop) :
    resolved manager (manager.resolveGatewayFlows vlans ipGw nexthop vlan now jitter sends).1 vlan
      ipDst = resolved manager vlans vlan ipDst := by
  unfold RouteManager.resolveGatewayFlows
  split
  · rfl
  · rw [resolved_setCache (by rfl), resolved]
    congr 1
    funext other
    rw [VlanState.cachedNexthopEthDst, VlanState.cachedNexthopEthDst, OrderedDict.lookup_set]
    split
    next same =>
      rw [same, cached]
      rfl
    next => rfl

/-- What the loop keeps for the gateways that it has still to see. -/
structure Expiring (manager : RouteManager) (vlan : Vid) (now : ℤ) (vlans : Vlans) (fib : Fib)
    (ipGws : List IpAddress) : Prop where
  consistent : Consistent manager vlans fib
  nodup : ipGws.Nodup
  silent : ∀ ipGw ∈ ipGws, Silent manager vlans vlan now ipGw

theorem Expiring.resolveExpireGatewayFlows {now : ℤ} {nexthop : NextHop} {rest : List IpAddress}
    (expiring : Expiring manager vlan now vlans fib (ipGw :: rest))
    (cached : (vlans vlan).neighCache.lookup ipGw = some nexthop)
    (due : nexthop.resolutionDue now manager.neighborTimeout = true) (jitter : IpAddress → ℕ)
    (sends : IpAddress → Bool) :
    Expiring manager vlan now
      (manager.resolveExpireGatewayFlows vlans vlan now jitter sends ipGw nexthop).1
      (applyAll (manager.resolveExpireGatewayFlows vlans vlan now jitter sends ipGw nexthop).2.1 fib)
      rest := by
  obtain ⟨notLater, nodup⟩ := List.nodup_cons.mp expiring.nodup
  have consistent := expiring.consistent
  unfold RouteManager.resolveExpireGatewayFlows
  split
  next dead =>
    refine ⟨consistent.expireGatewayFlows fun portless => ⟨?_, ?_⟩, nodup, fun other later => ?_⟩
    · rw [VlanState.cachedNexthopEthDst, cached]
      exact consistent.noPort vlan ipGw nexthop cached portless
    · exact expiring.silent ipGw List.mem_cons_self nexthop cached portless due dead
    · apply (expiring.silent other (List.mem_cons_of_mem _ later)).of_less
      · intro entry found _
        rw [expireGatewayFlows_lookup, OrderedDict.lookup_del] at found
        split at found
        next => cases found
        next => exact found
      · intro before
        exact expireGatewayFlows_resolved consistent nexthop before
  next =>
    refine ⟨consistent.resolveGatewayFlows cached now jitter sends, nodup, fun other later => ?_⟩
    apply (expiring.silent other (List.mem_cons_of_mem _ later)).of_less
    · intro entry found _
      have elsewhere : other ≠ ipGw := by
        intro same
        exact notLater (same ▸ later)
      rwa [resolveGatewayFlows_lookup elsewhere] at found
    · intro before
      rw [resolveGatewayFlows_resolved cached, before]

/-- An entry that has just been made is not due. -/
theorem foldl_touch_lookup {now maxAge : ℤ} (ipGws : List IpAddress) (state : VlanState)
    {nexthop : NextHop}
    (cached : (ipGws.foldl (RouteManager.touch now) state).neighCache.lookup ipGw = some nexthop)
    (due : nexthop.resolutionDue now maxAge = true) : state.neighCache.lookup ipGw = some nexthop := by
  induction ipGws generalizing state with
  | nil => exact cached
  | cons first rest ih =>
      have touched := ih _ cached
      unfold RouteManager.touch at touched
      split at touched
      next missing =>
        unfold VlanState.updateNexthopCache at touched
        rw [OrderedDict.lookup_set] at touched
        split at touched
        next =>
          cases touched
          simp [NextHop.resolutionDue, NextHop.new] at due
        next => exact touched
      next => exact touched

/-- The gateways that are looked at: those that the list names, or the next of those left. -/
def expiringGws (vlans : Vlans) (vlan : Vid) (resolveAll : Option (List IpAddress)) :
    List IpAddress :=
  resolveAll.getD ((vlans vlan).dynUnresolvedHostIpGws.take 1)

/-- **Hosts are asked for and expire.** -/
theorem Consistent.resolveExpireHosts (consistent : Consistent manager vlans fib) {now : ℤ}
    {resolveAll : Option (List IpAddress)} (nodup : ∀ ipGws ∈ resolveAll, ipGws.Nodup)
    (silent : ∀ ipGw ∈ expiringGws vlans vlan resolveAll, Silent manager vlans vlan now ipGw)
    (jitter : IpAddress → ℕ) (sends : IpAddress → Bool) :
    Consistent manager (manager.resolveExpireHosts vlans vlan now resolveAll jitter sends).1
      (applyAll (manager.resolveExpireHosts vlans vlan now resolveAll jitter sends).2 fib) := by
  have loop : ∀ state ipGws, Expiring manager vlan now (Function.update vlans vlan state) fib ipGws →
      Consistent manager (manager.resolveGatewaysFlows
        (fun vlans => manager.resolveExpireGatewayFlows vlans vlan now jitter sends)
        vlan now (Function.update vlans vlan state) ipGws manager.maxHostsPerResolveCycle).1
        (applyAll (manager.resolveGatewaysFlows
          (fun vlans => manager.resolveExpireGatewayFlows vlans vlan now jitter sends)
          vlan now (Function.update vlans vlan state) ipGws manager.maxHostsPerResolveCycle).2 fib) := by
    intro state ipGws started
    obtain ⟨_, finished⟩ := resolveGatewaysFlows_keeps (Expiring manager vlan now)
      (fun before => ⟨before.consistent, (List.nodup_cons.mp before.nodup).2,
        fun ipGw later => before.silent ipGw (List.mem_cons_of_mem _ later)⟩)
      (fun before cached due => before.resolveExpireGatewayFlows cached due jitter sends)
      manager.maxHostsPerResolveCycle started
    exact finished.consistent
  unfold RouteManager.resolveExpireHosts
  dsimp only
  cases resolveAll with
  | none =>
      apply loop
      refine ⟨consistent.setCacheSame rfl (consistent.noPort vlan) fun _ => rfl, ?_, fun ipGw next => ?_⟩
      · cases (vlans vlan).dynUnresolvedHostIpGws <;> simp
      · apply (silent ipGw next).of_less
        · intro nexthop cached _
          rwa [Function.update_self] at cached
        · intro before
          rw [resolved_setCache (by rfl)]
          exact before
  | some ipGws =>
      obtain ⟨routes, cached, noPort⟩ := foldl_touch_keeps now ipGws (vlans vlan)
      apply loop
      refine ⟨consistent.setCacheSame routes (noPort (consistent.noPort vlan)) cached,
        nodup ipGws rfl, fun ipGw listed => ?_⟩
      apply (silent ipGw listed).of_less
      · intro nexthop found due
        rw [Function.update_self] at found
        exact foldl_touch_lookup ipGws (vlans vlan) found due
      · intro before
        rw [resolved_setCache (by exact routes)]
        have sameCached : (ipGws.foldl (RouteManager.touch now) (vlans vlan)).cachedNexthopEthDst =
            (vlans vlan).cachedNexthopEthDst := funext cached
        rw [resolved, ← sameCached] at before
        exact before

end Faucet.Route
