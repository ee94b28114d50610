import Faucet.Route.ResolutionRuns

/-!
# Next-hop resolution backs off and dies

A host whose requests are used up expires in the next cycle that comes to it, and a next hop that
is heard of gets a new entry, whatever else an event does. Both hold after any run in which
what is tracked is kept.
-/

set_option autoImplicit false

namespace Faucet.Route

open Vlan OrderedDict TransitionSystem

variable {manager : RouteManager} {vlans : Vlans} {vlan : Vid} {history : List Notice}
  {ipGw : IpAddress} {nexthop : NextHop} {now : ℤ} {pkt : Packet}

/-! ## Hosts that have used up their requests -/

section Expires

variable {jitter : IpAddress → ℕ} {sends : IpAddress → Bool} {ipGws : List IpAddress}
  {other : IpAddress}

theorem resolveExpireGatewayFlows_lookup (elsewhere : other ≠ ipGw) :
    ((manager.resolveExpireGatewayFlows vlans vlan now jitter sends ipGw nexthop).1 vlan).neighCache.lookup
      other = (vlans vlan).neighCache.lookup other := by
  rw [RouteManager.resolveExpireGatewayFlows]
  split
  · dsimp only
    rw [expireGatewayFlows_lookup, lookup_del, if_neg elsewhere]
  · exact resolveGatewayFlows_lookup elsewhere

/-- The loop leaves the entries of the next hops that it does not come to. -/
theorem loop_lookup_of_not_mem {remaining : ℕ} (absent : other ∉ ipGws) :
    ((manager.resolveGatewaysFlows
      (fun vlans => manager.resolveExpireGatewayFlows vlans vlan now jitter sends) vlan now vlans
      ipGws remaining).1 vlan).neighCache.lookup other = (vlans vlan).neighCache.lookup other := by
  induction ipGws generalizing vlans remaining with
  | nil => rfl
  | cons ipGw rest ih =>
      rw [List.mem_cons, not_or] at absent
      obtain ⟨elsewhere, absent⟩ := absent
      cases remaining with
      | zero => rfl
      | succ remaining =>
          rw [RouteManager.resolveGatewaysFlows]
          split
          next => exact ih absent
          next =>
            split
            next => exact (ih absent).trans (resolveExpireGatewayFlows_lookup elsewhere)
            next => exact ih absent

/-- A host that the loop comes to when it is due and dead expires. -/
theorem loop_expires {remaining : ℕ} (nodup : ipGws.Nodup) (member : ipGw ∈ ipGws.take remaining)
    (cached : (vlans vlan).neighCache.lookup ipGw = some nexthop)
    (due : nexthop.resolutionDue now manager.neighborTimeout = true)
    (dead : nexthop.dead manager.maxHostFibRetryCount = true) :
    .expired vlan ipGw ∈ manager.resolveGatewaysNotices
        (fun vlans => manager.resolveExpireGatewayFlows vlans vlan now jitter sends)
        (fun vlans => manager.resolveExpireNotices vlans vlan now sends) vlan now vlans ipGws
        remaining ∧
      ((manager.resolveGatewaysFlows
        (fun vlans => manager.resolveExpireGatewayFlows vlans vlan now jitter sends) vlan now vlans
        ipGws remaining).1 vlan).neighCache.lookup ipGw = none := by
  induction ipGws generalizing vlans remaining with
  | nil =>
      rw [List.take_nil] at member
      cases member
  | cons first rest ih =>
      obtain ⟨notLater, nodup⟩ := List.nodup_cons.mp nodup
      cases remaining with
      | zero => cases member
      | succ remaining =>
          rw [RouteManager.resolveGatewaysNotices, RouteManager.resolveGatewaysFlows]
          by_cases same : first = ipGw
          · subst same
            rw [cached]
            dsimp only
            rw [if_pos due, if_pos due]
            refine ⟨List.mem_append_left _ ?_, ?_⟩
            · rw [RouteManager.resolveExpireNotices, if_pos dead]
              exact List.mem_singleton_self _
            · refine (loop_lookup_of_not_mem notLater).trans ?_
              rw [RouteManager.resolveExpireGatewayFlows, if_pos dead]
              dsimp only
              rw [expireGatewayFlows_lookup, lookup_del, if_pos rfl]
          · have later : ipGw ∈ rest.take remaining :=
              (List.mem_cons.mp member).resolve_left (Ne.symm same)
            have unspent : ipGw ∈ rest.take (remaining + 1) :=
              List.take_subset_take_left rest (Nat.le_succ remaining) later
            cases firstCached : (vlans vlan).neighCache.lookup first with
            | none => exact ih nodup unspent cached
            | some firstNexthop =>
                dsimp only
                split
                next =>
                  have kept : ((manager.resolveExpireGatewayFlows vlans vlan now jitter sends first
                      firstNexthop).1 vlan).neighCache.lookup ipGw = some nexthop :=
                    (resolveExpireGatewayFlows_lookup (Ne.symm same)).trans cached
                  have reached : ipGw ∈ rest.take (if (manager.resolveExpireGatewayFlows vlans vlan
                      now jitter sends first firstNexthop).2.2 = true then remaining
                      else remaining + 1) := by
                    split
                    · exact later
                    · exact unspent
                  obtain ⟨noticed, removed⟩ := ih nodup reached kept
                  exact ⟨List.mem_append_right _ noticed, removed⟩
                next => exact ih nodup unspent cached

theorem foldl_touch_of_some {state : VlanState} (cached : state.neighCache.lookup ipGw = some nexthop) :
    (ipGws.foldl (RouteManager.touch now) state).neighCache.lookup ipGw = some nexthop := by
  induction ipGws generalizing state with
  | nil => exact cached
  | cons first rest ih =>
      apply ih
      rw [RouteManager.touch]
      split
      next uncached =>
        have different : ipGw ≠ first := by
          rintro rfl
          rw [cached] at uncached
          cases uncached
        rw [VlanState.updateNexthopCache, lookup_set, if_neg different]
        exact cached
      next => exact cached

end Expires

/-! ## Next hops that are heard of -/

section Heard

variable {key : Vid × IpAddress}

/-- The entry of a next hop that has been heard of. -/
def NextHop.Untried (nexthop : NextHop) : Prop :=
  nexthop.resolveRetries = 0 ∧ nexthop.nextRetryTime = none

theorem addHostFibRoute_neighCache {blackhole : Bool} (other : Vid) :
    ((manager.addHostFibRoute vlans vlan ipGw blackhole).1 other).neighCache =
      (vlans other).neighCache := by
  rw [RouteManager.addHostFibRoute, RouteManager.addRoute]
  cases manager.routerVlanForIpGw vlan ipGw with
  | none => rfl
  | some target =>
      dsimp only
      split
      next => rfl
      next =>
        dsimp only
        by_cases same : other = target
        · subst same
          rw [Function.update_self]
        · rw [Function.update_of_ne same]

theorem updateNexthop_lookup {port : ℕ} {ethSrc : Mac} :
    ((manager.updateNexthop vlans now vlan port ethSrc ipGw).1 vlan).neighCache.lookup ipGw =
      some (.new (some ethSrc) (some port) now) := by
  rw [RouteManager.updateNexthop]
  dsimp only
  rw [Function.update_self, VlanState.updateNexthopCache, lookup_set, if_pos rfl]

theorem learnNexthop_lookup :
    ((manager.learnNexthop vlans pkt now).1 pkt.vlan).neighCache.lookup pkt.l3Src =
      some (.new (some pkt.ethSrc) (some pkt.port) now) :=
  @updateNexthop_lookup manager (manager.addHostFibRoute vlans pkt.vlan pkt.l3Src false).1 _ _ _ _ _

theorem untried_new {ethSrc : Mac} {port : ℕ} :
    (NextHop.new (some ethSrc) (some port) now).Untried := ⟨rfl, rfl⟩

/-- The notices of a loop are those of its handler. -/
theorem forall_mem_resolveGatewaysNotices
    {handler : Vlans → IpAddress → NextHop → Vlans × List FibMod × Bool}
    {notices : Vlans → IpAddress → NextHop → List Notice} {p : Notice → Prop}
    (each : ∀ vlans ipGw nexthop, ∀ notice ∈ notices vlans ipGw nexthop, p notice)
    {ipGws : List IpAddress} {remaining : ℕ} :
    ∀ notice ∈ manager.resolveGatewaysNotices handler notices vlan now vlans ipGws remaining,
      p notice := by
  induction ipGws generalizing vlans remaining with
  | nil => nofun
  | cons ipGw rest ih =>
      cases remaining with
      | zero => nofun
      | succ remaining =>
          rw [RouteManager.resolveGatewaysNotices]
          split
          next => exact ih
          next nexthop _ =>
            split
            next =>
              intro notice member
              rcases List.mem_append.mp member with now | later
              · exact each _ _ _ notice now
              · exact ih notice later
            next => exact ih

theorem heard_not_mem_resolveNotices {sends : IpAddress → Bool} {other : Vid} {host : IpAddress} :
    Notice.heard other host ∉ manager.resolveNotices vlans vlan now sends ipGw := by
  rw [RouteManager.resolveNotices]
  split
  · intro member
    cases List.mem_singleton.mp member
  · exact List.not_mem_nil

theorem heard_not_mem_resolveExpireNotices {sends : IpAddress → Bool} {other : Vid}
    {host : IpAddress} :
    Notice.heard other host ∉ manager.resolveExpireNotices vlans vlan now sends ipGw nexthop := by
  rw [RouteManager.resolveExpireNotices]
  split
  · intro member
    cases List.mem_singleton.mp member
  · exact heard_not_mem_resolveNotices

theorem heard_not_mem_addHostNotices {other : Vid} {host : IpAddress} :
    Notice.heard other host ∉ manager.addHostNotices vlan ipGw := by
  rw [RouteManager.addHostNotices]
  split
  · intro member
    cases List.mem_singleton.mp member
  · exact List.not_mem_nil

/-- A sender that is learned has a new entry. -/
theorem learnNexthop_untried {host : IpAddress}
    (heard : Notice.heard vlan host ∈ manager.learnNotices pkt) :
    vlan = pkt.vlan ∧ host = pkt.l3Src ∧ ∃ nexthop,
      ((manager.learnNexthop vlans pkt now).1 vlan).neighCache.lookup host = some nexthop ∧
        nexthop.Untried := by
  rcases List.mem_append.mp heard with wanted | heard
  · exact absurd wanted heard_not_mem_addHostNotices
  · cases List.mem_singleton.mp heard
    exact ⟨rfl, rfl, _, learnNexthop_lookup, untried_new⟩

/-- An entry that is set leaves those of the other next hops of all VLANs. -/
theorem lookup_setEntry_of_ne {other : Vid} {host : IpAddress}
    (different : (vlan, ipGw) ≠ (other, host)) :
    (Function.update vlans vlan
      { vlans vlan with neighCache := OrderedDict.set (vlans vlan).neighCache ipGw nexthop }
      other).neighCache.lookup host = (vlans other).neighCache.lookup host := by
  by_cases same : other = vlan
  · subst same
    have elsewhere : host ≠ ipGw := by
      rintro rfl
      exact different rfl
    rw [Function.update_self, lookup_set, if_neg elsewhere]
  · rw [Function.update_of_ne same]

theorem resolveGatewayFlows_lookup_of_ne {other : Vid} {host : IpAddress}
    (different : (vlan, ipGw) ≠ (other, host)) {jitter : IpAddress → ℕ} {sends : IpAddress → Bool} :
    ((manager.resolveGatewayFlows vlans ipGw nexthop vlan now jitter sends).1
      other).neighCache.lookup host = (vlans other).neighCache.lookup host := by
  rw [RouteManager.resolveGatewayFlows]
  split
  · rfl
  · exact lookup_setEntry_of_ne different

/-- A destination that is resolved leaves the entries of the other next hops. -/
theorem proactiveResolveNeighbor_lookup_of_ne {target other : Vid} {host : IpAddress}
    {jitter : IpAddress → ℕ} {sends : IpAddress → Bool}
    (found : manager.neighborVlan vlans pkt = some target)
    (different : (target, pkt.l3Dst) ≠ (other, host)) :
    ((manager.proactiveResolveNeighbor vlans pkt now jitter sends).1 other).neighCache.lookup host =
      ((manager.addHostFibRouteFromPkt vlans pkt now).1 other).neighCache.lookup host := by
  have routed := congrArg (List.lookup host) (@addHostFibRoute_neighCache manager
    (manager.addHostFibRouteFromPkt vlans pkt now).1 target pkt.l3Dst true other)
  rw [RouteManager.proactiveResolveNeighbor, found]
  refine Eq.trans ?_ routed
  dsimp only
  split
  · exact lookup_setEntry_of_ne different
  · exact (resolveGatewayFlows_lookup_of_ne different).trans (lookup_setEntry_of_ne different)

/-- The latest notice about a next hop. -/
def latest (key : Vid × IpAddress) (history : List Notice) : Option Notice :=
  history.find? fun notice => notice.about = key

theorem latest_proactiveNotices {target : Vid} {sends : IpAddress → Bool}
    (found : manager.neighborVlan vlans pkt = some target) {other : Vid} {host : IpAddress} :
    latest (target, pkt.l3Dst) ((manager.proactiveNotices vlans pkt now sends).reverse ++ history) ≠
      some (.heard other host) := by
  rw [RouteManager.proactiveNotices, found]
  dsimp only
  rw [List.reverse_append, List.append_assoc, latest, List.find?_append]
  split
  · simp [Notice.about]
  · rw [RouteManager.resolveNotices]
    split <;> simp [Notice.about]

theorem proactiveResolveNeighbor_untried {host : IpAddress} {jitter : IpAddress → ℕ}
    {sends : IpAddress → Bool} (heard : .heard vlan host ∈ manager.proactiveNotices vlans pkt now sends)
    (lastHeard : latest (vlan, host) ((manager.proactiveNotices vlans pkt now sends).reverse ++ history) =
      some (.heard vlan host)) :
    ∃ nexthop, ((manager.proactiveResolveNeighbor vlans pkt now jitter sends).1
      vlan).neighCache.lookup host = some nexthop ∧ nexthop.Untried := by
  cases found : manager.neighborVlan vlans pkt with
  | none =>
      rw [RouteManager.proactiveNotices, found] at heard
      cases heard
  | some target =>
      have different : (target, pkt.l3Dst) ≠ (vlan, host) := by
        intro same
        rw [← same] at lastHeard
        exact latest_proactiveNotices found lastHeard
      rw [proactiveResolveNeighbor_lookup_of_ne found different, RouteManager.addHostFibRouteFromPkt]
      rw [RouteManager.proactiveNotices, found] at heard
      dsimp only at heard
      rcases List.mem_append.mp heard with earlier | asking
      · rcases List.mem_append.mp earlier with earlier | wanted
        · rcases List.mem_append.mp earlier with learning | wanted
          · split at learning
            next isNeighbor =>
              obtain ⟨_, _, untried⟩ := learnNexthop_untried learning
              rw [if_pos isNeighbor]
              exact untried
            next => cases learning
          · exact absurd wanted heard_not_mem_addHostNotices
        · cases List.mem_singleton.mp wanted
      · split at asking
        · cases asking
        · exact absurd asking heard_not_mem_resolveNotices

/-- The entry of a next hop that an event lets the manager hear of is new after it. -/
theorem untried_of_watch {w next : Watched} {event : Event}
    (taken : manager.watch w event = some next) {host : IpAddress}
    (heard : .heard vlan host ∈ manager.notices w.state event)
    (lastHeard : latest (vlan, host) next.history = some (.heard vlan host)) :
    ∃ nexthop, (next.state.vlans vlan).neighCache.lookup host = some nexthop ∧ nexthop.Untried := by
  obtain ⟨after, stepped, rfl⟩ := Option.map_eq_some_iff.mp taken
  cases event with
  | addRoute vlan ipGw ipDst => cases heard
  | delRoute vlan ipDst => cases heard
  | resolveVipResponse pkt solicitedIp now =>
      obtain ⟨_, result⟩ := Option.ite_none_right_eq_some.mp stepped
      cases result
      rw [RouteManager.notices] at heard
      dsimp only [RouteManager.outcome]
      rw [RouteManager.resolveVipResponse]
      split at heard
      next answers =>
        rw [if_pos answers]
        exact (learnNexthop_untried heard).2.2
      next => cases heard
  | gwAdvert pkt targetIp now =>
      obtain ⟨_, result⟩ := Option.ite_none_right_eq_some.mp stepped
      cases result
      rw [RouteManager.notices] at heard
      dsimp only [RouteManager.outcome]
      rw [RouteManager.gwAdvert]
      split at heard
      next answers =>
        rw [if_pos answers]
        cases List.mem_singleton.mp heard
        exact ⟨_, updateNexthop_lookup, untried_new⟩
      next => cases heard
  | addHostFibRouteFromPkt pkt now =>
      obtain ⟨_, result⟩ := Option.ite_none_right_eq_some.mp stepped
      cases result
      rw [RouteManager.notices] at heard
      dsimp only [RouteManager.outcome]
      rw [RouteManager.addHostFibRouteFromPkt]
      split at heard
      next isNeighbor =>
        rw [if_pos isNeighbor]
        exact (learnNexthop_untried heard).2.2
      next => cases heard
  | proactiveResolveNeighbor pkt now jitter sends =>
      obtain ⟨_, result⟩ := Option.ite_none_right_eq_some.mp stepped
      cases result
      exact proactiveResolveNeighbor_untried heard lastHeard
  | resolveGateways vid now resolveAll jitter sends =>
      refine absurd rfl (forall_mem_resolveGatewaysNotices (p := (· ≠ .heard vlan host)) ?_ _ heard)
      intro vlans ipGw nexthop notice member same
      rw [same] at member
      exact heard_not_mem_resolveNotices member
  | resolveExpireHosts vid now resolveAll jitter sends =>
      refine absurd rfl (forall_mem_resolveGatewaysNotices (p := (· ≠ .heard vlan host)) ?_ _ heard)
      intro vlans ipGw nexthop notice member same
      rw [same] at member
      exact heard_not_mem_resolveExpireNotices member
  | portDown port => cases heard
  | addVlans vlans => cases heard
  | reconnect ports => cases heard

end Heard

/-! ## Resolution -/

/-- Next hops are asked for with a backoff, a host that has used up its requests expires in the next
cycle that comes to it when it is due, and one that is heard of starts again. -/
structure ResolvesNextHops (manager : RouteManager) (w : Watched) : Prop where
  backsOff : manager.BacksOff w.history
  expires : ∀ vlan now resolveAll jitter sends next ipGw nexthop,
    manager.watch w (.resolveExpireHosts vlan now resolveAll jitter sends) = some next →
    ipGw ∈ (RouteManager.unresolvedHosts w.state.vlans vlan now resolveAll).2.take
      manager.maxHostsPerResolveCycle →
    (w.state.vlans vlan).neighCache.lookup ipGw = some nexthop →
    nexthop.resolutionDue now manager.neighborTimeout = true →
    manager.maxHostFibRetryCount ≤ (asked (vlan, ipGw) w.history).length →
    .expired vlan ipGw ∈ manager.notices w.state
        (.resolveExpireHosts vlan now resolveAll jitter sends) ∧
      (next.state.vlans vlan).neighCache.lookup ipGw = none
  resets : ∀ event next vlan ipGw, manager.watch w event = some next →
    .heard vlan ipGw ∈ manager.notices w.state event →
    latest (vlan, ipGw) next.history = some (.heard vlan ipGw) →
    ∃ nexthop, (next.state.vlans vlan).neighCache.lookup ipGw = some nexthop ∧ nexthop.Untried

theorem unresolvedHosts_lookup {resolveAll : Option (List IpAddress)}
    (cached : (vlans vlan).neighCache.lookup ipGw = some nexthop) :
    ((RouteManager.unresolvedHosts vlans vlan now resolveAll).1 vlan).neighCache.lookup ipGw =
      some nexthop := by
  cases resolveAll with
  | none =>
      rw [RouteManager.unresolvedHosts]
      dsimp only
      rw [Function.update_self]
      exact cached
  | some unresolved =>
      rw [RouteManager.unresolvedHosts]
      dsimp only
      rw [Function.update_self]
      exact foldl_touch_of_some cached

theorem nodup_unresolvedHosts {resolveAll : Option (List IpAddress)}
    (nodup : ∀ unresolved ∈ resolveAll, unresolved.Nodup) :
    (RouteManager.unresolvedHosts vlans vlan now resolveAll).2.Nodup := by
  cases resolveAll with
  | none =>
      rw [RouteManager.unresolvedHosts]
      cases (vlans vlan).dynUnresolvedHostIpGws with
      | nil => exact List.nodup_nil
      | cons first rest => exact List.nodup_singleton first
  | some unresolved => exact nodup unresolved rfl

/-- What is tracked lets the hosts that have used up their requests expire. -/
theorem Tracked.resolves {w : Watched} (tracked : Tracked manager w.state.vlans w.history) :
    ResolvesNextHops manager w := by
  refine ⟨tracked.backsOff, ?_, fun _ _ _ _ taken heard last => untried_of_watch taken heard last⟩
  intro vlan now resolveAll jitter sends next ipGw nexthop taken member cached due usedUp
  obtain ⟨after, stepped, rfl⟩ := Option.map_eq_some_iff.mp taken
  obtain ⟨returned, result⟩ := Option.ite_none_right_eq_some.mp stepped
  cases result
  have remembers := (tracked.vlan vlan).remembers ipGw
  rw [cached] at remembers
  have dead : nexthop.dead manager.maxHostFibRetryCount = true :=
    decide_eq_true (usedUp.trans remembers.length_le)
  have nodup : (RouteManager.unresolvedHosts w.state.vlans vlan now resolveAll).2.Nodup := by
    refine nodup_unresolvedHosts fun unresolved listed => ?_
    cases listed
    exact (isUnresolvedNexthops_host returned).1
  dsimp only [RouteManager.outcome]
  rw [RouteManager.notices, RouteManager.resolveExpireHosts_eq]
  exact loop_expires nodup member (unresolvedHosts_lookup cached) due dead

/-- **Resolution backs off and dies.** A run in which no packet has a next hop resolved that has been
tried, and no gateway is asked for that has no route but its own, resolves the next hops. -/
theorem resolves_of_orderly (static : OneGateway manager)
    (positive : 0 < manager.maxHostFibRetryCount) {w : Watched}
    (reaches : Reaches manager.watch (Orderly manager) manager.watched w) : ResolvesNextHops manager w := by
  have tracked : Tracked manager w.state.vlans w.history := by
    refine Reaches.invariant (fun w : Watched => Tracked manager w.state.vlans w.history)
      (tracked_initial static) ?_ reaches
    intro state next event tracked orderly taken
    exact tracked_of_watch positive tracked orderly taken
  exact tracked.resolves

/-- A neighbour sends a packet to one that is not known. -/
def labPacket (now : ℤ) : Event :=
  .proactiveResolveNeighbor
    ⟨100, 1, 0x0e0000000003, Routes.labGateway 3, Routes.labGateway 7, true⟩ now
    (fun _ => 0) (fun _ => true)

/-- All hosts that are not fresh are asked for, which is the one that is not known. -/
def labCycle (now : ℤ) : Event :=
  .resolveExpireHosts 100 now (some [Routes.labGateway 7]) (fun _ => 0) (fun _ => true)

/-- The system after some events. -/
def labWatched (events : List Event) : Watched :=
  (exec lab.watch lab.watched events).getD lab.watched

theorem oneGateway_lab : OneGateway lab := by
  intro vlan route listed route' listed' _
  cases List.mem_singleton.mp listed
  cases List.mem_singleton.mp listed'
  rfl

theorem resolves_lab : ResolvesNextHops lab (labWatched [labPacket 0, labCycle 3]) ∧
    asked (100, Routes.labGateway 7) (labWatched [labPacket 0, labCycle 3]).history = [3, 0] := by
  have allowed : TransitionSystem.Allowed lab.watch (Orderly lab) lab.watched [labPacket 0, labCycle 3] := by
    refine ⟨?_, trivial, trivial⟩
    intro vlan _ nexthop cached
    contradiction
  have executed : exec lab.watch lab.watched [labPacket 0, labCycle 3] =
      some (labWatched [labPacket 0, labCycle 3]) := rfl
  exact ⟨resolves_of_orderly oneGateway_lab (by decide) (.of_exec _ allowed executed), by decide⟩

/-- The second packet has the entry replaced, and the cycle a second later asks again. -/
theorem not_resolves_of_replaced :
    exec lab.watch lab.watched [labPacket 0, labPacket 0, labCycle 1] =
      some (labWatched [labPacket 0, labPacket 0, labCycle 1]) ∧
    ¬ ResolvesNextHops lab (labWatched [labPacket 0, labPacket 0, labCycle 1]) := by
  refine ⟨rfl, fun resolves => ?_⟩
  have asksAgain : (labWatched [labPacket 0, labPacket 0, labCycle 1]).history =
      .requested 100 (Routes.labGateway 7) 1 true :: (labWatched [labPacket 0, labPacket 0]).history :=
    rfl
  have times : asked (100, Routes.labGateway 7) (labWatched [labPacket 0, labPacket 0]).history =
      [0] := by decide
  have backsOff := resolves.backsOff
  rw [asksAgain] at backsOff
  have rested := backsOff.1.1
  rw [times] at rested
  simp [Rested, lab] at rested

end Faucet.Route
