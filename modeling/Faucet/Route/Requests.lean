import Faucet.Route.Manager

/-!
# Resolution requests

The history of the next hops of all VLANs: when a request for one is sent, when it is heard
of, when a packet shows that it is wanted, and when it expires. It is what an observer sees;
the route manager itself only has the retries in the entries of its cache.

`BacksOff` says of a history that after the `k`-th request for a next hop, which has
not been heard of since, the next one comes no sooner than the backoff, that a host gets no more
than its requests, and that none is sent for a next hop that has expired until it is
wanted again.
-/

set_option autoImplicit false

namespace Faucet.Route

open Vlan

/-- What is noticed about a next hop of a VLAN; a request is for a host or for a gateway. -/
inductive Notice where
  | requested (vlan : Vid) (ipGw : IpAddress) (now : ℤ) (host : Bool)
  | heard (vlan : Vid) (ipGw : IpAddress)
  | wanted (vlan : Vid) (ipGw : IpAddress)
  | expired (vlan : Vid) (ipGw : IpAddress)

/-- The next hop that a notice is about. -/
def Notice.about : Notice → Vid × IpAddress
  | requested vlan ipGw _ _ => (vlan, ipGw)
  | heard vlan ipGw => (vlan, ipGw)
  | wanted vlan ipGw => (vlan, ipGw)
  | expired vlan ipGw => (vlan, ipGw)

/-! ## Histories, the latest notice first -/

/-- The times of the requests since the next hop was last heard of or expired. -/
def asked (nexthop : Vid × IpAddress) : List Notice → List ℤ
  | [] => []
  | notice :: earlier =>
      if notice.about = nexthop then
        match notice with
        | .requested _ _ now _ => now :: asked nexthop earlier
        | .wanted _ _ => asked nexthop earlier
        | _ => []
      else asked nexthop earlier

/-- The next hop has expired, and has not been heard of or wanted since. -/
def gone (nexthop : Vid × IpAddress) : List Notice → Bool
  | [] => false
  | notice :: earlier =>
      if notice.about = nexthop then
        match notice with
        | .requested _ _ _ _ => gone nexthop earlier
        | .expired _ _ => true
        | _ => false
      else gone nexthop earlier

/-- The `k`-th request was sent so long ago that the next may be. -/
def Rested (maxResolveBackoffTime : ℕ) (now : ℤ) : List ℤ → Prop
  | [] => True
  | last :: earlier =>
      last + (min (2 ^ (earlier.length + 1)) maxResolveBackoffTime : ℕ) ≤ now

namespace RouteManager

variable (manager : RouteManager)

/-- What a request has to meet. -/
def Due (history : List Notice) : Notice → Prop
  | .requested vlan ipGw now host =>
      Rested manager.maxResolveBackoffTime now (asked (vlan, ipGw) history) ∧
        (host = true → (asked (vlan, ipGw) history).length < manager.maxHostFibRetryCount) ∧
        gone (vlan, ipGw) history = false
  | _ => True

/-- All requests of the history have met it. -/
def BacksOff : List Notice → Prop
  | [] => True
  | notice :: earlier => manager.Due earlier notice ∧ BacksOff earlier

/-! ## What the handlers notice -/

variable (vlans : Vlans)

/-- `_resolve_gateway_flows` sends a request. -/
def resolveNotices (vlan : Vid) (now : ℤ) (sends : IpAddress → Bool) (ipGw : IpAddress) : List Notice :=
  if ((manager.vlan vlan).vipMap ipGw).isSome && sends ipGw then
    [.requested vlan ipGw now (ipGw ∈ (vlans vlan).routes.dynHostGwsByIpv manager.ipv)]
  else []

/-- `_resolve_expire_gateway_flows` sends a request, or the next hop expires. -/
def resolveExpireNotices (vlan : Vid) (now : ℤ) (sends : IpAddress → Bool) (ipGw : IpAddress)
    (nexthop : NextHop) : List Notice :=
  if nexthop.dead manager.maxHostFibRetryCount then [.expired vlan ipGw]
  else manager.resolveNotices vlans vlan now sends ipGw

/-- `_resolve_gateways_flows`, with what its handler notices. -/
def resolveGatewaysNotices (handler : Vlans → IpAddress → NextHop → Vlans × List FibMod × Bool)
    (notices : Vlans → IpAddress → NextHop → List Notice) (vlan : Vid) (now : ℤ) :
    Vlans → List IpAddress → ℕ → List Notice
  | _, [], _ => []
  | _, _ :: _, 0 => []
  | vlans, ipGw :: rest, remaining + 1 =>
      match (vlans vlan).neighCache.lookup ipGw with
      | none => resolveGatewaysNotices handler notices vlan now vlans rest (remaining + 1)
      | some nexthop =>
          if nexthop.resolutionDue now manager.neighborTimeout then
            notices vlans ipGw nexthop ++
              resolveGatewaysNotices handler notices vlan now (handler vlans ipGw nexthop).1 rest
                (if (handler vlans ipGw nexthop).2.2 then remaining else remaining + 1)
          else resolveGatewaysNotices handler notices vlan now vlans rest (remaining + 1)

/-- The handler of `resolve_gateways`. -/
def resolveHandler (vlan : Vid) (now : ℤ) (jitter : IpAddress → ℕ) (sends : IpAddress → Bool)
    (vlans : Vlans) (ipGw : IpAddress) (nexthop : NextHop) : Vlans × List FibMod × Bool :=
  ((manager.resolveGatewayFlows vlans ipGw nexthop vlan now jitter sends).1, [],
    (manager.resolveGatewayFlows vlans ipGw nexthop vlan now jitter sends).2)

/-- The gateways that `resolve_gateways` looks at, and its state when it does. -/
def unresolvedGateways (vlan : Vid) (now : ℤ) (resolveAll : Option (List IpAddress)) :
    Vlans × List IpAddress :=
  let state := vlans vlan
  match resolveAll with
  | some unresolved =>
      (Function.update vlans vlan
        { unresolved.foldl (touch now) state with dynUnresolvedRouteIpGws := unresolved }, unresolved)
  | none =>
      (Function.update vlans vlan
        { state with dynUnresolvedRouteIpGws := state.dynUnresolvedRouteIpGws.tail },
        state.dynUnresolvedRouteIpGws.take 1)

/-- The hosts that `resolve_expire_hosts` looks at, and its state when it does. -/
def unresolvedHosts (vlan : Vid) (now : ℤ) (resolveAll : Option (List IpAddress)) :
    Vlans × List IpAddress :=
  let state := vlans vlan
  match resolveAll with
  | some unresolved =>
      (Function.update vlans vlan
        { unresolved.foldl (touch now) state with dynUnresolvedHostIpGws := unresolved }, unresolved)
  | none =>
      (Function.update vlans vlan
        { state with dynUnresolvedHostIpGws := state.dynUnresolvedHostIpGws.tail },
        state.dynUnresolvedHostIpGws.take 1)

/-- `_add_host_fib_route`: the address is wanted in the VLAN that the route is added to. -/
def addHostNotices (vlan : Vid) (hostIp : IpAddress) : List Notice :=
  match manager.routerVlanForIpGw vlan hostIp with
  | some target => [.wanted target hostIp]
  | none => []

/-- The sender of a packet is learned. -/
def learnNotices (pkt : Packet) : List Notice :=
  manager.addHostNotices pkt.vlan pkt.l3Src ++ [.heard pkt.vlan pkt.l3Src]

/-- `_proactive_resolve_neighbor` -/
def proactiveNotices (pkt : Packet) (now : ℤ) (sends : IpAddress → Bool) : List Notice :=
  match manager.neighborVlan vlans pkt with
  | none => []
  | some vlan =>
      let learned := if manager.senderIsNeighbor vlans pkt && pkt.hasIp then manager.learnNotices pkt
        else []
      let vlans := (manager.addHostFibRouteFromPkt vlans pkt now).1
      let resolutionInProgress := pkt.l3Dst ∈ (vlans vlan).routes.dynHostGwsByIpv manager.ipv
      let vlans := (manager.addHostFibRoute vlans vlan pkt.l3Dst true).1
      learned ++ manager.addHostNotices vlan pkt.l3Dst ++ [.wanted vlan pkt.l3Dst] ++
        if resolutionInProgress then []
        else manager.resolveNotices vlans vlan now sends pkt.l3Dst

/-- The notices of an event, in their order. -/
def notices (s : State) : Event → List Notice
  | .resolveVipResponse pkt solicitedIp _ =>
      if (manager.vlan pkt.vlan).isFaucetVip solicitedIp && manager.senderIsNeighbor s.vlans pkt then
        manager.learnNotices pkt
      else []
  | .gwAdvert pkt targetIp _ =>
      if ((manager.vlan pkt.vlan).ipInVipSubnet targetIp none).isSome &&
          (s.vlans pkt.vlan).statefulGw targetIp then
        [.heard pkt.vlan targetIp]
      else []
  | .addHostFibRouteFromPkt pkt _ =>
      if manager.senderIsNeighbor s.vlans pkt && pkt.hasIp then manager.learnNotices pkt else []
  | .proactiveResolveNeighbor pkt now _ sends => manager.proactiveNotices s.vlans pkt now sends
  | .resolveGateways vlan now resolveAll jitter sends =>
      let unresolved := unresolvedGateways s.vlans vlan now resolveAll
      manager.resolveGatewaysNotices (manager.resolveHandler vlan now jitter sends)
        (fun vlans ipGw _ => manager.resolveNotices vlans vlan now sends ipGw) vlan now
        unresolved.1 unresolved.2 manager.maxHostsPerResolveCycle
  | .resolveExpireHosts vlan now resolveAll jitter sends =>
      let unresolved := unresolvedHosts s.vlans vlan now resolveAll
      manager.resolveGatewaysNotices
        (fun vlans => manager.resolveExpireGatewayFlows vlans vlan now jitter sends)
        (fun vlans => manager.resolveExpireNotices vlans vlan now sends) vlan now
        unresolved.1 unresolved.2 manager.maxHostsPerResolveCycle
  | _ => []

end RouteManager

/-! ## The system with its history -/

/-- A state with what has been seen of the requests, the latest first. -/
structure Watched where
  state : State
  history : List Notice

namespace RouteManager

variable (manager : RouteManager)

/-- An event, with what is seen of it. -/
def watch (w : Watched) (event : Event) : Option Watched :=
  (manager.step w.state event).map fun next =>
    { state := next, history := (manager.notices w.state event).reverse ++ w.history }

/-- The start, of which nothing has been seen. -/
def watched : Watched where
  state := manager.initial
  history := []

theorem resolveGateways_eq (vlans : Vlans) (vlan : Vid) (now : ℤ)
    (resolveAll : Option (List IpAddress)) (jitter : IpAddress → ℕ) (sends : IpAddress → Bool) :
    manager.resolveGateways vlans vlan now resolveAll jitter sends =
      manager.resolveGatewaysFlows (manager.resolveHandler vlan now jitter sends) vlan now
        (unresolvedGateways vlans vlan now resolveAll).1
        (unresolvedGateways vlans vlan now resolveAll).2 manager.maxHostsPerResolveCycle := by
  cases resolveAll <;> rfl

theorem resolveExpireHosts_eq (vlans : Vlans) (vlan : Vid) (now : ℤ)
    (resolveAll : Option (List IpAddress)) (jitter : IpAddress → ℕ) (sends : IpAddress → Bool) :
    manager.resolveExpireHosts vlans vlan now resolveAll jitter sends =
      manager.resolveGatewaysFlows
        (fun vlans => manager.resolveExpireGatewayFlows vlans vlan now jitter sends) vlan now
        (unresolvedHosts vlans vlan now resolveAll).1
        (unresolvedHosts vlans vlan now resolveAll).2 manager.maxHostsPerResolveCycle := by
  cases resolveAll <;> rfl

end RouteManager

end Faucet.Route
