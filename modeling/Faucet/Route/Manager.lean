import Faucet.Library.OrderedDict
import Faucet.Library.TransitionSystem
import Faucet.Vlan.Routes

/-!
# The route manager

There is one route manager for each IP version. It keeps the route tables and the
cache of next hops of every VLAN, and writes flows to the `fib` table of the
switch: for a route whose gateway is resolved a flow that rewrites the MAC
addresses, for an address that is being resolved a flow that drops, and for its own
addresses flows to the `vip` table. A flow is written for every VLAN that is routed
together with the VLAN of the route.

The priority of a flow in the `fib` table is that of its prefix length, so a VLAN
and a destination are its key. Messages other than those to the `fib` table are
left out, except for whether there are any.
-/

set_option autoImplicit false

namespace Faucet.Route

open Vlan

/-- A VLAN id. -/
abbrev Vid := ℕ

/-- A MAC address. -/
abbrev Mac := ℕ

/-! ## The switch -/

/-- The actions of a FIB flow. -/
inductive FibAction where
  | decIpTtl
  | setVlanVid (vid : Vid)
  | setEthSrc (mac : Mac)
  | setEthDst (mac : Mac)
deriving DecidableEq, Repr

/-- A flow of the `fib` table: to the L2 tables with rewritten addresses, to nowhere,
or to the `vip` table. -/
inductive FibFlow where
  | forward (actions : List FibAction)
  | drop
  | toVip
deriving DecidableEq, Repr

/-- The `fib` table by the VLAN and the destination of a flow. -/
abbrev Fib := Vid × IpNetwork → Option FibFlow

/-- A message to the `fib` table. -/
inductive FibMod where
  | flowmod (vid : Vid) (ipDst : IpNetwork) (flow : FibFlow)
  | flowdel (vid : Vid) (ipDst : IpNetwork)
deriving DecidableEq, Repr

/-- The switch adds or deletes the flow. -/
def FibMod.apply (fib : Fib) : FibMod → Fib
  | flowmod vid ipDst flow => Function.update fib (vid, ipDst) (some flow)
  | flowdel vid ipDst => Function.update fib (vid, ipDst) none

/-- The messages are applied in their order. -/
def applyAll (ofmsgs : List FibMod) (fib : Fib) : Fib := ofmsgs.foldl FibMod.apply fib

/-! ## Next hops -/

/-- An entry of the next hop cache. -/
structure NextHop where
  ethSrc : Option Mac
  port : Option ℕ
  cacheTime : ℤ
  resolveRetries : ℕ
  lastRetryTime : Option ℤ
  nextRetryTime : Option ℤ
deriving DecidableEq, Repr

namespace NextHop

/-- `NextHop.__init__` -/
def new (ethSrc : Option Mac) (port : Option ℕ) (now : ℤ) : NextHop where
  ethSrc := ethSrc
  port := port
  cacheTime := now
  resolveRetries := 0
  lastRetryTime := none
  nextRetryTime := if ethSrc.isNone then some now else none

/-- `age` -/
def age (nexthop : NextHop) (now : ℤ) : ℤ := now - nexthop.cacheTime

/-- `dead` -/
def dead (nexthop : NextHop) (maxFibRetries : ℕ) : Bool := maxFibRetries ≤ nexthop.resolveRetries

/-- `next_retry`, with what `random.randint` adds. -/
def nextRetry (nexthop : NextHop) (now : ℤ) (maxResolveBackoffTime jitter : ℕ) : NextHop :=
  let resolveRetries := nexthop.resolveRetries + 1
  { nexthop with
    resolveRetries := resolveRetries
    lastRetryTime := some now
    nextRetryTime := some (now + (min (2 ^ resolveRetries + jitter) maxResolveBackoffTime : ℕ)) }

/-- `resolution_due` -/
def resolutionDue (nexthop : NextHop) (now maxAge : ℤ) : Bool :=
  if nexthop.ethSrc.isSome && nexthop.age now < maxAge then false
  else match nexthop.nextRetryTime with
    | none => true
    | some nextRetryTime => nextRetryTime < now

end NextHop

/-! ## VLANs and routers -/

/-- The configuration of a VLAN. -/
structure VlanConfig where
  faucetMac : Mac
  faucetVips : List IpInterface
  proactiveLimit : Option ℕ
  routes : List (IpNetwork × IpAddress)

/-- What a VLAN keeps for one IP version. -/
structure VlanState where
  routes : Routes
  neighCache : List (IpAddress × NextHop)
  dynUnresolvedRouteIpGws : List IpAddress
  dynUnresolvedHostIpGws : List IpAddress

/-- The state of each VLAN. -/
abbrev Vlans := Vid → VlanState

/-- A router; its `vip_map` looks an address up in a table of prefixes. -/
structure Router where
  vlans : List Vid
  vipMap : IpAddress → Option (Vid × IpInterface)

namespace VlanConfig

variable (vlan : VlanConfig)

/-- `vip_map` -/
def vipMap (ipa : IpAddress) : Option IpInterface :=
  vlan.faucetVips.find? (·.network.contains ipa)

/-- `is_faucet_vip` -/
def isFaucetVip (ipa : IpAddress) : Bool :=
  match vlan.vipMap ipa with
  | some faucetVip => ipa = faucetVip.ip
  | none => false

/-- `ip_in_vip_subnet`; without an interface it is that of the VLAN. -/
def ipInVipSubnet (ipa : IpAddress) (faucetVip : Option IpInterface) : Option IpInterface :=
  match faucetVip.or (vlan.vipMap ipa) with
  | some faucetVip =>
      if ipa = faucetVip.network.networkAddress ∨ ipa = faucetVip.network.broadcastAddress then none
      else some faucetVip
  | none => none

end VlanConfig

namespace VlanState

variable (state : VlanState)

/-- `_cached_nexthop_eth_dst` -/
def cachedNexthopEthDst (ipGw : IpAddress) : Option Mac :=
  (state.neighCache.lookup ipGw).bind (·.ethSrc)

/-- `_update_nexthop_cache` -/
def updateNexthopCache (now : ℤ) (ethSrc : Option Mac) (port : Option ℕ) (ipGw : IpAddress) :
    VlanState :=
  { state with neighCache := OrderedDict.set state.neighCache ipGw (.new ethSrc port now) }

/-- The entry of a next hop is deleted. -/
def delNexthopCacheEntry (ipGw : IpAddress) : VlanState :=
  { state with neighCache := OrderedDict.del state.neighCache ipGw }

/-- A gateway with a link local address is only kept when it has routes. -/
def statefulGw (dstIp : IpAddress) : Bool :=
  !dstIp.isLinkLocal || !(state.routes.ipDstsForIpGw dstIp).isEmpty

end VlanState

/-- A packet whose addresses have been read. -/
structure Packet where
  vlan : Vid
  port : ℕ
  ethSrc : Mac
  l3Src : IpAddress
  l3Dst : IpAddress
  hasIp : Bool
deriving DecidableEq, Repr

/-- `ValveRouteManager` of one IP version. -/
structure RouteManager where
  ipv : IpVersion
  globalVlan : Vid
  routers : List Router
  vlans : List Vid
  vlan : Vid → VlanConfig
  portVlans : ℕ → List Vid
  decTtl : Bool
  proactiveLearn : Bool
  neighborTimeout : ℤ
  maxHostFibRetryCount : ℕ
  maxResolveBackoffTime : ℕ
  maxHostsPerResolveCycle : ℕ

namespace RouteManager

variable (manager : RouteManager) (vlans : Vlans)

/-- `_global_routing` -/
def globalRouting : Bool := manager.globalVlan != 0 && manager.routers.length == 1

/-- `_router_for_vlan` -/
def routerForVlan (vlan : Vid) : Option Router := manager.routers.find? (·.vlans.contains vlan)

/-- `_routed_vlans` -/
def routedVlans (vlan : Vid) : List Vid :=
  if manager.globalRouting then [manager.globalVlan]
  else (vlan :: (manager.routers.filter (·.vlans.contains vlan)).flatMap (·.vlans)).dedup

/-- `router_vlan_for_ip_gw` -/
def routerVlanForIpGw (vlan : Vid) (ipGw : IpAddress) : Option Vid :=
  match manager.routerForVlan vlan with
  | some router => (router.vipMap ipGw).map (·.1)
  | none => if ((manager.vlan vlan).vipMap ipGw).isSome then some vlan else none

/-! ## Flows of routes -/

/-- `_nexthop_actions` -/
def nexthopActions (ethDst : Mac) (vlan : Vid) : List FibAction :=
  (if manager.decTtl then [.decIpTtl] else []) ++
    (if manager.routers.isEmpty then [] else [.setVlanVid vlan]) ++
    [.setEthSrc (manager.vlan vlan).faucetMac, .setEthDst ethDst]

/-- `_del_route_flows` -/
def delRouteFlows (vlan : Vid) (ipDst : IpNetwork) : List FibMod :=
  (manager.routedVlans vlan).map fun routedVlan => .flowdel routedVlan ipDst

/-- `_add_resolved_route` -/
def addResolvedRoute (vlan : Vid) (ipDst : IpNetwork) (ethDst : Mac) (isUpdated : Bool) :
    List FibMod :=
  (if isUpdated then manager.delRouteFlows vlan ipDst else []) ++
    (manager.routedVlans vlan).map fun routedVlan =>
      .flowmod routedVlan ipDst (.forward (manager.nexthopActions ethDst vlan))

/-- `add_route`. No network is a member of another one, so that the test for one of
the controller's addresses is false. -/
def addRoute (vlan : Vid) (ipGw : IpAddress) (ipDst : IpNetwork) : Vlans × List FibMod :=
  match manager.routerVlanForIpGw vlan ipGw with
  | none => (vlans, [])
  | some vlan =>
      let state := vlans vlan
      if state.routes.dynRoutesByIpv manager.ipv ipDst = some ipGw then (vlans, [])
      else
        let ofmsgs := match state.cachedNexthopEthDst ipGw with
          | some ethDst => manager.addResolvedRoute vlan ipDst ethDst false
          | none => []
        (Function.update vlans vlan { state with routes := state.routes.addRoute ipDst ipGw }, ofmsgs)

/-- `del_route` -/
def delRoute (vlan : Vid) (ipDst : IpNetwork) : Vlans × List FibMod :=
  let state := vlans vlan
  match state.routes.dynRoutesByIpv manager.ipv ipDst with
  | none => (vlans, [])
  | some _ =>
      (Function.update vlans vlan
        { state with routes := (state.routes.delRoute ipDst).getD state.routes },
        manager.delRouteFlows vlan ipDst)

/-- `_add_host_fib_route` -/
def addHostFibRoute (vlan : Vid) (hostIp : IpAddress) (blackhole : Bool) : Vlans × List FibMod :=
  let drops := if blackhole then
      (manager.routedVlans vlan).map fun routedVlan => .flowmod routedVlan (.ofHost hostIp) .drop
    else []
  let (vlans, ofmsgs) := manager.addRoute vlans vlan hostIp (.ofHost hostIp)
  (vlans, drops ++ ofmsgs)

/-- `_update_nexthop` -/
def updateNexthop (now : ℤ) (vlan : Vid) (port : ℕ) (ethSrc : Mac) (resolvedIpGw : IpAddress) :
    Vlans × List FibMod :=
  let state := vlans vlan
  let cachedEthDst := state.cachedNexthopEthDst resolvedIpGw
  let ofmsgs := if cachedEthDst = some ethSrc then []
    else (state.routes.ipDstsForIpGw resolvedIpGw).flatMap fun ipDst =>
      manager.addResolvedRoute vlan ipDst ethSrc cachedEthDst.isSome
  (Function.update vlans vlan
    (state.updateNexthopCache now (some ethSrc) (some port) resolvedIpGw), ofmsgs)

/-! ## Packets -/

/-- `_add_host_fib_route` and `_update_nexthop` for the sender of a packet. -/
def learnNexthop (pkt : Packet) (now : ℤ) : Vlans × List FibMod :=
  let (vlans, added) := manager.addHostFibRoute vlans pkt.vlan pkt.l3Src false
  let (vlans, updated) := manager.updateNexthop vlans now pkt.vlan pkt.port pkt.ethSrc pkt.l3Src
  (vlans, added ++ updated)

/-- The packet comes from a connected network and its sender is kept as a next hop. -/
def senderIsNeighbor (pkt : Packet) : Bool :=
  ((manager.vlan pkt.vlan).ipInVipSubnet pkt.l3Src none).isSome &&
    (vlans pkt.vlan).statefulGw pkt.l3Src

/-- `_resolve_vip_response`: a neighbour asks for one of the controller's addresses. -/
def resolveVipResponse (pkt : Packet) (solicitedIp : IpAddress) (now : ℤ) : Vlans × List FibMod :=
  if (manager.vlan pkt.vlan).isFaucetVip solicitedIp && manager.senderIsNeighbor vlans pkt then
    manager.learnNexthop vlans pkt now
  else (vlans, [])

/-- `_gw_advert`: a neighbour answers. -/
def gwAdvert (pkt : Packet) (targetIp : IpAddress) (now : ℤ) : Vlans × List FibMod :=
  if ((manager.vlan pkt.vlan).ipInVipSubnet targetIp none).isSome &&
      (vlans pkt.vlan).statefulGw targetIp then
    manager.updateNexthop vlans now pkt.vlan pkt.port pkt.ethSrc targetIp
  else (vlans, [])

/-- `add_host_fib_route_from_pkt` -/
def addHostFibRouteFromPkt (pkt : Packet) (now : ℤ) : Vlans × List FibMod :=
  if manager.senderIsNeighbor vlans pkt && pkt.hasIp then manager.learnNexthop vlans pkt now
  else (vlans, [])

/-- `_resolve_gateway_flows`, and whether it sends anything. -/
def resolveGatewayFlows (ipGw : IpAddress) (nexthop : NextHop) (vlan : Vid) (now : ℤ)
    (jitter : IpAddress → ℕ) (sends : IpAddress → Bool) : Vlans × Bool :=
  if ((manager.vlan vlan).vipMap ipGw).isNone then (vlans, false)
  else
    let nexthop := nexthop.nextRetry now manager.maxResolveBackoffTime (jitter ipGw)
    (Function.update vlans vlan
      { vlans vlan with neighCache := OrderedDict.set (vlans vlan).neighCache ipGw nexthop },
      sends ipGw)

/-- The VLAN in which the destination of a packet is resolved, if it is. -/
def neighborVlan (pkt : Packet) : Option Vid :=
  if !manager.proactiveLearn then none
  else
    let found := match manager.routerForVlan pkt.vlan with
      | none => ((manager.vlan pkt.vlan).vipMap pkt.l3Dst).map fun faucetVip => (pkt.vlan, faucetVip)
      | some router => router.vipMap pkt.l3Dst
    match found with
    | none => none
    | some (vlan, faucetVip) =>
        if ((manager.vlan vlan).ipInVipSubnet pkt.l3Dst (some faucetVip)).isSome &&
            faucetVip.ip != pkt.l3Dst && (vlans vlan).statefulGw pkt.l3Dst &&
            ((manager.vlan vlan).proactiveLimit.all ((vlans vlan).neighCache.length < ·)) then
          some vlan
        else none

/-- `_proactive_resolve_neighbor` -/
def proactiveResolveNeighbor (pkt : Packet) (now : ℤ) (jitter : IpAddress → ℕ)
    (sends : IpAddress → Bool) : Vlans × List FibMod :=
  match manager.neighborVlan vlans pkt with
  | none => (vlans, [])
  | some vlan =>
      let dstIp := pkt.l3Dst
      let (vlans, learned) := manager.addHostFibRouteFromPkt vlans pkt now
      let resolutionInProgress := dstIp ∈ (vlans vlan).routes.dynHostGwsByIpv manager.ipv
      let (vlans, added) := manager.addHostFibRoute vlans vlan dstIp true
      let vlans := Function.update vlans vlan
        ((vlans vlan).updateNexthopCache now none none dstIp)
      let vlans := if resolutionInProgress then vlans
        else (manager.resolveGatewayFlows vlans dstIp (.new none none now) vlan now jitter sends).1
      (vlans, learned ++ added)

/-! ## Refreshing and expiring next hops -/

/-- `_expire_gateway_flows` -/
def expireGatewayFlows (ipGw : IpAddress) (nexthop : NextHop) (vlan : Vid) : Vlans × List FibMod :=
  let vlans := Function.update vlans vlan ((vlans vlan).delNexthopCacheEntry ipGw)
  let (vlans, hostFlows) := manager.delRoute vlans vlan (.ofHost ipGw)
  let routeFlows := ((vlans vlan).routes.ipDstsForIpGw ipGw).flatMap (manager.delRouteFlows vlan)
  (vlans, if nexthop.port.isNone then [] else hostFlows ++ routeFlows)

/-- `_expire_nexthops` -/
def expireNexthops (vlan : Vid) : Vlans → List (IpAddress × NextHop) → Vlans × List FibMod
  | vlans, [] => (vlans, [])
  | vlans, (ipGw, nexthop) :: rest =>
      let (vlans, expired) := manager.expireGatewayFlows vlans ipGw nexthop vlan
      let (vlans, ofmsgs) := expireNexthops vlan vlans rest
      (vlans, expired ++ ofmsgs)

/-- `expire_port_nexthops`, for the given VLANs of the port. -/
def expirePortNexthops (port : ℕ) : Vlans → List Vid → Vlans × List FibMod
  | vlans, [] => (vlans, [])
  | vlans, vlan :: rest =>
      let deadNexthops := (vlans vlan).neighCache.filter fun pair => pair.2.port == some port
      let (vlans, expired) := manager.expireNexthops vlan vlans deadNexthops
      let (vlans, ofmsgs) := expirePortNexthops port vlans rest
      (vlans, expired ++ ofmsgs)

/-- The gateway has no entry in the cache or one that is due. -/
def notFresh (state : VlanState) (now : ℤ) (ipGw : IpAddress) : Bool :=
  match state.neighCache.lookup ipGw with
  | none => true
  | some nexthop => nexthop.resolutionDue now manager.neighborTimeout

/-- The retries of a gateway; an entry that has just been made has none. -/
def retries (state : VlanState) (ipGw : IpAddress) : ℕ :=
  match state.neighCache.lookup ipGw with
  | none => 0
  | some nexthop => nexthop.resolveRetries

/-- The list is one that `_vlan_unresolved_nexthops` may return: the gateways that are
not fresh by their retries, in any order among those with as many. -/
def isUnresolvedNexthops (state : VlanState) (ipGws : Finset IpAddress) (now : ℤ)
    (unresolved : List IpAddress) : Bool :=
  unresolved.Nodup ∧ unresolved.toFinset = ipGws.filter (manager.notFresh state now ·) ∧
    unresolved.Pairwise fun first second => retries state first ≤ retries state second

/-- The entries that `_vlan_unresolved_nexthops` makes for gateways without one. -/
def touch (now : ℤ) (state : VlanState) (ipGw : IpAddress) : VlanState :=
  match state.neighCache.lookup ipGw with
  | none => state.updateNexthopCache now none none ipGw
  | some _ => state

/-- `_resolve_gateways_flows`; the handler says whether it sends anything. -/
def resolveGatewaysFlows (handler : Vlans → IpAddress → NextHop → Vlans × List FibMod × Bool)
    (vlan : Vid) (now : ℤ) : Vlans → List IpAddress → ℕ → Vlans × List FibMod
  | vlans, [], _ => (vlans, [])
  | vlans, _ :: _, 0 => (vlans, [])
  | vlans, ipGw :: rest, remaining + 1 =>
      match (vlans vlan).neighCache.lookup ipGw with
      | none => resolveGatewaysFlows handler vlan now vlans rest (remaining + 1)
      | some nexthop =>
          if nexthop.resolutionDue now manager.neighborTimeout then
            let (vlans, resolved, sent) := handler vlans ipGw nexthop
            let (vlans, ofmsgs) := resolveGatewaysFlows handler vlan now vlans rest
              (if sent then remaining else remaining + 1)
            (vlans, resolved ++ ofmsgs)
          else resolveGatewaysFlows handler vlan now vlans rest (remaining + 1)

/-- `resolve_gateways`: all gateways that the list names, or the next of those left. -/
def resolveGateways (vlan : Vid) (now : ℤ) (resolveAll : Option (List IpAddress))
    (jitter : IpAddress → ℕ) (sends : IpAddress → Bool) : Vlans × List FibMod :=
  let state := vlans vlan
  let (state, unresolved) := match resolveAll with
    | some unresolved =>
        ({ unresolved.foldl (touch now) state with dynUnresolvedRouteIpGws := unresolved }, unresolved)
    | none =>
        ({ state with dynUnresolvedRouteIpGws := state.dynUnresolvedRouteIpGws.tail },
          state.dynUnresolvedRouteIpGws.take 1)
  manager.resolveGatewaysFlows
    (fun vlans ipGw nexthop =>
      let (vlans, sent) := manager.resolveGatewayFlows vlans ipGw nexthop vlan now jitter sends
      (vlans, [], sent))
    vlan now (Function.update vlans vlan state) unresolved manager.maxHostsPerResolveCycle

/-- `_resolve_expire_gateway_flows` -/
def resolveExpireGatewayFlows (vlan : Vid) (now : ℤ) (jitter : IpAddress → ℕ)
    (sends : IpAddress → Bool) (ipGw : IpAddress) (nexthop : NextHop) :
    Vlans × List FibMod × Bool :=
  if nexthop.dead manager.maxHostFibRetryCount then
    let (vlans, ofmsgs) := manager.expireGatewayFlows vlans ipGw nexthop vlan
    (vlans, ofmsgs, !ofmsgs.isEmpty)
  else
    let (vlans, sent) := manager.resolveGatewayFlows vlans ipGw nexthop vlan now jitter sends
    (vlans, [], sent)

/-- `resolve_expire_hosts` -/
def resolveExpireHosts (vlan : Vid) (now : ℤ) (resolveAll : Option (List IpAddress))
    (jitter : IpAddress → ℕ) (sends : IpAddress → Bool) : Vlans × List FibMod :=
  let state := vlans vlan
  let (state, unresolved) := match resolveAll with
    | some unresolved =>
        ({ unresolved.foldl (touch now) state with dynUnresolvedHostIpGws := unresolved }, unresolved)
    | none =>
        ({ state with dynUnresolvedHostIpGws := state.dynUnresolvedHostIpGws.tail },
          state.dynUnresolvedHostIpGws.take 1)
  manager.resolveGatewaysFlows
    (fun vlans => manager.resolveExpireGatewayFlows vlans vlan now jitter sends)
    vlan now (Function.update vlans vlan state) unresolved manager.maxHostsPerResolveCycle

/-! ## Ports and the datapath -/

/-- The controller's own flows that `add_vlan` writes to the `fib` table. -/
def addVlan (vlan : Vid) (coldStart : Bool) : List FibMod :=
  let vips := fun vlan => (manager.vlan vlan).faucetVips.filter (·.ip.version = manager.ipv)
  let fibVlan := if manager.globalRouting then manager.globalVlan else vlan
  let own := (vips vlan).flatMap fun faucetVip =>
    [.flowmod fibVlan (.ofHost faucetVip.ip) .toVip] ++
    (if manager.proactiveLearn && !faucetVip.ip.isLinkLocal then
      (manager.routedVlans fibVlan).map fun routedVlan => .flowmod routedVlan faucetVip.network .toVip
    else []) ++
    (match manager.ipv with
      | .v4 => []
      | .v6 => [.flowmod fibVlan (.ofHost faucetVip.network.broadcastAddress) .toVip])
  let others := if coldStart || manager.globalRouting then []
    else ((manager.routedVlans vlan).filter (· ≠ vlan)).flatMap fun routedVlan =>
      (vips routedVlan).flatMap fun faucetVip =>
        if manager.proactiveLearn && !faucetVip.ip.isLinkLocal then
          [.flowmod vlan faucetVip.network .toVip]
        else []
  own ++ others

/-- `reset_caches` -/
def resetCaches (state : VlanState) : VlanState :=
  { state with neighCache := [], dynUnresolvedRouteIpGws := [], dynUnresolvedHostIpGws := [] }

/-- The `fib` table after all flows have been deleted and those of the VLANs written. -/
def coldFib : Fib :=
  applyAll (manager.vlans.flatMap fun vlan => manager.addVlan vlan true) fun _ => none

/-- `expire_port_nexthops` for every port that is deleted. -/
def disconnect : Vlans → List ℕ → Vlans
  | vlans, [] => vlans
  | vlans, port :: rest =>
      disconnect (manager.expirePortNexthops port vlans (manager.portVlans port)).1 rest

end RouteManager

/-! ## The system -/

/-- The controller and the `fib` table of the switch. -/
structure State where
  vlans : Vlans
  fib : Fib

/-- What reaches the route manager, with the time, what is drawn at random and whether
packets can be sent. A port goes down and its next hops expire unless it is in a LAG,
whose ports only have their VLANs added again. -/
inductive Event where
  | addRoute (vlan : Vid) (ipGw : IpAddress) (ipDst : IpNetwork)
  | delRoute (vlan : Vid) (ipDst : IpNetwork)
  | resolveVipResponse (pkt : Packet) (solicitedIp : IpAddress) (now : ℤ)
  | gwAdvert (pkt : Packet) (targetIp : IpAddress) (now : ℤ)
  | addHostFibRouteFromPkt (pkt : Packet) (now : ℤ)
  | proactiveResolveNeighbor (pkt : Packet) (now : ℤ) (jitter : IpAddress → ℕ)
      (sends : IpAddress → Bool)
  | resolveGateways (vlan : Vid) (now : ℤ) (resolveAll : Option (List IpAddress))
      (jitter : IpAddress → ℕ) (sends : IpAddress → Bool)
  | resolveExpireHosts (vlan : Vid) (now : ℤ) (resolveAll : Option (List IpAddress))
      (jitter : IpAddress → ℕ) (sends : IpAddress → Bool)
  | portDown (port : ℕ)
  | addVlans (vlans : List Vid)
  | reconnect (ports : List ℕ)

namespace RouteManager

variable (manager : RouteManager)

/-- The tables of the static routes, empty caches and a cold started switch. -/
def initial : State where
  vlans vlan :=
    { routes := (manager.vlan vlan).routes.foldl (fun routes route => routes.addRoute route.1 route.2)
        .initial
      neighCache := []
      dynUnresolvedRouteIpGws := []
      dynUnresolvedHostIpGws := [] }
  fib := manager.coldFib

/-- The state with the result of a handler, whose messages have been applied. -/
def outcome (fib : Fib) (result : Vlans × List FibMod) : State where
  vlans := result.1
  fib := applyAll result.2 fib

/-- Handle an event and apply the messages; `none` where the addresses of the event
are not those of the manager, or the list not one that can be returned. -/
def step (s : State) (event : Event) : Option State :=
  match event with
  | .addRoute vlan ipGw ipDst =>
      if ipGw.version = manager.ipv ∧ ipDst.version = manager.ipv then
        some (outcome s.fib (manager.addRoute s.vlans vlan ipGw ipDst))
      else none
  | .delRoute vlan ipDst =>
      if ipDst.version = manager.ipv then
        some (outcome s.fib (manager.delRoute s.vlans vlan ipDst))
      else none
  | .resolveVipResponse pkt solicitedIp now =>
      if pkt.l3Src.version = manager.ipv then
        some (outcome s.fib (manager.resolveVipResponse s.vlans pkt solicitedIp now))
      else none
  | .gwAdvert pkt targetIp now =>
      if targetIp.version = manager.ipv then
        some (outcome s.fib (manager.gwAdvert s.vlans pkt targetIp now))
      else none
  | .addHostFibRouteFromPkt pkt now =>
      if pkt.l3Src.version = manager.ipv then
        some (outcome s.fib (manager.addHostFibRouteFromPkt s.vlans pkt now))
      else none
  | .proactiveResolveNeighbor pkt now jitter sends =>
      if pkt.l3Src.version = manager.ipv ∧ pkt.l3Dst.version = manager.ipv then
        some (outcome s.fib (manager.proactiveResolveNeighbor s.vlans pkt now jitter sends))
      else none
  | .resolveGateways vlan now resolveAll jitter sends =>
      if resolveAll.all (manager.isUnresolvedNexthops (s.vlans vlan)
          ((s.vlans vlan).routes.dynRouteGwsByIpv manager.ipv) now) then
        some (outcome s.fib (manager.resolveGateways s.vlans vlan now resolveAll jitter sends))
      else none
  | .resolveExpireHosts vlan now resolveAll jitter sends =>
      if resolveAll.all (manager.isUnresolvedNexthops (s.vlans vlan)
          ((s.vlans vlan).routes.dynHostGwsByIpv manager.ipv) now) then
        some (outcome s.fib (manager.resolveExpireHosts s.vlans vlan now resolveAll jitter sends))
      else none
  | .portDown port =>
      some (outcome s.fib (manager.expirePortNexthops port s.vlans (manager.portVlans port)))
  | .addVlans vlans =>
      some (outcome s.fib (s.vlans, vlans.flatMap fun vlan => manager.addVlan vlan false))
  | .reconnect ports =>
      some { vlans := fun vlan => resetCaches (manager.disconnect s.vlans ports vlan)
             fib := manager.coldFib }

end RouteManager

end Faucet.Route
