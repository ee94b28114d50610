import Faucet.Library.SharedView
import Faucet.Route.Manager

/-!
# What the routes ask for

The flows that rewrite MAC addresses are those that the routes with a resolved
gateway ask for (`RibFibAgree`). A route manager whose tables and flows are
`Consistent` has just these flows: each destination has its route in one of the
VLANs that share flows, and no entry without a port has a MAC address.
-/

set_option autoImplicit false

namespace Faucet.Route

open Vlan SharedView

variable {manager : RouteManager} {vlans vlans' : Vlans} {fib : Fib} {vlan other : Vid}
  {ipGw ipGw' : IpAddress} {ipDst : IpNetwork}

/-! ## Messages -/

theorem applyAll_append (first second : List FibMod) (fib : Fib) :
    applyAll (first ++ second) fib = applyAll second (applyAll first fib) :=
  List.foldl_append

/-- The flows of a VLAN's routed VLANs for some destinations. -/
def overwrite (manager : RouteManager) (vlan : Vid) (ipDsts : List IpNetwork)
    (flow : Option FibFlow) (fib : Fib) : Fib := fun key =>
  if key.1 ∈ manager.routedVlans vlan ∧ key.2 ∈ ipDsts then flow else fib key

/-- Messages that write the same flow for each routed VLAN. -/
theorem applyAll_map {flow : Option FibFlow} {write : Vid → FibMod}
    (writes : ∀ vid fib, (write vid).apply fib = Function.update fib (vid, ipDst) flow)
    (vids : List Vid) (fib : Fib) :
    applyAll (vids.map write) fib =
      fun key => if key.1 ∈ vids ∧ key.2 ∈ [ipDst] then flow else fib key := by
  induction vids generalizing fib with
  | nil =>
      funext key
      simp [applyAll]
  | cons vid rest ih =>
      rw [List.map_cons, applyAll, List.foldl_cons, writes]
      refine (ih _).trans (funext fun key => ?_)
      by_cases here : key = (vid, ipDst)
      · subst here
        simp
      · rw [Function.update_of_ne here]
        by_cases member : key.1 ∈ rest ∧ key.2 ∈ [ipDst]
        · simp [member.1, List.mem_singleton.mp member.2]
        · rw [if_neg member, if_neg]
          rintro ⟨first | ⟨_, later⟩, same⟩
          · exact here (Prod.ext rfl (List.mem_singleton.mp same))
          · exact member ⟨later, same⟩

theorem applyAll_delRouteFlows (vlan : Vid) (ipDst : IpNetwork) (fib : Fib) :
    applyAll (manager.delRouteFlows vlan ipDst) fib = overwrite manager vlan [ipDst] none fib :=
  applyAll_map (fun _ _ => rfl) _ fib

theorem overwrite_overwrite (ipDsts ipDsts' : List IpNetwork) (flow : Option FibFlow) (fib : Fib) :
    overwrite manager vlan ipDsts' flow (overwrite manager vlan ipDsts flow fib) =
      overwrite manager vlan (ipDsts ++ ipDsts') flow fib := by
  funext key
  unfold overwrite
  by_cases own : key.1 ∈ manager.routedVlans vlan
  · by_cases first : key.2 ∈ ipDsts <;> by_cases second : key.2 ∈ ipDsts' <;> simp [own, first, second]
  · simp [own]

/-- A flow that is deleted and written again is written. -/
theorem applyAll_addResolvedRoute (vlan : Vid) (ipDst : IpNetwork) (ethDst : Mac) (isUpdated : Bool)
    (fib : Fib) :
    applyAll (manager.addResolvedRoute vlan ipDst ethDst isUpdated) fib =
      overwrite manager vlan [ipDst] (some (.forward (manager.nexthopActions ethDst vlan))) fib := by
  have added : ∀ fib, applyAll ((manager.routedVlans vlan).map fun routedVlan =>
      .flowmod routedVlan ipDst (.forward (manager.nexthopActions ethDst vlan))) fib =
      overwrite manager vlan [ipDst] (some (.forward (manager.nexthopActions ethDst vlan))) fib :=
    applyAll_map (fun _ _ => rfl) _
  rw [RouteManager.addResolvedRoute, applyAll_append, added]
  cases isUpdated with
  | false => rfl
  | true =>
      rw [if_pos rfl, applyAll_delRouteFlows]
      funext key
      unfold overwrite
      split
      · rfl
      · rfl

/-- Messages for one destination after the other. -/
theorem applyAll_flatMap {flow : Option FibFlow} {messages : IpNetwork → List FibMod}
    (each : ∀ ipDst fib, applyAll (messages ipDst) fib = overwrite manager vlan [ipDst] flow fib)
    (ipDsts : List IpNetwork) (fib : Fib) :
    applyAll (ipDsts.flatMap messages) fib = overwrite manager vlan ipDsts flow fib := by
  induction ipDsts generalizing fib with
  | nil =>
      funext key
      simp [overwrite, applyAll]
  | cons ipDst rest ih => rw [List.flatMap_cons, applyAll_append, each, ih, overwrite_overwrite]; rfl

/-! ## What the routes ask for -/

/-- The MAC address of the gateway of a destination. -/
def resolved (manager : RouteManager) (vlans : Vlans) (vlan : Vid) (ipDst : IpNetwork) :
    Option Mac :=
  ((vlans vlan).routes.dynRoutesByIpv manager.ipv ipDst).bind (vlans vlan).cachedNexthopEthDst

/-- The flows of a VLAN are in the VLANs that are routed with it. -/
def Owns (manager : RouteManager) (vlan : Vid) (key : Vid × IpNetwork) : Prop :=
  key.1 ∈ manager.routedVlans vlan

/-- The actions that a VLAN asks for. -/
def wanted (manager : RouteManager) (vlans : Vlans) (vlan : Vid) (key : Vid × IpNetwork) :
    Option (List FibAction) :=
  (resolved manager vlans vlan key.2).map (manager.nexthopActions · vlan)

/-- The actions of a flow that rewrites the MAC addresses. -/
def rewrites : Option FibFlow → Option (List FibAction)
  | some (.forward actions) => some actions
  | _ => none

/-- **The routes and the flows agree**: there is a flow that rewrites MAC addresses for a
destination exactly when a route of a VLAN maps it to a gateway whose MAC address is
in the cache, and this is the address that the flow writes. -/
def RibFibAgree (manager : RouteManager) (s : State) : Prop :=
  ∀ vid ipDst actions, s.fib (vid, ipDst) = some (.forward actions) ↔
    ∃ vlan ipGw ethDst, vid ∈ manager.routedVlans vlan ∧
      (s.vlans vlan).routes.dynRoutesByIpv manager.ipv ipDst = some ipGw ∧
      (s.vlans vlan).cachedNexthopEthDst ipGw = some ethDst ∧
      actions = manager.nexthopActions ethDst vlan

/-- Two VLANs whose flows are in one table. -/
def Shares (manager : RouteManager) (vlan other : Vid) : Prop :=
  ∃ vid, vid ∈ manager.routedVlans vlan ∧ vid ∈ manager.routedVlans other

/-- What the route manager keeps when its steps are allowed. -/
structure Consistent (manager : RouteManager) (vlans : Vlans) (fib : Fib) : Prop where
  indexed : ∀ vlan, (vlans vlan).routes.Indexed
  dstVersion : ∀ vlan v ipDst ipGw, (vlans vlan).routes.dynRoutesByIpv v ipDst = some ipGw →
    ipDst.version = v
  noPort : ∀ vlan ipGw nexthop, (vlans vlan).neighCache.lookup ipGw = some nexthop →
    nexthop.port = none → nexthop.ethSrc = none
  alone : ∀ vlan other, Shares manager vlan other → ∀ ipDst ipGw ipGw',
    (vlans vlan).routes.dynRoutesByIpv manager.ipv ipDst = some ipGw →
    (vlans other).routes.dynRoutesByIpv manager.ipv ipDst = some ipGw' → vlan = other
  shows' : Shows (Owns manager) (wanted manager vlans) fun key => rewrites (fib key)

theorem rewrites_eq_some {flow : Option FibFlow} {actions : List FibAction} :
    rewrites flow = some actions ↔ flow = some (.forward actions) := by
  constructor
  · intro rewritten
    match flow, rewritten with
    | some (.forward _), rfl => rfl
  · intro same
    rw [same]
    rfl

theorem resolved_eq_some {ethDst : Mac} : resolved manager vlans vlan ipDst = some ethDst ↔
    ∃ ipGw, (vlans vlan).routes.dynRoutesByIpv manager.ipv ipDst = some ipGw ∧
      (vlans vlan).cachedNexthopEthDst ipGw = some ethDst :=
  Option.bind_eq_some_iff

theorem Consistent.ribFibAgree {s : State} (consistent : Consistent manager s.vlans s.fib) :
    RibFibAgree manager s := by
  intro vid ipDst actions
  rw [← rewrites_eq_some]
  refine (consistent.shows' (vid, ipDst) actions).trans ?_
  constructor
  · intro asked
    obtain ⟨vlan, own, want⟩ := asked
    obtain ⟨ethDst, isResolved, rfl⟩ := Option.map_eq_some_iff.mp want
    obtain ⟨ipGw, routed, cached⟩ := resolved_eq_some.mp isResolved
    exact ⟨vlan, ipGw, ethDst, own, routed, cached, rfl⟩
  · intro asked
    obtain ⟨vlan, ipGw, ethDst, own, routed, cached, rfl⟩ := asked
    have isResolved := resolved_eq_some.mpr ⟨ipGw, routed, cached⟩
    exact ⟨vlan, own, Option.map_eq_some_iff.mpr ⟨ethDst, isResolved, rfl⟩⟩

/-! ## One VLAN changes -/

theorem wanted_of_ne {state : VlanState} (different : other ≠ vlan) :
    wanted manager (Function.update vlans vlan state) other = wanted manager vlans other := by
  funext key
  rw [wanted, wanted, resolved, resolved, Function.update_of_ne different]

/-- A VLAN changes its mind about some destinations and writes the flows for them. -/
theorem shows_overwrite {state : VlanState} {flow : Option FibFlow}
    (shows' : Shows (Owns manager) (wanted manager vlans) fun key => rewrites (fib key))
    (ipDsts : List IpNetwork)
    (unchanged : ∀ ipDst, ipDst ∉ ipDsts →
      resolved manager (Function.update vlans vlan state) vlan ipDst =
        resolved manager vlans vlan ipDst)
    (written : ∀ ipDst ∈ ipDsts, rewrites flow =
      (resolved manager (Function.update vlans vlan state) vlan ipDst).map
        (manager.nexthopActions · vlan))
    (alone : ∀ ipDst ∈ ipDsts, ∀ other, other ≠ vlan → Shares manager vlan other →
      resolved manager vlans other ipDst = none) :
    Shows (Owns manager) (wanted manager (Function.update vlans vlan state))
      fun key => rewrites (overwrite manager vlan ipDsts flow fib key) := by
  apply shows'.refresh vlan {key | key.2 ∈ ipDsts}
  · exact fun other different => wanted_of_ne different
  · intro key notListed
    rw [wanted, unchanged key.2 notListed]
    rfl
  · intro key notWritten
    exact congrArg rewrites (if_neg notWritten)
  · intro key listed own
    have flow' : overwrite manager vlan ipDsts flow fib key = flow := if_pos ⟨own, listed⟩
    rw [flow', written key.2 listed]
    rfl
  · intro key listed own other different own'
    rw [wanted, alone key.2 listed other different ⟨key.1, own, own'⟩]
    rfl

/-- A VLAN does not change its mind. -/
theorem wanted_update {state : VlanState}
    (unchanged : ∀ ipDst, resolved manager (Function.update vlans vlan state) vlan ipDst =
      resolved manager vlans vlan ipDst) :
    wanted manager (Function.update vlans vlan state) = wanted manager vlans := by
  funext other
  by_cases same : other = vlan
  · subst same
    funext key
    rw [wanted, unchanged]
    rfl
  · exact wanted_of_ne same

theorem resolved_setRoutes {routes : Routes} :
    resolved manager (Function.update vlans vlan { vlans vlan with routes := routes }) vlan ipDst =
      (routes.dynRoutesByIpv manager.ipv ipDst).bind (vlans vlan).cachedNexthopEthDst := by
  rw [resolved, Function.update_self]
  rfl

theorem resolved_setCache {state : VlanState} (sameRoutes : state.routes = (vlans vlan).routes) :
    resolved manager (Function.update vlans vlan state) vlan ipDst =
      ((vlans vlan).routes.dynRoutesByIpv manager.ipv ipDst).bind state.cachedNexthopEthDst := by
  rw [resolved, Function.update_self, sameRoutes]

namespace Consistent

/-- Only the cache of a VLAN has changed, not its routes. -/
theorem setCache (consistent : Consistent manager vlans fib) {fib' : Fib} {state : VlanState}
    (sameRoutes : state.routes = (vlans vlan).routes)
    (noPort : ∀ ipGw nexthop, state.neighCache.lookup ipGw = some nexthop →
      nexthop.port = none → nexthop.ethSrc = none)
    (shows' : Shows (Owns manager) (wanted manager (Function.update vlans vlan state))
      fun key => rewrites (fib' key)) :
    Consistent manager (Function.update vlans vlan state) fib' := by
  have routes : ∀ other, (Function.update vlans vlan state other).routes = (vlans other).routes := by
    intro other
    by_cases same : other = vlan
    · rw [same, Function.update_self, sameRoutes]
    · rw [Function.update_of_ne same]
  constructor
  · intro other
    rw [routes]
    exact consistent.indexed other
  · intro other v ipDst ipGw routed
    rw [routes] at routed
    exact consistent.dstVersion other v ipDst ipGw routed
  · intro other ipGw nexthop cached portless
    by_cases same : other = vlan
    · rw [same, Function.update_self] at cached
      exact noPort ipGw nexthop cached portless
    · rw [Function.update_of_ne same] at cached
      exact consistent.noPort other ipGw nexthop cached portless
  · intro one two shares ipDst ipGw ipGw' routed routed'
    rw [routes] at routed routed'
    exact consistent.alone one two shares ipDst ipGw ipGw' routed routed'
  · exact shows'

/-- Only the routes of a VLAN have changed. -/
theorem setRoutes (consistent : Consistent manager vlans fib) {fib' : Fib} {routes : Routes}
    (indexed : routes.Indexed)
    (dstVersion : ∀ v ipDst ipGw, routes.dynRoutesByIpv v ipDst = some ipGw → ipDst.version = v)
    (alone : ∀ other, other ≠ vlan → Shares manager vlan other → ∀ ipDst ipGw,
      routes.dynRoutesByIpv manager.ipv ipDst = some ipGw →
      (vlans other).routes.dynRoutesByIpv manager.ipv ipDst = none)
    (shows' : Shows (Owns manager)
      (wanted manager (Function.update vlans vlan { vlans vlan with routes := routes }))
      fun key => rewrites (fib' key)) :
    Consistent manager (Function.update vlans vlan { vlans vlan with routes := routes }) fib' := by
  constructor
  · intro other
    by_cases same : other = vlan
    · rw [same, Function.update_self]
      exact indexed
    · rw [Function.update_of_ne same]
      exact consistent.indexed other
  · intro other v ipDst ipGw routed
    by_cases same : other = vlan
    · rw [same, Function.update_self] at routed
      exact dstVersion v ipDst ipGw routed
    · rw [Function.update_of_ne same] at routed
      exact consistent.dstVersion other v ipDst ipGw routed
  · intro other ipGw nexthop cached portless
    by_cases same : other = vlan
    · rw [same, Function.update_self] at cached
      exact consistent.noPort vlan ipGw nexthop cached portless
    · rw [Function.update_of_ne same] at cached
      exact consistent.noPort other ipGw nexthop cached portless
  · intro one two shares ipDst ipGw ipGw' routed routed'
    by_cases first : one = vlan
    · by_cases second : two = vlan
      · rw [first, second]
      · rw [first, Function.update_self] at routed
        rw [Function.update_of_ne second] at routed'
        rw [first] at shares
        cases (alone two second shares ipDst ipGw routed).symm.trans routed'
    · rw [Function.update_of_ne first] at routed
      by_cases second : two = vlan
      · rw [second, Function.update_self] at routed'
        obtain ⟨vid, own, own'⟩ := shares
        rw [second] at own'
        cases (alone one first ⟨vid, own', own⟩ ipDst ipGw' routed').symm.trans routed
      · rw [Function.update_of_ne second] at routed'
        exact consistent.alone one two shares ipDst ipGw ipGw' routed routed'
  · exact shows'

/-- A destination of a VLAN is not one of another VLAN that shares its flows. -/
theorem unresolved_elsewhere (consistent : Consistent manager vlans fib)
    (routed : (vlans vlan).routes.dynRoutesByIpv manager.ipv ipDst = some ipGw)
    (different : other ≠ vlan) (shares : Shares manager vlan other) :
    resolved manager vlans other ipDst = none := by
  cases routed' : (vlans other).routes.dynRoutesByIpv manager.ipv ipDst with
  | none => rw [resolved, routed', Option.bind_none]
  | some ipGw' =>
      exact absurd (consistent.alone vlan other shares ipDst ipGw ipGw' routed routed').symm different

end Consistent

end Faucet.Route
