import Faucet.Library.ReverseIndex
import Faucet.Library.TransitionSystem
import Faucet.Net.Address

/-!
# The route tables of a VLAN

A VLAN keeps its routes in four tables, one of each for each IP version: the
gateway of every destination, the destinations of every gateway, and the
gateways of host routes apart from the other gateways. `add_route` and
`del_route` are their only writers.

`RoutesAgree` says that the first two tables are inverse to each other and that
the last two hold exactly the gateways in use, each by its kind. A call of
`add_route` keeps the agreement exactly when it does not replace the gateway of
a destination, and a call of `del_route` exactly when the gateway keeps another
destination; a run agrees throughout exactly when all its calls are of this kind
(`routesAgree_iff_keepsAgreement`).
-/

set_option autoImplicit false

namespace Faucet.Vlan

open TransitionSystem

/-- The route tables, each keyed by `version` first; a set is a list without
duplicates. -/
structure Routes where
  dynRoutesByIpv : IpVersion → IpNetwork → Option IpAddress
  dynGwsByIpv : IpVersion → IpAddress → Option (List IpNetwork)
  dynHostGwsByIpv : IpVersion → Finset IpAddress
  dynRouteGwsByIpv : IpVersion → Finset IpAddress

namespace Routes

/-- No route has been added. -/
def initial : Routes where
  dynRoutesByIpv := fun _ _ => none
  dynGwsByIpv := fun _ _ => none
  dynHostGwsByIpv := fun _ => ∅
  dynRouteGwsByIpv := fun _ => ∅

/-- `ip_dsts_for_ip_gw` -/
def ipDstsForIpGw (t : Routes) (ipGw : IpAddress) : List IpNetwork :=
  match t.dynGwsByIpv ipGw.version ipGw with
  | some ipDsts => ipDsts
  | none => []

/-- `is_host_fib_route` -/
def isHostFibRoute (t : Routes) (hostIp : IpAddress) : Bool :=
  match t.ipDstsForIpGw hostIp with
  | [ipDst] => ipDst.prefixlen == ipDst.maxPrefixlen && ipDst.networkAddress == hostIp
  | _ => false

/-- `dyn_routes_by_ipv[version][ip_dst] = ip_gw`, or its deletion. -/
def setRoute (t : Routes) (version : IpVersion) (ipDst : IpNetwork) (ipGw : Option IpAddress) :
    Routes :=
  { t with
    dynRoutesByIpv := Function.update t.dynRoutesByIpv version
      (Function.update (t.dynRoutesByIpv version) ipDst ipGw) }

/-- `dyn_gws_by_ipv[ip_gw.version][ip_gw] = ip_dsts`, or its deletion. -/
def setGw (t : Routes) (ipGw : IpAddress) (ipDsts : Option (List IpNetwork)) : Routes :=
  { t with
    dynGwsByIpv := Function.update t.dynGwsByIpv ipGw.version
      (Function.update (t.dynGwsByIpv ipGw.version) ipGw ipDsts) }

/-- `_update_gw_types` -/
def updateGwTypes (t : Routes) (ipGw : IpAddress) : Routes :=
  let v := ipGw.version
  if t.isHostFibRoute ipGw then
    { t with
      dynHostGwsByIpv := Function.update t.dynHostGwsByIpv v (insert ipGw (t.dynHostGwsByIpv v))
      dynRouteGwsByIpv := Function.update t.dynRouteGwsByIpv v ((t.dynRouteGwsByIpv v).erase ipGw) }
  else
    { t with
      dynRouteGwsByIpv := Function.update t.dynRouteGwsByIpv v (insert ipGw (t.dynRouteGwsByIpv v))
      dynHostGwsByIpv := Function.update t.dynHostGwsByIpv v ((t.dynHostGwsByIpv v).erase ipGw) }

/-- `add_route` -/
def addRoute (t : Routes) (ipDst : IpNetwork) (ipGw : IpAddress) : Routes :=
  let t := t.setRoute ipGw.version ipDst (some ipGw)
  let t := t.setGw ipGw (some ((t.ipDstsForIpGw ipGw).insert ipDst))
  t.updateGwTypes ipGw

/-- `del_route`; `none` where the lookup of the destination raises `KeyError`,
which is before any write. -/
def delRoute (t : Routes) (ipDst : IpNetwork) : Option Routes :=
  match t.dynRoutesByIpv ipDst.version ipDst with
  | none => none
  | some ipGw =>
      let t := t.setRoute ipDst.version ipDst none
      let ipDsts := (t.ipDstsForIpGw ipGw).erase ipDst
      let t := t.setGw ipGw (if ipDsts.isEmpty then none else some ipDsts)
      some (t.updateGwTypes ipGw)

/-- The calls that change the routes. -/
inductive Call where
  | addRoute (ipDst : IpNetwork) (ipGw : IpAddress)
  | delRoute (ipDst : IpNetwork)

/-- A call; one that raises leaves the tables as they are. -/
def call (t : Routes) : Call → Option Routes
  | .addRoute ipDst ipGw => some (t.addRoute ipDst ipGw)
  | .delRoute ipDst => some ((t.delRoute ipDst).getD t)

/-! ## Agreement of the tables -/

/-- Some route uses the gateway. -/
def Uses (t : Routes) (v : IpVersion) (ipGw : IpAddress) : Prop :=
  ∃ ipDst, t.dynRoutesByIpv v ipDst = some ipGw

/-- The only destination routed to the gateway is its own address. -/
def HostRouteOnly (t : Routes) (v : IpVersion) (ipGw : IpAddress) : Prop :=
  ∀ ipDst, t.dynRoutesByIpv v ipDst = some ipGw → ipDst = .ofHost ipGw

/-- The table of gateways, with an absent gateway read as one without destinations. -/
def gws (t : Routes) (v : IpVersion) (ipGw : IpAddress) : List IpNetwork :=
  (t.dynGwsByIpv v ipGw).getD []

/-- The tables of the gateways agree with the routes. -/
structure RoutesAgree (t : Routes) : Prop where
  inverse : ∀ v, ReverseIndex (t.dynRoutesByIpv v) (t.gws v)
  hostGws : ∀ v ipGw, ipGw ∈ t.dynHostGwsByIpv v ↔ t.Uses v ipGw ∧ t.HostRouteOnly v ipGw
  routeGws : ∀ v ipGw, ipGw ∈ t.dynRouteGwsByIpv v ↔ t.Uses v ipGw ∧ ¬ t.HostRouteOnly v ipGw

/-- What the representation keeps whatever the calls: gateways stand under their
own version and list a destination once. -/
structure WellFormed (t : Routes) : Prop where
  gwVersion : ∀ v ipDst ipGw, t.dynRoutesByIpv v ipDst = some ipGw → ipGw.version = v
  nodup : ∀ v ipGw, (t.gws v ipGw).Nodup

/-- The call replaces no gateway and leaves none without a route. -/
def KeepsAgreement (t : Routes) : Call → Prop
  | .addRoute ipDst ipGw => ∀ old, t.dynRoutesByIpv ipGw.version ipDst = some old → old = ipGw
  | .delRoute ipDst => ∀ ipGw, t.dynRoutesByIpv ipDst.version ipDst = some ipGw →
      ∃ other, other ≠ ipDst ∧ t.dynRoutesByIpv ipDst.version other = some ipGw

section Agreement

variable {t : Routes}

theorem ipDstsForIpGw_eq (t : Routes) (ipGw : IpAddress) :
    t.ipDstsForIpGw ipGw = t.gws ipGw.version ipGw := by
  unfold ipDstsForIpGw gws
  cases t.dynGwsByIpv ipGw.version ipGw <;> rfl

theorem setGw_gws (t : Routes) (ipGw : IpAddress) (ipDsts : Option (List IpNetwork)) :
    (t.setGw ipGw ipDsts).gws ipGw.version =
      Function.update (t.gws ipGw.version) ipGw (ipDsts.getD []) := by
  funext other
  by_cases same : other = ipGw
  · subst same
    simp [gws, setGw]
  · simp [gws, setGw, same]

theorem setGw_gws_of_ne (t : Routes) {ipGw : IpAddress} {v : IpVersion}
    (other : v ≠ ipGw.version) (ipDsts : Option (List IpNetwork)) :
    (t.setGw ipGw ipDsts).gws v = t.gws v := by
  funext gw
  simp [gws, setGw, other]

/-- `is_host_fib_route` finds the gateways whose only route is their own. -/
theorem isHostFibRoute_iff (inverse : ∀ v, ReverseIndex (t.dynRoutesByIpv v) (t.gws v))
    (nodup : ∀ v ipGw, (t.gws v ipGw).Nodup) (ipGw : IpAddress) :
    t.isHostFibRoute ipGw = true ↔
      t.Uses ipGw.version ipGw ∧ t.HostRouteOnly ipGw.version ipGw := by
  have listed := fun ipDst => inverse ipGw.version ipDst ipGw
  have once := nodup ipGw.version ipGw
  unfold isHostFibRoute Uses HostRouteOnly
  rw [ipDstsForIpGw_eq]
  simp only [← listed]
  split
  next ipDst single =>
    rw [single]
    simp [IpNetwork.eq_ofHost_iff]
  next several =>
    refine iff_of_false (by simp) ?_
    rintro ⟨⟨ipDst, member⟩, only⟩
    cases dsts : t.gws ipGw.version ipGw with
    | nil =>
        rw [dsts] at member
        cases member
    | cons first rest =>
        cases rest with
        | nil => exact several first dsts
        | cons second rest =>
            have same : first = second :=
              (only first (by simp [dsts])).trans (only second (by simp [dsts])).symm
            rw [dsts, same] at once
            exact (List.nodup_cons.mp once).1 List.mem_cons_self

theorem mem_update_insert {sets : IpVersion → Finset IpAddress} {v v' : IpVersion}
    {ipGw other : IpAddress} :
    other ∈ Function.update sets v (insert ipGw (sets v)) v' ↔
      v' = v ∧ other = ipGw ∨ other ∈ sets v' := by
  by_cases same : v' = v
  · subst same
    simp
  · simp [same]

theorem mem_update_erase {sets : IpVersion → Finset IpAddress} {v v' : IpVersion}
    {ipGw other : IpAddress} :
    other ∈ Function.update sets v ((sets v).erase ipGw) v' ↔
      ¬ (v' = v ∧ other = ipGw) ∧ other ∈ sets v' := by
  by_cases same : v' = v
  · subst same
    simp
  · simp [same]

/-- `_update_gw_types` files a gateway in use under its kind, and leaves the others. -/
theorem updateGwTypes_routesAgree {ipGw : IpAddress}
    (inverse : ∀ v, ReverseIndex (t.dynRoutesByIpv v) (t.gws v))
    (nodup : ∀ v ipGw, (t.gws v ipGw).Nodup) (uses : t.Uses ipGw.version ipGw)
    (others : ∀ v other, ¬ (v = ipGw.version ∧ other = ipGw) →
      (other ∈ t.dynHostGwsByIpv v ↔ t.Uses v other ∧ t.HostRouteOnly v other) ∧
      (other ∈ t.dynRouteGwsByIpv v ↔ t.Uses v other ∧ ¬ t.HostRouteOnly v other)) :
    (t.updateGwTypes ipGw).RoutesAgree := by
  have kind := isHostFibRoute_iff inverse nodup ipGw
  unfold updateGwTypes
  cases isHost : t.isHostFibRoute ipGw
  · have network : ¬ t.HostRouteOnly ipGw.version ipGw := fun only => by
      rw [kind.mpr ⟨uses, only⟩] at isHost
      cases isHost
    refine ⟨inverse, fun v other => ?_, fun v other => ?_⟩
    · refine mem_update_erase.trans ?_
      by_cases same : v = ipGw.version ∧ other = ipGw
      · obtain ⟨rfl, rfl⟩ := same
        exact iff_of_false (fun filed => filed.1 ⟨rfl, rfl⟩) fun host => network host.2
      · exact (and_iff_right same).trans (others v other same).1
    · refine mem_update_insert.trans ?_
      by_cases same : v = ipGw.version ∧ other = ipGw
      · obtain ⟨rfl, rfl⟩ := same
        exact iff_of_true (.inl ⟨rfl, rfl⟩) ⟨uses, network⟩
      · exact (or_iff_right same).trans (others v other same).2
  · have host := kind.mp isHost
    refine ⟨inverse, fun v other => ?_, fun v other => ?_⟩
    · refine mem_update_insert.trans ?_
      by_cases same : v = ipGw.version ∧ other = ipGw
      · obtain ⟨rfl, rfl⟩ := same
        exact iff_of_true (.inl ⟨rfl, rfl⟩) host
      · exact (or_iff_right same).trans (others v other same).1
    · refine mem_update_erase.trans ?_
      by_cases same : v = ipGw.version ∧ other = ipGw
      · obtain ⟨rfl, rfl⟩ := same
        exact iff_of_false (fun filed => filed.1 ⟨rfl, rfl⟩) fun route => route.2 host.2
      · exact (and_iff_right same).trans (others v other same).2

/-- `_update_gw_types` always files the gateway, whether or not it is in use. -/
theorem RoutesAgree.uses_of_updateGwTypes {ipGw : IpAddress}
    (agree : (t.updateGwTypes ipGw).RoutesAgree) :
    (t.updateGwTypes ipGw).Uses ipGw.version ipGw := by
  have filed : ipGw ∈ (t.updateGwTypes ipGw).dynHostGwsByIpv ipGw.version ∨
      ipGw ∈ (t.updateGwTypes ipGw).dynRouteGwsByIpv ipGw.version := by
    unfold updateGwTypes
    split
    · exact .inl (mem_update_insert.mpr (.inl ⟨rfl, rfl⟩))
    · exact .inr (mem_update_insert.mpr (.inl ⟨rfl, rfl⟩))
  rcases filed with host | route
  · exact ((agree.hostGws _ _).mp host).1
  · exact ((agree.routeGws _ _).mp route).1

/-- Where the destinations of a gateway stay the same, so does its kind. -/
theorem RoutesAgree.filed_of_same (agree : t.RoutesAgree) {t' : Routes} {v : IpVersion}
    {ipGw : IpAddress}
    (same : ∀ ipDst, t'.dynRoutesByIpv v ipDst = some ipGw ↔ t.dynRoutesByIpv v ipDst = some ipGw)
    (sameHost : t'.dynHostGwsByIpv = t.dynHostGwsByIpv)
    (sameRoute : t'.dynRouteGwsByIpv = t.dynRouteGwsByIpv) :
    (ipGw ∈ t'.dynHostGwsByIpv v ↔ t'.Uses v ipGw ∧ t'.HostRouteOnly v ipGw) ∧
      (ipGw ∈ t'.dynRouteGwsByIpv v ↔ t'.Uses v ipGw ∧ ¬ t'.HostRouteOnly v ipGw) := by
  simp only [Uses, HostRouteOnly, same, sameHost, sameRoute]
  exact ⟨agree.hostGws v ipGw, agree.routeGws v ipGw⟩

/-! ## Writing a route and the destinations of its gateway -/

section Write

variable {ipDst : IpNetwork} {ipGw : IpAddress} {target : Option IpAddress}
  {ipDsts : Option (List IpNetwork)}

/-- A destination gets a target, its gateway gets a list of destinations, and
the gateway is filed. -/
def write (t : Routes) (ipDst : IpNetwork) (target : Option IpAddress) (ipGw : IpAddress)
    (ipDsts : Option (List IpNetwork)) : Routes :=
  ((t.setRoute ipGw.version ipDst target).setGw ipGw ipDsts).updateGwTypes ipGw

theorem setGw_setRoute_routes (t : Routes) (v : IpVersion) :
    ((t.setRoute ipGw.version ipDst target).setGw ipGw ipDsts).dynRoutesByIpv v =
      if v = ipGw.version then Function.update (t.dynRoutesByIpv v) ipDst target
      else t.dynRoutesByIpv v := by
  split
  next same =>
    subst same
    exact Function.update_self ..
  next other => exact Function.update_of_ne other ..

theorem setGw_setRoute_gws (t : Routes) (v : IpVersion) :
    ((t.setRoute ipGw.version ipDst target).setGw ipGw ipDsts).gws v =
      if v = ipGw.version then Function.update (t.gws v) ipGw (ipDsts.getD []) else t.gws v := by
  split
  next same =>
    subst same
    exact setGw_gws _ _ _
  next other => exact setGw_gws_of_ne _ other _

theorem updateGwTypes_routes (t : Routes) (ipGw : IpAddress) :
    (t.updateGwTypes ipGw).dynRoutesByIpv = t.dynRoutesByIpv := by
  unfold updateGwTypes
  split <;> rfl

theorem updateGwTypes_gws (t : Routes) (ipGw : IpAddress) :
    (t.updateGwTypes ipGw).gws = t.gws := by
  unfold updateGwTypes
  split <;> rfl

theorem WellFormed.write (wf : t.WellFormed) (ipDst : IpNetwork) (toGw : ∀ gw, target = some gw → gw = ipGw)
    (nodup : (ipDsts.getD []).Nodup) : (t.write ipDst target ipGw ipDsts).WellFormed := by
  constructor
  · intro v dst gw routed
    rw [Routes.write, updateGwTypes_routes, setGw_setRoute_routes] at routed
    split at routed
    next same =>
      subst same
      by_cases sameDst : dst = ipDst
      · subst sameDst
        rw [Function.update_self] at routed
        rw [toGw gw routed]
      · rw [Function.update_of_ne sameDst] at routed
        exact wf.gwVersion _ _ _ routed
    next => exact wf.gwVersion _ _ _ routed
  · intro v gw
    rw [Routes.write, updateGwTypes_gws, setGw_setRoute_gws]
    split
    next =>
      by_cases sameGw : gw = ipGw
      · subst sameGw
        rwa [Function.update_self]
      · rw [Function.update_of_ne sameGw]
        exact wf.nodup v gw
    next => exact wf.nodup v gw

/-- A write that keeps the two tables inverse and its gateway in use keeps the
agreement. -/
theorem RoutesAgree.write (agree : t.RoutesAgree) (wf : t.WellFormed)
    (toGw : ∀ gw, target = some gw → gw = ipGw)
    (fromGw : ∀ old, t.dynRoutesByIpv ipGw.version ipDst = some old → old = ipGw)
    (nodup : (ipDsts.getD []).Nodup)
    (inverse : ReverseIndex (Function.update (t.dynRoutesByIpv ipGw.version) ipDst target)
      (Function.update (t.gws ipGw.version) ipGw (ipDsts.getD [])))
    (uses : ∃ dst, Function.update (t.dynRoutesByIpv ipGw.version) ipDst target dst = some ipGw) :
    (t.write ipDst target ipGw ipDsts).RoutesAgree := by
  have wfAfter := wf.write ipDst toGw nodup
  apply updateGwTypes_routesAgree
  · intro v
    rw [setGw_setRoute_routes, setGw_setRoute_gws]
    split
    next same =>
      subst same
      exact inverse
    next => exact agree.inverse v
  · intro v gw
    have once := wfAfter.nodup v gw
    rwa [Routes.write, updateGwTypes_gws] at once
  · unfold Uses
    rw [setGw_setRoute_routes, if_pos rfl]
    exact uses
  · intro v other different
    refine agree.filed_of_same (fun dst => ?_) rfl rfl
    rw [setGw_setRoute_routes]
    split
    next same =>
      subst same
      have otherGw : other ≠ ipGw := fun same => different ⟨rfl, same⟩
      by_cases sameDst : dst = ipDst
      · subst sameDst
        rw [Function.update_self]
        exact iff_of_false (fun now => otherGw (toGw other now)) fun old => otherGw (fromGw other old)
      · rw [Function.update_of_ne sameDst]
    next => rfl

end Write

/-! ## The two calls -/

theorem addRoute_eq (t : Routes) (ipDst : IpNetwork) (ipGw : IpAddress) :
    t.addRoute ipDst ipGw =
      t.write ipDst (some ipGw) ipGw (some ((t.gws ipGw.version ipGw).insert ipDst)) := by
  simp only [addRoute, ipDstsForIpGw_eq]
  rfl

theorem delRoute_eq {ipDst : IpNetwork} {ipGw : IpAddress} (wf : t.WellFormed)
    (routed : t.dynRoutesByIpv ipDst.version ipDst = some ipGw) :
    ∃ ipDsts, ipDsts.getD [] = (t.gws ipGw.version ipGw).erase ipDst ∧
      t.delRoute ipDst = some (t.write ipDst none ipGw ipDsts) := by
  refine ⟨if ((t.gws ipGw.version ipGw).erase ipDst).isEmpty then none
    else some ((t.gws ipGw.version ipGw).erase ipDst), ?_, ?_⟩
  · split
    next empty => exact (List.isEmpty_iff.mp empty).symm
    next => rfl
  · simp only [delRoute, routed, ipDstsForIpGw_eq]
    rw [← wf.gwVersion _ _ _ routed]
    rfl

/-- The first two tables are well formed and inverse to each other. -/
structure Indexed (t : Routes) : Prop where
  wellFormed : t.WellFormed
  inverse : ∀ v, ReverseIndex (t.dynRoutesByIpv v) (t.gws v)

theorem mem_ipDstsForIpGw (indexed : t.Indexed) {ipDst : IpNetwork} {ipGw : IpAddress} :
    ipDst ∈ t.ipDstsForIpGw ipGw ↔ t.dynRoutesByIpv ipGw.version ipDst = some ipGw := by
  rw [ipDstsForIpGw_eq]
  exact indexed.inverse ipGw.version ipDst ipGw

theorem addRoute_routes (t : Routes) (ipDst : IpNetwork) (ipGw : IpAddress) (v : IpVersion) :
    (t.addRoute ipDst ipGw).dynRoutesByIpv v =
      if v = ipGw.version then Function.update (t.dynRoutesByIpv v) ipDst (some ipGw)
      else t.dynRoutesByIpv v := by
  rw [addRoute_eq, Routes.write, updateGwTypes_routes, setGw_setRoute_routes]

/-- A route that replaces none keeps the index. -/
theorem Indexed.addRoute (indexed : t.Indexed) {ipDst : IpNetwork} {ipGw : IpAddress}
    (keeps : t.KeepsAgreement (.addRoute ipDst ipGw)) : (t.addRoute ipDst ipGw).Indexed := by
  rw [addRoute_eq]
  refine ⟨indexed.wellFormed.write ipDst (fun gw same => (Option.some_inj.mp same).symm)
    (indexed.wellFormed.nodup _ _).insert, fun v => ?_⟩
  rw [Routes.write, updateGwTypes_routes, updateGwTypes_gws, setGw_setRoute_routes,
    setGw_setRoute_gws]
  split
  next same =>
    subst same
    exact (indexed.inverse _).insert keeps
  next => exact indexed.inverse v

/-- The deletion of a route keeps the index and removes just this route. -/
theorem Indexed.delRoute (indexed : t.Indexed) {ipDst : IpNetwork} {ipGw : IpAddress}
    (routed : t.dynRoutesByIpv ipDst.version ipDst = some ipGw) :
    ∃ after, t.delRoute ipDst = some after ∧ after.Indexed ∧ ∀ v, after.dynRoutesByIpv v =
      if v = ipDst.version then Function.update (t.dynRoutesByIpv v) ipDst none
      else t.dynRoutesByIpv v := by
  obtain ⟨ipDsts, erased, eq⟩ := delRoute_eq indexed.wellFormed routed
  have version := indexed.wellFormed.gwVersion _ _ _ routed
  have nodup := indexed.wellFormed.nodup ipGw.version ipGw
  refine ⟨_, eq, ⟨indexed.wellFormed.write ipDst (fun gw same => by cases same) ?_, fun v => ?_⟩,
    fun v => ?_⟩
  · rw [erased]
    exact nodup.erase _
  · rw [Routes.write, updateGwTypes_routes, updateGwTypes_gws, setGw_setRoute_routes,
      setGw_setRoute_gws]
    split
    next same =>
      subst same
      rw [erased]
      exact (indexed.inverse _).erase (by rwa [version]) nodup
    next => exact indexed.inverse v
  · rw [Routes.write, updateGwTypes_routes, setGw_setRoute_routes, version]

theorem addRoute_routesAgree_iff (agree : t.RoutesAgree) (wf : t.WellFormed) (ipDst : IpNetwork)
    (ipGw : IpAddress) :
    (t.addRoute ipDst ipGw).RoutesAgree ↔ t.KeepsAgreement (.addRoute ipDst ipGw) := by
  rw [addRoute_eq]
  constructor
  · intro after old routed
    by_contra different
    have inverse := after.inverse ipGw.version
    rw [Routes.write, updateGwTypes_routes, updateGwTypes_gws, setGw_setRoute_routes,
      setGw_setRoute_gws, if_pos rfl, if_pos rfl] at inverse
    exact (agree.inverse _).not_overwrite routed different inverse
  · intro keeps
    refine agree.write wf (fun gw same => (Option.some_inj.mp same).symm) keeps
      (wf.nodup _ _).insert ((agree.inverse _).insert keeps) ⟨ipDst, Function.update_self ..⟩

theorem delRoute_routesAgree_iff (agree : t.RoutesAgree) (wf : t.WellFormed) {ipDst : IpNetwork}
    {after : Routes} (deleted : t.delRoute ipDst = some after) :
    after.RoutesAgree ↔ t.KeepsAgreement (.delRoute ipDst) := by
  cases routed : t.dynRoutesByIpv ipDst.version ipDst with
  | none =>
      rw [delRoute, routed] at deleted
      cases deleted
  | some ipGw =>
      obtain ⟨ipDsts, erased, eq⟩ := delRoute_eq wf routed
      rw [eq] at deleted
      cases deleted
      have version := wf.gwVersion _ _ _ routed
      have mapped : t.dynRoutesByIpv ipGw.version ipDst = some ipGw := by rwa [version]
      have inverse := (agree.inverse ipGw.version).erase mapped (wf.nodup _ _)
      constructor
      · intro after gw same
        cases routed.symm.trans same
        obtain ⟨other, uses⟩ := after.uses_of_updateGwTypes
        rw [updateGwTypes_routes, setGw_setRoute_routes, if_pos rfl] at uses
        by_cases sameDst : other = ipDst
        · subst sameDst
          rw [Function.update_self] at uses
          cases uses
        · rw [Function.update_of_ne sameDst] at uses
          exact ⟨other, sameDst, by rwa [← version]⟩
      · intro keeps
        obtain ⟨other, different, uses⟩ := keeps ipGw routed
        refine agree.write wf (fun gw same => by cases same) (fun old was => ?_) ?_ ?_
          ⟨other, ?_⟩
        · exact Option.some_inj.mp (was.symm.trans mapped)
        · rw [erased]
          exact (wf.nodup _ _).erase _
        · rwa [erased]
        · rw [Function.update_of_ne different, version, uses]

theorem call_wellFormed (wf : t.WellFormed) (c : Call) {after : Routes}
    (called : t.call c = some after) : after.WellFormed := by
  cases c with
  | addRoute ipDst ipGw =>
      cases called
      rw [addRoute_eq]
      exact wf.write ipDst (fun gw same => (Option.some_inj.mp same).symm) (wf.nodup _ _).insert
  | delRoute ipDst =>
      cases called
      cases routed : t.dynRoutesByIpv ipDst.version ipDst with
      | none => simpa [delRoute, routed] using wf
      | some ipGw =>
          obtain ⟨ipDsts, erased, eq⟩ := delRoute_eq wf routed
          rw [eq, Option.getD_some]
          refine wf.write ipDst (fun gw same => by cases same) ?_
          rw [erased]
          exact (wf.nodup _ _).erase _

/-- One call keeps the agreement exactly when it meets the condition. -/
theorem call_routesAgree_iff (agree : t.RoutesAgree) (wf : t.WellFormed) (c : Call)
    {after : Routes} (called : t.call c = some after) :
    after.RoutesAgree ↔ t.KeepsAgreement c := by
  cases c with
  | addRoute ipDst ipGw =>
      cases called
      exact addRoute_routesAgree_iff agree wf ipDst ipGw
  | delRoute ipDst =>
      cases called
      cases deleted : t.delRoute ipDst with
      | none =>
          refine iff_of_true agree fun ipGw routed => ?_
          obtain ⟨_, _, eq⟩ := delRoute_eq wf routed
          rw [eq] at deleted
          cases deleted
      | some after => exact delRoute_routesAgree_iff agree wf deleted

theorem initial_wellFormed : initial.WellFormed where
  gwVersion _ _ _ routed := by cases routed
  nodup _ _ := List.nodup_nil

theorem initial_routesAgree : initial.RoutesAgree where
  inverse _ _ _ := by simp [initial, gws]
  hostGws _ _ := by simp [initial, Uses]
  routeGws _ _ := by simp [initial, Uses]

end Agreement

/-- **The tables agree all along a run exactly when no call of it replaces a
gateway or takes the last route of one.** -/
theorem routesAgree_iff_keepsAgreement (calls : List Call) :
    (∀ done t, done <+: calls → exec call initial done = some t → t.RoutesAgree) ↔
      Allowed call KeepsAgreement initial calls := by
  refine forall_prefix_iff_allowed WellFormed ?_ ?_ ?_ calls initial_wellFormed
    initial_routesAgree
  · intro t c
    cases c <;> exact ⟨_, rfl⟩
  · intro t after c wf called
    exact call_wellFormed wf c called
  · intro t after c wf agree called
    exact call_routesAgree_iff agree wf c called

/-- A byte has values. -/
instance neZero_bytes : NeZero 256 := ⟨by decide⟩

/-- `10.99.99.0/24` -/
def labNetwork : IpNetwork where
  networkAddress := ⟨.v4, 174285568, by decide⟩
  prefixlen := 24
  prefixlen_le := by decide
  aligned := by decide

/-- `10.0.0.n` -/
def labGateway (n : Fin 256) : IpAddress where
  version := .v4
  value := 167772160 + n
  inRange := by
    have bound := n.isLt
    change _ < 2 ^ 32
    omega

theorem labGateway_prefix : 24 ≤ (labGateway 0).version.maxPrefixlen := by decide

/-- `10.0.0.0/24` is a network. -/
theorem labGateway_aligned :
    (labGateway 0).value % 2 ^ ((labGateway 0).version.maxPrefixlen - 24) = 0 := by decide

/-- A destination whose gateway is replaced stays listed under the old gateway. -/
theorem not_routesAgree_of_replaced :
    ¬ ∀ calls t, exec call initial calls = some t → t.RoutesAgree := by
  intro always
  have agree := always
    [.addRoute labNetwork (labGateway 1), .addRoute labNetwork (labGateway 2)] _ rfl
  have listed := (agree.inverse .v4 labNetwork (labGateway 1)).mp (by decide)
  exact absurd listed (by decide)

end Routes

end Faucet.Vlan
