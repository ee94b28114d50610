import Faucet.Lacp.Nomination

/-!
# Which ports of a LAG are selected

The nomination reads the configuration and the actor states of the ports and
nothing else (`Network.nominated_view`), so the valves keep computing the same
DP while `lacp_update` runs on one port after another, as long as the actor
states stay. After such a sweep the ports are selected by the nomination of the
shared state (`Network.sweep_selected`).
-/

set_option autoImplicit false

namespace Faucet.Lacp

/-! ## What the nomination reads -/

/-- The valve as the nomination sees it. -/
def Valve.view (valve : Valve) : Valve := { valve with ports := valve.ports.map Port.view }

theorem filter_map_view (ports : List Port) (keep : Port → Bool)
    (same : ∀ port, keep port.view = keep port) :
    (ports.map Port.view).filter keep = (ports.filter keep).map Port.view := by
  rw [List.filter_map]
  congr 2
  funext port
  exact same port

theorem lagsOf_map_view (ports : List Port) :
    lagsOf (ports.map Port.view) = (lagsOf ports).map fun (lag, ports) =>
      (lag, ports.map Port.view) := by
  simp only [lagsOf, List.map_map]
  congr 1
  funext lag
  exact congrArg (Prod.mk lag) (filter_map_view ports _ fun _ => rfl)

theorem lookup_map_view (lags : List (LagId × List Port)) (lag : LagId) :
    (lags.map fun (lag, ports) => (lag, ports.map Port.view)).lookup lag =
      (lags.lookup lag).map (·.map Port.view) := by
  induction lags with
  | nil => rfl
  | cons entry lags ih =>
      obtain ⟨key, ports⟩ := entry
      rw [List.map_cons, List.lookup_cons, List.lookup_cons, ih]
      cases lag == key <;> rfl

namespace Valve

theorem view_lacpPorts (valve : Valve) : valve.view.lacpPorts = valve.lacpPorts.map Port.view :=
  filter_map_view _ _ fun _ => rfl

theorem view_lacpUpPorts (valve : Valve) :
    valve.view.lacpUpPorts = valve.lacpUpPorts.map Port.view := by
  rw [lacpUpPorts, view_lacpPorts]
  exact filter_map_view _ _ fun _ => rfl

theorem view_lacpNosyncPorts (valve : Valve) :
    valve.view.lacpNosyncPorts = valve.lacpNosyncPorts.map Port.view := by
  rw [lacpNosyncPorts, view_lacpPorts]
  exact filter_map_view _ _ fun _ => rfl

theorem view_portCounts (valve : Valve) (lacpId : LagId) :
    valve.view.portCounts lacpId = valve.portCounts lacpId := by
  have noSync : valve.view.lagsNosync.getLast?.map (fun (_, ports) => ports.length) =
      valve.lagsNosync.getLast?.map fun (_, ports) => ports.length := by
    rw [lagsNosync, view_lacpNosyncPorts, lagsOf_map_view, List.getLast?_map, Option.map_map,
      lagsNosync]
    congr 1
    funext entry
    exact List.length_map _
  unfold portCounts
  rw [noSync, lagsUp, view_lacpUpPorts, lagsOf_map_view, lookup_map_view]
  cases up : (lagsOf valve.lacpUpPorts).lookup lacpId <;> simp [lagsUp, up]

end Valve

theorem nominate_map_view (lacpId : LagId) (valves : List Valve) :
    nominate lacpId (valves.map Valve.view) = nominate lacpId valves := by
  have counts : dpCounts lacpId (valves.map Valve.view) = dpCounts lacpId valves := by
    rw [dpCounts, List.filterMap_map]
    apply List.filterMap_congr
    intro valve _
    simp only [Function.comp_apply, Valve.view_portCounts]
    rfl
  have roots : ((valves.map Valve.view).filter (·.isRoot)).getLast?.map (·.dpId) =
      (valves.filter (·.isRoot)).getLast?.map (·.dpId) := by
    rw [List.filter_map, List.getLast?_map, Option.map_map]
    rfl
  unfold nominate
  rw [counts, roots]

namespace Network

variable {net : Network}

theorem otherValves_map_view (net : Network) (dpId : DpId) :
    otherValves (net.map Valve.view) dpId = (net.otherValves dpId).map Valve.view := by
  unfold otherValves
  rw [List.filter_map]
  rfl

/-- The nomination is a function of the view. -/
theorem nominated_view (net : Network) (lacpId : LagId) (valve : Valve) :
    nominated (net.map Valve.view) lacpId valve.view = net.nominated lacpId valve := by
  have others := otherValves_map_view net valve.dpId
  have stacked : stackedValves ((net.otherValves valve.dpId).map Valve.view) =
      (stackedValves (net.otherValves valve.dpId)).map Valve.view := by
    unfold stackedValves
    rw [List.filter_map]
    rfl
  unfold nominated getLacpDpidNomination
  change (if (otherValves (net.map Valve.view) valve.dpId).isEmpty then _ else
    nominate lacpId (_ :: stackedValves (otherValves (net.map Valve.view) valve.dpId))).1 = _
  rw [others, stacked, List.isEmpty_map, ← List.map_cons, nominate_map_view]

/-! ## One call of `lacp_update` -/

theorem map_view_mapPort (net : Network) (dpId : DpId) (number : ℕ) {update : Valve → Port → Port}
    (viewed : Port → Port) (commutes : ∀ valve port, (update valve port).view = viewed port.view) :
    (net.mapPort dpId number update).map Valve.view =
      mapPort (net.map Valve.view) dpId number fun _ => viewed := by
  simp only [mapPort, List.map_map]
  apply List.map_congr_left
  intro valve _
  simp only [Function.comp_apply]
  by_cases same : valve.dpId = dpId
  · have here : valve.view.dpId = dpId := same
    rw [if_pos same, if_pos here]
    simp only [Valve.view, List.map_map]
    congr 1
    apply List.map_congr_left
    intro port _
    simp only [Function.comp_apply]
    by_cases sameNumber : port.number = number
    · have there : port.view.number = number := sameNumber
      rw [if_pos sameNumber, if_pos there, commutes]
    · have elsewhere : ¬ port.view.number = number := sameNumber
      rw [if_neg sameNumber, if_neg elsewhere]
  · have elsewhere : ¬ valve.view.dpId = dpId := same
    rw [if_neg same, if_neg elsewhere]

theorem mapPort_eq_self {dpId : DpId} {number : ℕ} {update : Valve → Port → Port}
    (same : ∀ valve ∈ net, valve.dpId = dpId → ∀ port ∈ valve.ports, port.number = number →
      update valve port = port) : net.mapPort dpId number update = net := by
  refine (List.map_congr_left fun valve member => ?_).trans (List.map_id net)
  split
  next sameDp =>
    have ports : (valve.ports.map fun port =>
        if port.number = number then update valve port else port) = valve.ports := by
      refine (List.map_congr_left fun port inside => ?_).trans (List.map_id _)
      split
      next sameNumber => exact same valve member sameDp port inside sameNumber
      next => rfl
    rw [ports]
    rfl
  next => rfl

theorem mapPort_mapPort (dpId : DpId) (number : ℕ) {first second : Port → Port}
    (keepsNumber : ∀ port, (first port).number = port.number) :
    (net.mapPort dpId number fun _ => first).mapPort dpId number (fun _ => second) =
      net.mapPort dpId number fun _ port => second (first port) := by
  simp only [mapPort, List.map_map]
  apply List.map_congr_left
  intro valve _
  simp only [Function.comp_apply]
  by_cases sameDp : valve.dpId = dpId
  · simp only [sameDp, if_true, List.map_map]
    congr 1
    apply List.map_congr_left
    intro port _
    by_cases sameNumber : port.number = number <;> simp [sameNumber, keepsNumber]
  · simp only [if_neg sameDp]

theorem map_view_updatePortSelectionState (net : Network) (dpId : DpId) (number : ℕ)
    (coldStart : Bool) :
    (net.updatePortSelectionState dpId number coldStart).map Valve.view = net.map Valve.view := by
  rw [updatePortSelectionState, map_view_mapPort _ _ _ id fun _ _ =>
    Port.view_lacpPortUpdate _ _ _]
  exact mapPort_eq_self fun _ _ _ _ _ _ => rfl

/-- The call leaves the actor state of its port as it is. -/
def KeepsActorState (net : Network) (call : Call) : Prop :=
  ∀ valve ∈ net, valve.dpId = call.dpId → ∀ port ∈ valve.ports, port.number = call.number →
    (port.lacpActorUpdate call.lacpUp call.lacpPkt false).dynLacpActorState =
      port.dynLacpActorState

theorem keepsActorState_view {call : Call} :
    KeepsActorState (net.map Valve.view) call ↔ net.KeepsActorState call := by
  simp only [KeepsActorState, List.mem_map, forall_exists_index, and_imp,
    forall_apply_eq_imp_iff₂]
  refine forall₃_congr fun valve _ _ => ?_
  simp only [Valve.view, List.mem_map, forall_exists_index, and_imp, forall_apply_eq_imp_iff₂]
  rfl

/-- The view after the two actor updates of a call is that after the second. -/
theorem map_view_lacpUpdate {call : Call} (keeps : net.KeepsActorState call) :
    (net.lacpUpdate call).map Valve.view = net.map Valve.view := by
  have actor : ∀ (net : Network) (coldStart : Bool),
      (net.mapPort call.dpId call.number fun _ port =>
        port.lacpActorUpdate call.lacpUp call.lacpPkt coldStart).map Valve.view =
      mapPort (net.map Valve.view) call.dpId call.number fun _ port =>
        (port.lacpActorUpdate call.lacpUp call.lacpPkt coldStart).view :=
    fun net coldStart => map_view_mapPort _ _ _ _ fun _ port => Port.view_lacpActorUpdate ..
  have still : mapPort (net.map Valve.view) call.dpId call.number (fun _ port =>
      (port.lacpActorUpdate call.lacpUp call.lacpPkt false).view) = net.map Valve.view := by
    apply mapPort_eq_self
    intro valve member sameDp port inside sameNumber
    have same := keepsActorState_view.mpr keeps valve member sameDp port inside sameNumber
    obtain ⟨valve, _, rfl⟩ := List.mem_map.mp member
    obtain ⟨port, _, rfl⟩ := List.mem_map.mp inside
    exact congrArg (fun state => { port.view with dynLacpActorState := state }) same
  simp only [lacpUpdate]
  rw [map_view_updatePortSelectionState, actor]
  split
  · rw [map_view_updatePortSelectionState, actor, mapPort_mapPort]
    · exact still
    · exact fun _ => rfl
  · exact still

theorem exists_of_mem_mapPort {dpId : DpId} {number : ℕ} {update : Valve → Port → Port}
    {valve : Valve} {port : Port} (member : valve ∈ net.mapPort dpId number update)
    (inside : port ∈ valve.ports) :
    ∃ before ∈ net, before.dpId = valve.dpId ∧ ∃ old ∈ before.ports,
      port = if before.dpId = dpId ∧ old.number = number then update before old else old := by
  obtain ⟨before, there, rfl⟩ := List.mem_map.mp member
  by_cases sameDp : before.dpId = dpId
  · simp only [if_pos sameDp] at inside ⊢
    obtain ⟨old, present, rfl⟩ := List.mem_map.mp inside
    refine ⟨before, there, rfl, old, present, ?_⟩
    simp only [sameDp, true_and]
  · simp only [if_neg sameDp] at inside ⊢
    exact ⟨before, there, rfl, port, inside, by simp [sameDp]⟩

/-- A port that is not called is as before, also when another port is called. -/
theorem mem_of_mem_mapPort {dpId : DpId} {number : ℕ} {update : Valve → Port → Port}
    {valve : Valve} {port : Port}
    (keepsNumber : ∀ valve port, (update valve port).number = port.number)
    (member : valve ∈ net.mapPort dpId number update) (inside : port ∈ valve.ports)
    (other : ¬ (valve.dpId = dpId ∧ port.number = number)) :
    ∃ before ∈ net, before.dpId = valve.dpId ∧ port ∈ before.ports := by
  obtain ⟨before, there, sameDp, old, present, eq⟩ := exists_of_mem_mapPort member inside
  refine ⟨before, there, sameDp, ?_⟩
  split at eq
  next called =>
    subst eq
    rw [keepsNumber, ← sameDp] at other
    exact absurd called other
  next => exact eq ▸ present

theorem mem_of_mem_updatePortSelectionState {dpId : DpId} {number : ℕ} {coldStart : Bool}
    {valve : Valve} {port : Port}
    (member : valve ∈ net.updatePortSelectionState dpId number coldStart)
    (inside : port ∈ valve.ports) (other : ¬ (valve.dpId = dpId ∧ port.number = number)) :
    ∃ before ∈ net, before.dpId = valve.dpId ∧ port ∈ before.ports := by
  unfold updatePortSelectionState at member
  refine mem_of_mem_mapPort ?_ member inside other
  exact fun _ _ => rfl

theorem mem_of_mem_actorUpdate {dpId : DpId} {number : ℕ} {lacpUp lacpPkt coldStart : Bool}
    {valve : Valve} {port : Port}
    (member : valve ∈ net.mapPort dpId number fun _ port =>
      port.lacpActorUpdate lacpUp lacpPkt coldStart)
    (inside : port ∈ valve.ports) (other : ¬ (valve.dpId = dpId ∧ port.number = number)) :
    ∃ before ∈ net, before.dpId = valve.dpId ∧ port ∈ before.ports := by
  refine mem_of_mem_mapPort ?_ member inside other
  exact fun _ _ => rfl

/-- Valves that agree on a nomination agree on it wherever the view is the same. -/
theorem nominated_of_view {after : Network} (same : after.map Valve.view = net.map Valve.view)
    {lacpId : LagId} {answer : Nomination} (agree : ∀ valve ∈ net, net.nominated lacpId valve = answer)
    {valve : Valve} (member : valve ∈ after) : after.nominated lacpId valve = answer := by
  have viewed : valve.view ∈ net.map Valve.view := same ▸ List.mem_map_of_mem member
  obtain ⟨before, there, sameView⟩ := List.mem_map.mp viewed
  rw [← nominated_view, same, ← sameView, nominated_view]
  exact agree before there

variable {lacpId : LagId} {answer : Nomination}

/-- What a call of `lacp_update` does to the selection of a port. -/
theorem lacpUpdate_selected (agree : ∀ valve ∈ net, net.nominated lacpId valve = answer)
    {call : Call} (keeps : net.KeepsActorState call) {valve : Valve} {port : Port}
    (member : valve ∈ net.lacpUpdate call) (inside : port ∈ valve.ports)
    (ofLag : port.lacp = lacpId) (free : port.forced = false) :
    (valve.dpId = call.dpId ∧ port.number = call.number ∧
        port.isPortSelected = (Nomination.dpId valve.dpId == answer)) ∨
      ¬ (valve.dpId = call.dpId ∧ port.number = call.number) ∧
        ∃ before ∈ net, before.dpId = valve.dpId ∧ port ∈ before.ports := by
  have viewAfter := map_view_lacpUpdate keeps
  simp only [lacpUpdate] at member viewAfter
  rw [map_view_updatePortSelectionState] at viewAfter
  obtain ⟨before, there, sameDp, old, present, eq⟩ := exists_of_mem_mapPort member inside
  split at eq
  next called =>
    subst eq
    refine .inl ⟨sameDp ▸ called.1, called.2, ?_⟩
    have freeOld : old.forced = false := free
    have oldLag : old.lacp = lacpId := ofLag
    rw [Port.isPortSelected_lacpPortUpdate freeOld, oldLag,
      nominated_of_view viewAfter agree there, sameDp]
  next uncalled =>
    subst eq
    rw [sameDp] at uncalled
    refine .inr ⟨uncalled, ?_⟩
    rw [← sameDp] at uncalled ⊢
    obtain ⟨earlier, there, sameDp', present⟩ := mem_of_mem_actorUpdate there present uncalled
    rw [← sameDp'] at uncalled ⊢
    split at there
    · obtain ⟨cold, there, sameCold, present⟩ :=
        mem_of_mem_updatePortSelectionState there present uncalled
      rw [← sameCold] at uncalled ⊢
      exact mem_of_mem_actorUpdate there present uncalled
    · exact ⟨earlier, there, rfl, present⟩

/-! ## A sweep over the ports -/

theorem map_view_sweep {calls : List Call} (keeps : ∀ call ∈ calls, net.KeepsActorState call) :
    (net.sweep calls).map Valve.view = net.map Valve.view := by
  induction calls using List.reverseRecOn with
  | nil => rfl
  | append_singleton calls call ih =>
      have before := ih fun call member => keeps call (List.mem_append_left _ member)
      have keepsNow : (net.sweep calls).KeepsActorState call := by
        rw [← keepsActorState_view, before, keepsActorState_view]
        exact keeps call (by simp)
      rw [sweep, List.foldl_append]
      exact (map_view_lacpUpdate keepsNow).trans before

/-- **After a sweep the called ports of a LAG are selected as nominated** before it. -/
theorem sweep_selected (agree : ∀ valve ∈ net, net.nominated lacpId valve = answer)
    {calls : List Call} (keeps : ∀ call ∈ calls, net.KeepsActorState call) {valve : Valve}
    {port : Port} (member : valve ∈ net.sweep calls) (inside : port ∈ valve.ports)
    (ofLag : port.lacp = lacpId) (free : port.forced = false)
    (called : ∃ call ∈ calls, call.dpId = valve.dpId ∧ call.number = port.number) :
    port.isPortSelected = (Nomination.dpId valve.dpId == answer) := by
  induction calls using List.reverseRecOn generalizing valve with
  | nil =>
      obtain ⟨call, none, _⟩ := called
      cases none
  | append_singleton calls call ih =>
      have keepsEarlier := fun call member => keeps call (List.mem_append_left _ member)
      have sameView := map_view_sweep keepsEarlier
      have keepsNow : (net.sweep calls).KeepsActorState call := by
        rw [← keepsActorState_view, sameView, keepsActorState_view]
        exact keeps call (by simp)
      rw [sweep, List.foldl_append] at member
      rcases lacpUpdate_selected (fun valve there => nominated_of_view sameView agree there)
        keepsNow member inside ofLag free with ⟨_, _, selected⟩ | ⟨uncalled, before, there, sameDp, old⟩
      · exact selected
      · obtain ⟨earlier, among, matching⟩ := called
        rw [← sameDp]
        refine ih keepsEarlier there old ⟨earlier, ?_, ?_⟩
        · rcases List.mem_append.mp among with member | last
          · exact member
          · rw [List.mem_singleton.mp last] at matching
            exact absurd ⟨matching.1.symm, matching.2.symm⟩ uncalled
        · rwa [sameDp]

end Network

end Faucet.Lacp
