import Faucet.Lacp.Selection

/-!
# Agreement on the nominated DP

Valves that share one view always compute the same nomination, on ties as well:
it does not depend on the order in which the set of the valves is iterated.

`Leads` says for which DPs of a LAG the nomination is meant. Where it singles
out a DP, this DP is nominated and exactly its ports of the LAG are selected. A
valve without other valves nominates none, and so do all valves while no port is
up or waiting to be synced.
-/

set_option autoImplicit false

namespace Faucet.Lacp

namespace Network

variable {net : Network} {lacpId : LagId}

/-- The valves are stacked, tell each other apart and know the same root. -/
structure SharedView (net : Network) : Prop where
  dpIds : (net.map (·.dpId)).Nodup
  names : ∀ valve ∈ net, ∀ other ∈ net, valve.name = other.name → valve = other
  stacked : ∀ valve ∈ net, valve.isStacked = true
  root : ∀ valve ∈ net, ∀ other ∈ net, valve.stack = other.stack

/-- The DP has ports of the LAG up, or no DP has and it has ports of the LAG
that are not synced. -/
def Ready (net : Network) (lacpId : LagId) (valve : Valve) : Prop :=
  0 < valve.upCount lacpId ∨
    (∀ other ∈ net, other.upCount lacpId = 0) ∧ ∃ port ∈ valve.lacpNosyncPorts, port.lacp = lacpId

/-- No ready DP has more ports of the LAG up. -/
def Leads (net : Network) (lacpId : LagId) (valve : Valve) : Prop :=
  valve ∈ net ∧ net.Ready lacpId valve ∧
    ∀ other ∈ net, net.Ready lacpId other → other.upCount lacpId ≤ valve.upCount lacpId

/-- The DP leads alone, or it leads and is the root. -/
def Decided (net : Network) (lacpId : LagId) (valve : Valve) : Prop :=
  net.Leads lacpId valve ∧ ((∀ other, net.Leads lacpId other → other = valve) ∨ valve.isRoot = true)

/-- Some DP has the LAG up, or no DP has an unsynced port without having one of
this LAG. -/
def OnlyThisLag (net : Network) (lacpId : LagId) : Prop :=
  (∃ valve ∈ net, 0 < valve.upCount lacpId) ∨
    ∀ valve ∈ net, valve.lacpNosyncPorts ≠ [] → ∃ port ∈ valve.lacpNosyncPorts, port.lacp = lacpId

/-- Whatever order `lacp_update` is run in on ports of the LAG without changing
actor states, the ports it was run on are selected exactly on the DP with the
given id. -/
def SelectsOnly (net : Network) (lacpId : LagId) (chosen : Option DpId) : Prop :=
  ∀ calls, (∀ call ∈ calls, net.KeepsActorState call) → ∀ valve ∈ net.sweep calls,
    ∀ port ∈ valve.ports, port.lacp = lacpId → port.forced = false →
      (∃ call ∈ calls, call.dpId = valve.dpId ∧ call.number = port.number) →
        (port.isPortSelected = true ↔ chosen = some valve.dpId)

theorem selectsOnly_none (agree : ∀ valve ∈ net, net.nominated lacpId valve = .none) :
    net.SelectsOnly lacpId none := by
  intro calls keeps valve member port inside ofLag free called
  rw [sweep_selected agree keeps member inside ofLag free called]
  simp

theorem selectsOnly_some {dpId : DpId}
    (agree : ∀ valve ∈ net, net.nominated lacpId valve = .dpId dpId) :
    net.SelectsOnly lacpId (some dpId) := by
  intro calls keeps valve member port inside ofLag free called
  rw [sweep_selected agree keeps member inside ofLag free called, beq_iff_eq,
    Nomination.dpId.injEq, Option.some_inj]
  exact eq_comm

/-- A leading DP owns ports of the LAG. -/
theorem Leads.owns {valve : Valve} (leads : net.Leads lacpId valve) :
    ∃ port ∈ valve.ports, port.lacp = lacpId := by
  rcases leads.2.1 with up | ⟨_, port, member, ofLag⟩
  · obtain ⟨port, member⟩ := List.exists_mem_of_length_pos up
    obtain ⟨upPort, ofLag⟩ := List.mem_filter.mp member
    exact ⟨port, List.mem_of_mem_filter (List.mem_of_mem_filter upPort), by simpa using ofLag⟩
  · exact ⟨port, List.mem_of_mem_filter (List.mem_of_mem_filter member), ofLag⟩

/-- Where only this LAG counts, the DPs that the code counts first lead. -/
theorem leads_iff_leader (only : net.OnlyThisLag lacpId) (valve : Valve) :
    net.Leads lacpId valve ↔ Leader lacpId net valve := by
  by_cases someUp : ∃ valve ∈ net, 0 < valve.upCount lacpId
  · obtain ⟨up, there, positive⟩ := someUp
    have ready : ∀ other, net.Ready lacpId other ↔ 0 < other.upCount lacpId := by
      intro other
      refine or_iff_left fun noneUp => ?_
      have zero := noneUp.1 up there
      omega
    simp only [Leads, Leader, ready]
    constructor
    · rintro ⟨member, mine, greatest⟩
      refine ⟨member, .inl mine, fun other present _ => ?_⟩
      rcases Nat.eq_zero_or_pos (other.upCount lacpId) with zero | otherUp
      · omega
      · exact greatest other present otherUp
    · rintro ⟨member, _, greatest⟩
      have bound := greatest up there (.inl positive)
      exact ⟨member, by omega, fun other present otherUp => greatest other present (.inl otherUp)⟩
  · have noneUp : ∀ other ∈ net, other.upCount lacpId = 0 := fun other member =>
      Nat.eq_zero_of_not_pos fun positive => someUp ⟨other, member, positive⟩
    have nosyncOnly := only.resolve_left someUp
    have same : ∀ other ∈ net, (net.Ready lacpId other ↔ other.Counted lacpId) := by
      intro other member
      refine or_congr Iff.rfl ⟨?_, fun nosync => ⟨noneUp, nosyncOnly other member nosync⟩⟩
      rintro ⟨_, port, inside, _⟩
      exact List.ne_nil_of_mem inside
    unfold Leads Leader
    refine and_congr_right fun member => and_congr (same valve member) ?_
    exact forall₂_congr fun other present => by rw [same other present]

/-- The stacked valves that a valve looks at are those of the network. -/
theorem mem_cons_stackedValves (shared : net.SharedView) {valve : Valve} (member : valve ∈ net)
    (other : Valve) :
    other ∈ valve :: stackedValves (net.otherValves valve.dpId) ↔ other ∈ net := by
  simp only [List.mem_cons, stackedValves, otherValves, List.mem_filter, decide_eq_true_eq, ne_eq]
  constructor
  · rintro (rfl | ⟨⟨there, _⟩, _⟩)
    · exact member
    · exact there
  · intro there
    by_cases same : other.dpId = valve.dpId
    · exact .inl (List.inj_on_of_nodup_map shared.dpIds there member same)
    · exact .inr ⟨⟨there, same⟩, shared.stacked other there⟩

theorem nodup_cons_stackedValves (shared : net.SharedView) (valve : Valve) :
    ((valve :: stackedValves (net.otherValves valve.dpId)).map (·.dpId)).Nodup := by
  refine List.nodup_cons.mpr ⟨fun listed => ?_, ?_⟩
  · obtain ⟨other, member, same⟩ := List.mem_map.mp listed
    have differs := (List.mem_filter.mp (List.mem_of_mem_filter member)).2
    simp [same] at differs
  · exact shared.dpIds.sublist ((List.filter_sublist.trans List.filter_sublist).map _)

theorem perm_cons_stackedValves (shared : net.SharedView) {valve : Valve} (member : valve ∈ net) :
    (valve :: stackedValves (net.otherValves valve.dpId)).Perm net :=
  (List.perm_ext_iff_of_nodup (nodup_cons_stackedValves shared valve).of_map
    shared.dpIds.of_map).mpr (mem_cons_stackedValves shared member)

/-- The shared view has one root at most. -/
theorem SharedView.oneRoot (shared : net.SharedView) :
    ∀ valve ∈ net, ∀ other ∈ net, valve.isRoot = true → other.isRoot = true → valve = other := by
  intro valve member other there root otherRoot
  refine shared.names valve member other there ?_
  have same := shared.root valve member other there
  rw [beq_iff_eq.mp root, beq_iff_eq.mp otherRoot] at same
  exact Option.some_inj.mp same

/-- A valve that has no others is the only one. -/
theorem SharedView.eq_of_otherValves_eq_nil (shared : net.SharedView) {valve other : Valve}
    (member : valve ∈ net) (there : other ∈ net) (alone : net.otherValves valve.dpId = []) :
    other = valve := by
  refine List.inj_on_of_nodup_map shared.dpIds there member ?_
  by_contra differs
  have listed : other ∈ net.otherValves valve.dpId :=
    List.mem_filter.mpr ⟨there, by simpa using differs⟩
  rw [alone] at listed
  cases listed

/-- **All valves compute the same nomination.** -/
theorem nominated_agree (shared : net.SharedView) (lacpId : LagId) {valve other : Valve}
    (member : valve ∈ net) (there : other ∈ net) :
    net.nominated lacpId valve = net.nominated lacpId other := by
  by_cases alone : net.otherValves valve.dpId = []
  · rw [shared.eq_of_otherValves_eq_nil member there alone]
  by_cases otherAlone : net.otherValves other.dpId = []
  · rw [shared.eq_of_otherValves_eq_nil there member otherAlone]
  unfold nominated getLacpDpidNomination
  rw [if_neg (by simpa using alone), if_neg (by simpa using otherAlone),
    ← nominate_of_perm (perm_cons_stackedValves shared member).symm shared.oneRoot,
    ← nominate_of_perm (perm_cons_stackedValves shared there).symm shared.oneRoot]

theorem nominated_of_decided (shared : net.SharedView) (only : net.OnlyThisLag lacpId)
    {chosen valve : Valve} (decided : net.Decided lacpId chosen) (member : valve ∈ net)
    (others : net.otherValves valve.dpId ≠ []) :
    net.nominated lacpId valve = .dpId chosen.dpId := by
  have members := mem_cons_stackedValves shared member
  have leader : ∀ other, Leader lacpId (valve :: stackedValves (net.otherValves valve.dpId)) other ↔
      net.Leads lacpId other := by
    intro other
    rw [leads_iff_leader only]
    simp only [Leader, members]
  unfold nominated getLacpDpidNomination
  rw [if_neg (by simpa using others)]
  refine nominate_of_leader (nodup_cons_stackedValves shared valve)
    ((leader chosen).mpr decided.1) (decided.2.imp ?_ ?_)
  · exact fun alone other leads => alone other ((leader other).mp leads)
  · intro root
    exact ⟨root, fun other present otherRoot =>
      shared.oneRoot other ((members other).mp present) chosen decided.1.1 otherRoot root⟩

theorem nominated_of_none_ready {valve : Valve} (member : valve ∈ net)
    (idle : ∀ other ∈ net, other.upCount lacpId = 0 ∧ other.lacpNosyncPorts = []) :
    net.nominated lacpId valve = .none := by
  unfold nominated getLacpDpidNomination
  split
  next => rfl
  next =>
    refine nominate_of_none_counted fun other present => ?_
    have there : other ∈ net := by
      rcases List.mem_cons.mp present with rfl | stacked
      · exact member
      · exact List.mem_of_mem_filter (List.mem_of_mem_filter stacked)
    obtain ⟨down, synced⟩ := idle other there
    rintro (up | nosync)
    · exact absurd up (by omega)
    · exact nosync synced

/-- **Agreement on the nominated DP.** All valves compute the same nomination. A
valve without other valves nominates none; so does every valve while no port of
the LAG is up and none is waiting to be synced. Where a DP is singled out among
several, every valve nominates it, it owns ports of the LAG, and `lacp_update`
selects the ports of that DP only. -/
theorem nomination_agrees (shared : net.SharedView) (lacpId : LagId) :
    (∀ valve ∈ net, ∀ other ∈ net, net.nominated lacpId valve = net.nominated lacpId other) ∧
    (∀ valve, net = [valve] → net.nominated lacpId valve = .none ∧ net.SelectsOnly lacpId none) ∧
    ((∀ valve ∈ net, valve.upCount lacpId = 0 ∧ valve.lacpNosyncPorts = []) →
      (∀ valve ∈ net, net.nominated lacpId valve = .none) ∧ net.SelectsOnly lacpId none) ∧
    (1 < net.length → net.OnlyThisLag lacpId → ∀ chosen, net.Decided lacpId chosen →
      (∃ port ∈ chosen.ports, port.lacp = lacpId) ∧
        (∀ valve ∈ net, net.nominated lacpId valve = .dpId chosen.dpId) ∧
        net.SelectsOnly lacpId (some chosen.dpId)) := by
  refine ⟨fun valve member other there => nominated_agree shared lacpId member there, ?_, ?_, ?_⟩
  · rintro valve rfl
    have alone : nominated [valve] lacpId valve = .none := by
      simp [nominated, getLacpDpidNomination, otherValves]
    refine ⟨alone, selectsOnly_none fun other member => ?_⟩
    rw [List.mem_singleton.mp member, alone]
  · intro idle
    have agree : ∀ valve ∈ net, net.nominated lacpId valve = .none :=
      fun valve member => nominated_of_none_ready member idle
    exact ⟨agree, selectsOnly_none agree⟩
  · intro several only chosen decided
    have agree : ∀ valve ∈ net, net.nominated lacpId valve = .dpId chosen.dpId := by
      intro valve member
      refine nominated_of_decided shared only decided member fun alone => absurd several ?_
      refine length_le_one_of_forall_eq shared.dpIds.of_map (a := valve) fun other there => ?_
      exact shared.eq_of_otherValves_eq_nil member there alone
    exact ⟨decided.1.owns, agree, selectsOnly_some agree⟩

end Network

/-! ## Three DPs with one LAG -/

/-- A port of LAG 1 with its actor up. -/
def labPort (number : ℕ) : Port where
  number := number
  lacp := 1
  enabled := true
  dynPhysUp := true
  lacpSelected := false
  lacpUnselected := false
  lacpStandby := false
  dynLacpUp := some true
  dynLacpActorState := .up
  dynLacpPortSelected := .notConfigured

/-- The root of a stack of two. -/
def labRoot : Valve := ⟨1, "sw1", some "sw1", [labPort 3, labPort 4]⟩

/-- The other datapath of the stack. -/
def labEdge : Valve := ⟨2, "sw2", some "sw1", [labPort 3, labPort 4]⟩

/-- A second edge, whose port of LAG 1 is not synced. -/
def labWaiting : Valve :=
  ⟨3, "sw3", some "sw1", [{ labPort 3 with dynLacpUp := some false, dynLacpActorState := .noSync }]⟩

theorem labShared : Network.SharedView [labRoot, labEdge, labWaiting] where
  dpIds := by decide
  names := by decide
  stacked := by decide
  root := by decide

/-- Two DPs tie and all nominate the root. -/
theorem nomination_agrees_lab :
    Network.nominated [labRoot, labEdge, labWaiting] 1 labWaiting = .dpId 1 ∧
      Network.nominated [labRoot, labEdge, labWaiting] 1 labEdge =
        Network.nominated [labRoot, labEdge, labWaiting] 1 labWaiting ∧
      Network.SelectsOnly [labRoot, labEdge, labWaiting] 1 (some 1) := by
  obtain ⟨same, _, _, decided⟩ := Network.nomination_agrees labShared 1
  have agrees := decided (by decide) (.inl ⟨labRoot, by decide, by decide⟩) labRoot ?_
  · exact ⟨agrees.2.1 labWaiting (by decide),
      same labEdge (by decide) labWaiting (by decide), agrees.2.2⟩
  · refine ⟨⟨by decide, .inl (by decide), ?_⟩, .inr (by decide)⟩
    have bound : ∀ other ∈ [labRoot, labEdge, labWaiting],
        other.upCount 1 ≤ labRoot.upCount 1 := by decide
    exact fun other member _ => bound other member

/-- A valve with a LAG up nominates no DP for it when there are no other valves. -/
theorem not_nominated_alone :
    ¬ ∀ (net : Network) (lacpId : LagId), net.SharedView →
      (∃ valve ∈ net, 0 < valve.upCount lacpId) →
      ∃ owner ∈ net, (∃ port ∈ owner.ports, port.lacp = lacpId) ∧
        ∀ valve ∈ net, net.nominated lacpId valve = .dpId owner.dpId := by
  intro always
  obtain ⟨owner, _, _, nominates⟩ := always [labRoot] 1
    ⟨by decide, by decide, by decide, by decide⟩ ⟨labRoot, by decide, by decide⟩
  have none : Network.nominated [labRoot] 1 labRoot = .none := by decide
  exact absurd (none.symm.trans (nominates labRoot (by decide))) (by simp)

end Faucet.Lacp
