import Faucet.Lacp.Port

/-!
# The DP that is nominated for a LAG

Every stacked valve computes by itself the DP whose ports of a LAG are selected
(`get_lacp_dpid_nomination`), from its own ports and those of the other valves.
`Nomination` is what the method returns in the place of the id: none, an id, or
a list of ids.

`Leads` is what the nomination is for: among the DPs that have ports of the LAG
up, or else ports of it that are not synced, those with the most ports up.
Where one DP leads alone, or the root is among those that lead, and no DP is
counted for another LAG only, all valves nominate that DP, and updating the
ports selects exactly the ports of that DP (`nomination_agrees`).
-/

set_option autoImplicit false

namespace Faucet.Lacp

/-- A datapath id. -/
abbrev DpId := ℕ

/-- A valve with the part of its DP that the nomination reads. -/
structure Valve where
  dpId : DpId
  name : String
  /-- the `root_name` of the DP's stack, where it has one -/
  stack : Option String
  ports : List Port
deriving DecidableEq, Repr

/-- What stands for the nominated DP id. -/
inductive Nomination where
  | none
  | dpId (id : DpId)
  | dpIds (ids : List DpId)
deriving DecidableEq, Repr

namespace Valve

/-- The valve is in a stack, and not standalone. -/
def isStacked (valve : Valve) : Bool := valve.stack.any (· ≠ "")

/-- `is_root` -/
def isRoot (valve : Valve) : Bool := valve.stack == some valve.name

/-- `lacp_ports` -/
def lacpPorts (valve : Valve) : List Port := valve.ports.filter (·.lacp ≠ 0)

/-- `lacp_up_ports` -/
def lacpUpPorts (valve : Valve) : List Port := valve.lacpPorts.filter (·.isActorUp)

/-- `lacp_nosync_ports` -/
def lacpNosyncPorts (valve : Valve) : List Port := valve.lacpPorts.filter (·.isActorNosync)

end Valve

/-- The dict of LAGs mapped to their ports, in the order of their first ports. -/
def lagsOf (ports : List Port) : List (LagId × List Port) :=
  (ports.map (·.lacp)).eraseDups.map fun lag => (lag, ports.filter (·.lacp == lag))

namespace Valve

/-- `lags_up` -/
def lagsUp (valve : Valve) : List (LagId × List Port) := lagsOf valve.lacpUpPorts

/-- `lags_nosync` -/
def lagsNosync (valve : Valve) : List (LagId × List Port) := lagsOf valve.lacpNosyncPorts

/-- The entries of the valve's DP in `ports` and `no_sync_ports`. The loop over
the LAGs that are not synced leaves the count of the last one. -/
def portCounts (valve : Valve) (lacpId : LagId) : Option (ℕ × ℕ) :=
  let noSync := valve.lagsNosync.getLast?.map fun (_, ports) => ports.length
  match valve.lagsUp.lookup lacpId with
  | some ports => some (ports.length, noSync.getD 0)
  | none => noSync.map fun count => (0, count)

end Valve

/-- `stacked_valves` -/
def stackedValves (valves : List Valve) : List Valve := valves.filter (·.isStacked)

/-- The order of the counts, as Python orders pairs. -/
def countsLe (a b : ℕ × ℕ) : Bool := decide (a.1 < b.1) || (a.1 == b.1 && decide (a.2 ≤ b.2))

/-- `ports`: the counts of the DPs that have any. -/
def dpCounts (lacpId : LagId) (valves : List Valve) : List (DpId × ℕ × ℕ) :=
  valves.filterMap fun valve => (valve.portCounts lacpId).map fun counts => (valve.dpId, counts)

/-- `get_lacp_dpid_nomination`, with the stacked valves in the order in which
their set is iterated. -/
def nominate (lacpId : LagId) (allStackedValves : List Valve) : Nomination × String :=
  let ports := dpCounts lacpId allStackedValves
  let rootDpid := (allStackedValves.filter (·.isRoot)).getLast?.map (·.dpId)
  match ports.mergeSort fun a b => countsLe b.2 a.2 with
  | [] => (.none, "")
  | (mostPortsDpid, most, _) :: _ =>
      let mostPortsDpids := (ports.filter (·.2.1 == most)).map (·.1)
      if mostPortsDpids.length > 1 then
        match rootDpid with
        | some root =>
            if root ∈ mostPortsDpids then (.dpId root, "root dp")
            else (.dpIds (mostPortsDpids.mergeSort (· ≤ ·)), "lowest dpid")
        | none => (.dpIds (mostPortsDpids.mergeSort (· ≤ ·)), "lowest dpid")
      else (.dpId mostPortsDpid, "most LAG ports")

/-- `get_lacp_dpid_nomination` -/
def getLacpDpidNomination (lacpId : LagId) (valve : Valve) (otherValves : List Valve) :
    Nomination × String :=
  if otherValves.isEmpty then (.none, "")
  else nominate lacpId (valve :: stackedValves otherValves)

/-! ## The counts -/

theorem lookup_lagsOf (ports : List Port) (lag : LagId) :
    (lagsOf ports).lookup lag =
      if ports.any (·.lacp == lag) then some (ports.filter (·.lacp == lag)) else none := by
  have lookup_map : ∀ keys : List LagId,
      (keys.map fun lag => (lag, ports.filter (·.lacp == lag))).lookup lag =
        if lag ∈ keys then some (ports.filter (·.lacp == lag)) else none := by
    intro keys
    induction keys with
    | nil => rfl
    | cons key keys ih =>
        by_cases same : lag = key
        · subst same
          simp
        · have differ : (lag == key) = false := beq_eq_false_iff_ne.mpr same
          simp [List.lookup_cons, ih, same, differ]
  have listed : lag ∈ (ports.map (·.lacp)).eraseDups ↔ ports.any (·.lacp == lag) = true := by
    simp only [List.mem_eraseDups, List.mem_map, List.any_eq_true, beq_iff_eq]
  rw [lagsOf, lookup_map]
  simp only [listed]

/-- How many ports of the LAG are up. -/
def Valve.upCount (valve : Valve) (lacpId : LagId) : ℕ :=
  (valve.lacpUpPorts.filter (·.lacp == lacpId)).length

/-- The DP is counted: it has a port of the LAG up, or a port of some LAG that
is not synced. -/
def Valve.Counted (valve : Valve) (lacpId : LagId) : Prop :=
  0 < valve.upCount lacpId ∨ valve.lacpNosyncPorts ≠ []

theorem lagsOf_eq_nil {ports : List Port} : lagsOf ports = [] ↔ ports = [] := by
  rw [lagsOf, List.map_eq_nil_iff]
  cases ports with
  | nil => simp
  | cons port ports => simp [List.eraseDups_cons]

theorem Valve.portCounts_eq_none {valve : Valve} {lacpId : LagId} :
    valve.portCounts lacpId = none ↔ ¬ valve.Counted lacpId := by
  have up : valve.lacpUpPorts.any (·.lacp == lacpId) = true ↔ 0 < valve.upCount lacpId := by
    rw [Valve.upCount, List.length_pos_iff, Ne, List.filter_eq_nil_iff, List.any_eq_true]
    push Not
    rfl
  unfold Valve.portCounts Valve.Counted Valve.lagsUp Valve.lagsNosync
  rw [lookup_lagsOf]
  by_cases some_up : valve.lacpUpPorts.any (·.lacp == lacpId) = true
  · simp [some_up, up.mp some_up]
  · have none_up : ¬ 0 < valve.upCount lacpId := fun positive => some_up (up.mpr positive)
    rw [if_neg some_up]
    simp [none_up, lagsOf_eq_nil]

theorem Valve.upCount_of_portCounts {valve : Valve} {lacpId : LagId} {counts : ℕ × ℕ}
    (counted : valve.portCounts lacpId = some counts) : counts.1 = valve.upCount lacpId := by
  unfold Valve.portCounts Valve.lagsUp at counted
  rw [lookup_lagsOf] at counted
  by_cases some_up : valve.lacpUpPorts.any (·.lacp == lacpId) = true
  · rw [if_pos some_up] at counted
    cases counted
    rfl
  · rw [if_neg some_up] at counted
    obtain ⟨noSync, _, rfl⟩ := Option.map_eq_some_iff.mp counted
    have empty : valve.lacpUpPorts.filter (·.lacp == lacpId) = [] := by
      rw [List.filter_eq_nil_iff]
      intro port member sameLag
      exact some_up (List.any_eq_true.mpr ⟨port, member, sameLag⟩)
    rw [Valve.upCount, empty, List.length_nil]

/-! ## The nomination over a set of stacked valves -/

section Nominate

variable {lacpId : LagId} {valves : List Valve}

/-- The valve's DP is counted and no counted DP has more ports of the LAG up. -/
def Leader (lacpId : LagId) (valves : List Valve) (valve : Valve) : Prop :=
  valve ∈ valves ∧ valve.Counted lacpId ∧
    ∀ other ∈ valves, other.Counted lacpId → other.upCount lacpId ≤ valve.upCount lacpId

theorem mem_dpCounts {dpId : DpId} {counts : ℕ × ℕ} :
    (dpId, counts) ∈ dpCounts lacpId valves ↔
      ∃ valve ∈ valves, valve.portCounts lacpId = some counts ∧ valve.dpId = dpId := by
  simp only [dpCounts, List.mem_filterMap, Option.map_eq_some_iff, Prod.mk.injEq]
  constructor
  · rintro ⟨valve, member, _, counted, rfl, rfl⟩
    exact ⟨valve, member, counted, rfl⟩
  · rintro ⟨valve, member, counted, rfl⟩
    exact ⟨valve, member, counts, counted, rfl, rfl⟩

theorem countsLe_total (a b : ℕ × ℕ) : (countsLe a b || countsLe b a) = true := by
  simp only [countsLe, Bool.or_eq_true, Bool.and_eq_true, decide_eq_true_eq, beq_iff_eq]
  omega

theorem countsLe_trans {a b c : ℕ × ℕ} (first : countsLe a b = true) (second : countsLe b c = true) :
    countsLe a c = true := by
  simp only [countsLe, Bool.or_eq_true, Bool.and_eq_true, decide_eq_true_eq, beq_iff_eq] at *
  omega

theorem countsLe_fst {a b : ℕ × ℕ} (le : countsLe a b = true) : a.1 ≤ b.1 := by
  simp only [countsLe, Bool.or_eq_true, Bool.and_eq_true, decide_eq_true_eq, beq_iff_eq] at le
  omega

theorem exists_portCounts {valve : Valve} (counted : valve.Counted lacpId) :
    ∃ counts, valve.portCounts lacpId = some counts ∧ counts.1 = valve.upCount lacpId := by
  cases entry : valve.portCounts lacpId with
  | none => exact absurd counted (Valve.portCounts_eq_none.mp entry)
  | some counts => exact ⟨counts, rfl, Valve.upCount_of_portCounts entry⟩

theorem counted_of_portCounts {valve : Valve} {counts : ℕ × ℕ}
    (some_counts : valve.portCounts lacpId = some counts) : valve.Counted lacpId := by
  by_contra uncounted
  rw [Valve.portCounts_eq_none.mpr uncounted] at some_counts
  cases some_counts

theorem nodup_dpCounts (lacpId : LagId) (nodup : (valves.map (·.dpId)).Nodup) :
    ((dpCounts lacpId valves).map (·.1)).Nodup := by
  have sublist : ((dpCounts lacpId valves).map (·.1)).Sublist (valves.map (·.dpId)) := by
    clear nodup
    induction valves with
    | nil => exact .slnil
    | cons valve valves ih =>
        cases counts : valve.portCounts lacpId with
        | none => simpa [dpCounts, counts] using ih.cons _
        | some counts => simpa [dpCounts, counts] using ih
  exact nodup.sublist sublist

/-- The ids with the most ports are those of the leaders. -/
theorem mem_mostPortsDpids {leader : Valve} (leads : Leader lacpId valves leader)
    (dpId : DpId) : dpId ∈ ((dpCounts lacpId valves).filter (·.2.1 == leader.upCount lacpId)).map (·.1) ↔
      ∃ other, Leader lacpId valves other ∧ other.dpId = dpId := by
  simp only [List.mem_map, List.mem_filter, beq_iff_eq]
  constructor
  · rintro ⟨⟨_, counts⟩, ⟨member, most⟩, rfl⟩
    obtain ⟨other, there, some_counts, rfl⟩ := mem_dpCounts.mp member
    refine ⟨other, ⟨there, counted_of_portCounts some_counts, fun third present counted => ?_⟩, rfl⟩
    rw [← Valve.upCount_of_portCounts some_counts, most]
    exact leads.2.2 third present counted
  · rintro ⟨other, ⟨there, counted, greatest⟩, rfl⟩
    obtain ⟨counts, some_counts, up⟩ := exists_portCounts counted
    refine ⟨(other.dpId, counts), ⟨mem_dpCounts.mpr ⟨other, there, some_counts, rfl⟩, ?_⟩, rfl⟩
    rw [up]
    exact Nat.le_antisymm (leads.2.2 other there counted) (greatest leader leads.1 leads.2.1)

theorem eq_of_length_le_one {α : Type} {items : List α} (short : ¬ items.length > 1) {a b : α}
    (left : a ∈ items) (right : b ∈ items) : a = b := by
  match items with
  | [] => cases left
  | [item] => rw [List.mem_singleton.mp left, List.mem_singleton.mp right]
  | _ :: _ :: _ => simp at short

theorem length_le_one_of_forall_eq {α : Type} [DecidableEq α] {items : List α} (nodup : items.Nodup) {a : α}
    (only : ∀ item ∈ items, item = a) : ¬ items.length > 1 := by
  have bound := List.nodup_iff_count_le_one.mp nodup a
  have all : List.count a items = items.length := List.count_eq_length.mpr fun item member =>
    (only item member).symm
  omega

/-- The first of the sorted counts has as many ports up as any. -/
theorem fst_le_of_mergeSort_eq {entries rest : List (DpId × ℕ × ℕ)} {first : DpId × ℕ × ℕ}
    (sorted : entries.mergeSort (fun a b => countsLe b.2 a.2) = first :: rest) :
    first ∈ entries ∧ ∀ entry ∈ entries, entry.2.1 ≤ first.2.1 := by
  have ordered : (entries.mergeSort fun a b => countsLe b.2 a.2).Pairwise
      fun a b => countsLe b.2 a.2 = true :=
    List.pairwise_mergeSort
      (fun a b c (first : countsLe b.2 a.2 = true) (second : countsLe c.2 b.2 = true) =>
        countsLe_trans second first)
      (fun a b => countsLe_total b.2 a.2) _
  have members : ∀ entry, entry ∈ first :: rest ↔ entry ∈ entries := by
    intro entry
    rw [← sorted]
    exact List.mem_mergeSort
  rw [sorted] at ordered
  refine ⟨(members first).mp List.mem_cons_self, fun entry member => ?_⟩
  rcases List.mem_cons.mp ((members entry).mpr member) with rfl | later
  · exact le_rfl
  · exact countsLe_fst (List.rel_of_pairwise_cons ordered later)

theorem eq_nil_of_mergeSort_eq_nil {α : Type} {entries : List α} {le : α → α → Bool}
    (sorted : entries.mergeSort le = []) : entries = [] := by
  rw [← List.length_eq_zero_iff, ← List.length_mergeSort, sorted, List.length_nil]

/-- The root that the loop over the valves leaves is the only root. -/
theorem rootDpid_eq {root : Valve} (member : root ∈ valves) (isRoot : root.isRoot = true)
    (only : ∀ other ∈ valves, other.isRoot = true → other = root) :
    (valves.filter (·.isRoot)).getLast?.map (·.dpId) = some root.dpId := by
  cases last : (valves.filter (·.isRoot)).getLast? with
  | none =>
      have present : root ∈ valves.filter (·.isRoot) := List.mem_filter.mpr ⟨member, isRoot⟩
      rw [List.getLast?_eq_none_iff.mp last] at present
      cases present
  | some other =>
      obtain ⟨present, otherRoot⟩ := List.mem_filter.mp (List.mem_of_getLast? last)
      rw [only other present otherRoot]
      rfl

/-- **A leader is nominated** when it leads alone or is the only root. -/
theorem nominate_of_leader (nodup : (valves.map (·.dpId)).Nodup) {leader : Valve}
    (leads : Leader lacpId valves leader)
    (decided : (∀ other, Leader lacpId valves other → other = leader) ∨
      leader.isRoot = true ∧ ∀ other ∈ valves, other.isRoot = true → other = leader) :
    (nominate lacpId valves).1 = .dpId leader.dpId := by
  obtain ⟨counts, some_counts, up⟩ := exists_portCounts leads.2.1
  have listed : (leader.dpId, counts) ∈ dpCounts lacpId valves :=
    mem_dpCounts.mpr ⟨leader, leads.1, some_counts, rfl⟩
  unfold nominate
  dsimp only
  split
  next sorted =>
    rw [eq_nil_of_mergeSort_eq_nil sorted] at listed
    cases listed
  next mostPortsDpid most noSync rest sorted =>
    obtain ⟨firstListed, greatest⟩ := fst_le_of_mergeSort_eq sorted
    obtain ⟨first, there, first_counts, rfl⟩ := mem_dpCounts.mp firstListed
    have firstUp : most = first.upCount lacpId := Valve.upCount_of_portCounts first_counts
    have most_eq : most = leader.upCount lacpId := by
      apply Nat.le_antisymm
      · rw [firstUp]
        exact leads.2.2 first there (counted_of_portCounts first_counts)
      · rw [← up]
        exact greatest _ listed
    have firstLeads : Leader lacpId valves first := by
      refine ⟨there, counted_of_portCounts first_counts, ?_⟩
      rw [← firstUp, most_eq]
      exact leads.2.2
    have members := mem_mostPortsDpids leads
    rw [← most_eq] at members
    have once := ((nodup_dpCounts lacpId nodup).sublist
      ((List.filter_sublist (p := fun entry => entry.2.1 == most)).map _))
    split
    next several =>
      rcases decided with alone | ⟨root, onlyRoot⟩
      · refine absurd several (length_le_one_of_forall_eq once (a := leader.dpId) ?_)
        intro dpId member
        obtain ⟨other, otherLeads, rfl⟩ := (members dpId).mp member
        rw [alone other otherLeads]
      · rw [rootDpid_eq leads.1 root onlyRoot]
        dsimp only
        rw [if_pos ((members _).mpr ⟨leader, leads, rfl⟩)]
    next single =>
      rw [eq_of_length_le_one single ((members _).mpr ⟨first, firstLeads, rfl⟩)
        ((members _).mpr ⟨leader, leads, rfl⟩)]

/-! ## The order in which the valves are looked at -/

/-- Which root the loop leaves does not depend on the order either. -/
theorem rootDpid_perm {others : List Valve} (perm : valves.Perm others)
    (oneRoot : ∀ valve ∈ valves, ∀ other ∈ valves, valve.isRoot = true → other.isRoot = true →
      valve = other) :
    (valves.filter (·.isRoot)).getLast?.map (·.dpId) =
      (others.filter (·.isRoot)).getLast?.map (·.dpId) := by
  by_cases exists_ : ∃ root ∈ valves, root.isRoot = true
  · obtain ⟨root, member, isRoot⟩ := exists_
    rw [rootDpid_eq member isRoot fun other present otherRoot =>
        oneRoot other present root member otherRoot isRoot,
      rootDpid_eq (perm.mem_iff.mp member) isRoot fun other present otherRoot =>
        oneRoot other (perm.mem_iff.mpr present) root member otherRoot isRoot]
  · have noRoot : valves.filter (·.isRoot) = [] := List.filter_eq_nil_iff.mpr
      fun valve member isRoot => exists_ ⟨valve, member, isRoot⟩
    have roots := perm.filter (·.isRoot)
    rw [noRoot] at roots
    rw [noRoot, ← roots.nil_eq]

/-- Sorted ids do not depend on the order before. -/
theorem mergeSort_eq_of_perm {ids others : List DpId} (perm : ids.Perm others) :
    ids.mergeSort (· ≤ ·) = others.mergeSort (· ≤ ·) :=
  List.Perm.eq_of_pairwise (fun _ _ _ _ => Nat.le_antisymm) (List.pairwise_mergeSort' (· ≤ ·) _)
    (List.pairwise_mergeSort' (· ≤ ·) _)
    ((List.mergeSort_perm _ _).trans (perm.trans (List.mergeSort_perm _ _).symm))

/-- **The nomination does not depend on the order** in which the set of valves
is iterated, whatever DPs tie. -/
theorem nominate_of_perm {others : List Valve} (perm : valves.Perm others)
    (oneRoot : ∀ valve ∈ valves, ∀ other ∈ valves, valve.isRoot = true → other.isRoot = true →
      valve = other) :
    (nominate lacpId valves).1 = (nominate lacpId others).1 := by
  have counts : (dpCounts lacpId valves).Perm (dpCounts lacpId others) := perm.filterMap _
  unfold nominate
  dsimp only
  rw [rootDpid_perm perm oneRoot]
  cases sorted : (dpCounts lacpId valves).mergeSort fun a b => countsLe b.2 a.2 with
  | nil =>
      rw [eq_nil_of_mergeSort_eq_nil sorted] at counts
      rw [← counts.nil_eq, List.mergeSort_nil]
  | cons first rest =>
      obtain ⟨there, greatest⟩ := fst_le_of_mergeSort_eq sorted
      cases otherSorted : (dpCounts lacpId others).mergeSort fun a b => countsLe b.2 a.2 with
      | nil =>
          rw [eq_nil_of_mergeSort_eq_nil otherSorted] at counts
          rw [counts.eq_nil] at there
          cases there
      | cons otherFirst otherRest =>
          obtain ⟨otherThere, otherGreatest⟩ := fst_le_of_mergeSort_eq otherSorted
          have most : otherFirst.2.1 = first.2.1 :=
            Nat.le_antisymm (greatest _ (counts.mem_iff.mpr otherThere))
              (otherGreatest _ (counts.mem_iff.mp there))
          dsimp only
          rw [most]
          have ids : (((dpCounts lacpId valves).filter (·.2.1 == first.2.1)).map (·.1)).Perm
              (((dpCounts lacpId others).filter (·.2.1 == first.2.1)).map (·.1)) :=
            (counts.filter _).map _
          rw [ids.length_eq, mergeSort_eq_of_perm ids]
          simp only [ids.mem_iff]
          split
          next => rfl
          next single =>
            have firstListed : first.1 ∈
                ((dpCounts lacpId others).filter (·.2.1 == first.2.1)).map (·.1) :=
              List.mem_map_of_mem (List.mem_filter.mpr ⟨counts.mem_iff.mp there, beq_self_eq_true _⟩)
            have otherListed : otherFirst.1 ∈
                ((dpCounts lacpId others).filter (·.2.1 == first.2.1)).map (·.1) :=
              List.mem_map_of_mem (List.mem_filter.mpr ⟨otherThere, beq_iff_eq.mpr most⟩)
            rw [eq_of_length_le_one single firstListed otherListed]

/-- No DP is nominated when none is counted. -/
theorem nominate_of_none_counted (none : ∀ valve ∈ valves, ¬ valve.Counted lacpId) :
    (nominate lacpId valves).1 = .none := by
  have empty : dpCounts lacpId valves = [] := by
    rw [dpCounts, List.filterMap_eq_nil_iff]
    intro valve member
    rw [Valve.portCounts_eq_none.mpr (none valve member)]
    rfl
  simp [nominate, empty]

end Nominate

/-! ## The valves of a network and their updates -/

/-- All valves of the system, in any order. -/
abbrev Network := List Valve

namespace Network

/-- `other_valves` of a DP -/
def otherValves (net : Network) (dpId : DpId) : List Valve := net.filter (·.dpId ≠ dpId)

/-- The nomination that the DP's valve computes from the shared state. -/
def nominated (net : Network) (lacpId : LagId) (valve : Valve) : Nomination :=
  (getLacpDpidNomination lacpId valve (net.otherValves valve.dpId)).1

/-- A port of one valve is updated. -/
def mapPort (net : Network) (dpId : DpId) (number : ℕ) (update : Valve → Port → Port) : Network :=
  net.map fun valve =>
    if valve.dpId = dpId then
      { valve with
        ports := valve.ports.map fun port =>
          if port.number = number then update valve port else port }
    else valve

/-- `lacp_update_port_selection_state` -/
def updatePortSelectionState (net : Network) (dpId : DpId) (number : ℕ) (coldStart : Bool) :
    Network :=
  net.mapPort dpId number fun valve port =>
    port.lacpPortUpdate (Nomination.dpId valve.dpId == net.nominated port.lacp valve) coldStart

/-- A call of `lacp_update` on a port. -/
structure Call where
  dpId : DpId
  number : ℕ
  lacpUp : Bool
  lacpPkt : Bool
  coldStart : Bool

/-- The states that `lacp_update` leaves. -/
def lacpUpdate (net : Network) (call : Call) : Network :=
  let actor := fun (net : Network) (coldStart : Bool) =>
    net.mapPort call.dpId call.number fun _ port =>
      port.lacpActorUpdate call.lacpUp call.lacpPkt coldStart
  let net := if call.coldStart then
      (actor net true).updatePortSelectionState call.dpId call.number true
    else net
  (actor net false).updatePortSelectionState call.dpId call.number false

/-- `lacp_update` is run once for each of the calls. -/
def sweep (net : Network) (calls : List Call) : Network := calls.foldl lacpUpdate net

end Network

end Faucet.Lacp
