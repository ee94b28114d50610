import Faucet.Ports.Status

/-!
# What a reply about the ports makes up

A reply that describes the ports is compared with the ports that are known to be up, and
for each difference a status event is made up that goes to the handler of such events.
The two loops go through sets of numbers, in any order. No event is about a port without
a change, and each configured port that has changed gets one. The events make
`dyn_up_port_nos` agree with the reply, apart from one case: the local port is left out
of the ports that are described, so when it comes up the event says that it is deleted
(`reconciled_iff`).
-/

set_option autoImplicit false

namespace Faucet.Ports

open OpenFlow (PortNo)

/-- A status event, with what the handler of these gets. -/
structure Event where
  portNo : PortNo
  reason : Reason
  state : ℕ
deriving DecidableEq

namespace Dp

variable (dp : Dp)

/-! ## Events -/

/-- The event of `_fabricate`. -/
def fabricated (portNo : PortNo) (reason : Reason) (status : Bool) : Event :=
  ⟨portNo, reason, if status then 0 else ofppsLinkDown⟩

/-- For a port without a configuration. -/
def noConfEvent? (prevUp currUp : PortNo → Bool) (portNo : PortNo) : Option Event :=
  if prevUp portNo ≠ currUp portNo then some (fabricated portNo .modify (currUp portNo)) else none

/-- For a port with a configuration. -/
def confEvent? (descs : List (PortNo × ℕ)) (prevUp currUp : PortNo → Bool) (portNo : PortNo) :
    Option Event :=
  if prevUp portNo = currUp portNo then none
  else if portNo ∈ currDynPortNos descs then
    if !prevUp portNo then some (fabricated portNo .add true)
    else some (fabricated portNo .modify (currUp portNo))
  else some (fabricated portNo .delete false)

/-- The numbers of `no_conf_port_nos` and of `conf_port_nos`, each in some order. -/
structure Order (descs : List (PortNo × ℕ)) where
  noConf : List PortNo
  conf : List PortNo
  noConfPerm : noConf.Perm
    ((currDynPortNos descs).filter (· ∉ dp.ports.map (·.number)))
  confPerm : conf.Perm (dp.ports.map (·.number))

/-- The order in which they are listed. -/
def listed (descs : List (PortNo × ℕ)) : dp.Order descs := ⟨_, _, .refl _, .refl _⟩

/-- The events that a reply makes up. -/
def events (state : State) (descs : List (PortNo × ℕ)) (order : dp.Order descs) : List Event :=
  let prevUp := fun portNo => decide (portNo ∈ state.dynUpPortNos)
  order.noConf.filterMap (noConfEvent? prevUp (currDynUp descs)) ++
    order.conf.filterMap (confEvent? descs prevUp (currDynUp descs))

/-- The handler takes an event. -/
def take (state : State) (event : Event) : State :=
  dp.portStatusHandler state event.portNo event.reason event.state

/-- The state after a reply. -/
def reconcile (state : State) (descs : List (PortNo × ℕ)) (order : dp.Order descs) : State :=
  (dp.events state descs order).foldl dp.take state

/-- **A reply is reconciled**: the configured ports that are up are those that it reports
so, a configured port that has changed has one event, and a port that has not has none. -/
structure Reconciled (state : State) (descs : List (PortNo × ℕ)) (order : dp.Order descs) :
    Prop where
  up : ∀ port ∈ dp.ports, port.number ∈ (dp.reconcile state descs order).dynUpPortNos ↔
    currDynUp descs port.number = true
  changed : ∀ port ∈ dp.ports,
    ¬ (port.number ∈ state.dynUpPortNos ↔ currDynUp descs port.number = true) →
      ((dp.events state descs order).map (·.portNo)).count port.number = 1
  unchanged : ∀ portNo, (portNo ∈ state.dynUpPortNos ↔ currDynUp descs portNo = true) →
    portNo ∉ (dp.events state descs order).map (·.portNo)

/-! ## The events are what the handler does -/

section Handler

variable {dp : Dp} {state : State} {descs : List (PortNo × ℕ)} {prevUp currUp : PortNo → Bool}
  {numbers : List PortNo} {portNo : PortNo} {event : Event}

theorem foldl_fabricateNoConf :
    numbers.foldl (dp.fabricateNoConf prevUp currUp) state =
      (numbers.filterMap (noConfEvent? prevUp currUp)).foldl dp.take state := by
  induction numbers generalizing state with
  | nil => rfl
  | cons first rest ih =>
      rw [List.foldl_cons, ih, List.filterMap_cons, fabricateNoConf, noConfEvent?]
      split
      next => rfl
      next => rfl

theorem foldl_fabricateConf :
    numbers.foldl (dp.fabricateConf descs prevUp currUp) state =
      (numbers.filterMap (confEvent? descs prevUp currUp)).foldl dp.take state := by
  induction numbers generalizing state with
  | nil => rfl
  | cons first rest ih =>
      rw [List.foldl_cons, ih, List.filterMap_cons, fabricateConf, confEvent?]
      split_ifs
      all_goals rfl

/-- The handler of a reply gives the events to the handler of events. -/
theorem portDescStatsReplyHandler_eq :
    dp.portDescStatsReplyHandler state descs = dp.reconcile state descs (dp.listed descs) := by
  rw [portDescStatsReplyHandler, reconcile, events, List.foldl_append, ← foldl_fabricateNoConf,
    ← foldl_fabricateConf]
  rfl

/-! ## Which ports have events -/

theorem portNo_of_noConfEvent? (made : noConfEvent? prevUp currUp portNo = some event) :
    event.portNo = portNo := by
  rw [noConfEvent?] at made
  split at made
  next =>
    cases made
    rfl
  next => cases made

theorem portNo_of_confEvent? (made : confEvent? descs prevUp currUp portNo = some event) :
    event.portNo = portNo := by
  rw [confEvent?] at made
  split_ifs at made
  all_goals
    cases made
    rfl

/-- Events for numbers are about those that have one. -/
theorem map_filterMap_events {make : PortNo → Option Event}
    (about : ∀ portNo event, make portNo = some event → event.portNo = portNo) :
    (numbers.filterMap make).map (·.portNo) = numbers.filter fun portNo => (make portNo).isSome := by
  induction numbers with
  | nil => rfl
  | cons first rest ih =>
      cases made : make first with
      | none => rw [List.filterMap_cons_none made, List.filter_cons_of_neg (by simp [made]), ih]
      | some event =>
          rw [List.filterMap_cons_some made, List.filter_cons_of_pos (by simp [made]),
            List.map_cons, ih, about first event made]

theorem isSome_noConfEvent? :
    (noConfEvent? prevUp currUp portNo).isSome = decide (prevUp portNo ≠ currUp portNo) := by
  rw [noConfEvent?]
  split <;> simp_all

theorem isSome_confEvent? :
    (confEvent? descs prevUp currUp portNo).isSome = decide (prevUp portNo ≠ currUp portNo) := by
  rw [confEvent?]
  split_ifs <;> simp_all

end Handler

section Events

variable {dp : Dp} {state : State} {descs : List (PortNo × ℕ)} {order : dp.Order descs}
  {portNo : PortNo} {port : Port}

/-- A port has changed: it is up now and was not, or the other way round. -/
def Changed (state : State) (descs : List (PortNo × ℕ)) (portNo : PortNo) : Prop :=
  decide (portNo ∈ state.dynUpPortNos) ≠ currDynUp descs portNo

instance : DecidablePred (Changed state descs) := fun _ => inferInstanceAs (Decidable (_ ≠ _))

theorem changed_iff : Changed state descs portNo ↔
    ¬ (portNo ∈ state.dynUpPortNos ↔ currDynUp descs portNo = true) := by
  rw [Changed]
  cases currDynUp descs portNo <;> simp

/-- **The events** are about the ports that have changed. -/
theorem map_events : (dp.events state descs order).map (·.portNo) =
    (order.noConf ++ order.conf).filter fun portNo => decide (Changed state descs portNo) := by
  rw [events, List.map_append, map_filterMap_events fun _ _ => portNo_of_noConfEvent?,
    map_filterMap_events fun _ _ => portNo_of_confEvent?, List.filter_append]
  simp only [isSome_noConfEvent?, isSome_confEvent?]
  rfl

theorem mem_noConf : portNo ∈ order.noConf ↔
    portNo ∈ currDynPortNos descs ∧ portNo ∉ dp.ports.map (·.number) := by
  rw [order.noConfPerm.mem_iff, List.mem_filter, decide_eq_true_iff]

theorem mem_conf : portNo ∈ order.conf ↔ portNo ∈ dp.ports.map (·.number) :=
  order.confPerm.mem_iff

theorem nodup_order : (order.noConf ++ order.conf).Nodup := by
  refine List.nodup_append.mpr ⟨?_, order.confPerm.nodup_iff.mpr dp.numbers, ?_⟩
  · exact order.noConfPerm.nodup_iff.mpr (((List.nodup_dedup _).filter _).filter _)
  · rintro first unconfigured later configured rfl
    exact (mem_noConf.mp unconfigured).2 (mem_conf.mp configured)

theorem count_events (member : port ∈ dp.ports) (changed : Changed state descs port.number) :
    ((dp.events state descs order).map (·.portNo)).count port.number = 1 := by
  have configured : port.number ∈ order.conf :=
    mem_conf.mpr (List.mem_map.mpr ⟨port, member, rfl⟩)
  rw [map_events]
  refine List.count_eq_one_of_mem (nodup_order.filter _) (List.mem_filter.mpr ⟨?_, ?_⟩)
  · exact List.mem_append_right _ configured
  · exact decide_eq_true changed

/-- The event of a configured port. -/
theorem event_of_port {event : Event} (member : port ∈ dp.ports)
    (made : event ∈ dp.events state descs order) (about : event.portNo = port.number) :
    confEvent? descs (fun portNo => decide (portNo ∈ state.dynUpPortNos)) (currDynUp descs)
      port.number = some event := by
  have configured : port.number ∈ dp.ports.map (·.number) := List.mem_map.mpr ⟨port, member, rfl⟩
  rcases List.mem_append.mp made with made | made
  · obtain ⟨number, unconfigured, made⟩ := List.mem_filterMap.mp made
    rw [← portNo_of_noConfEvent? made, about] at unconfigured
    exact absurd configured (mem_noConf.mp unconfigured).2
  · obtain ⟨number, _, made⟩ := List.mem_filterMap.mp made
    rwa [← portNo_of_confEvent? made, about] at made

end Events

/-! ## What is up after the events -/

section Up

variable {dp : Dp} {state : State} {descs : List (PortNo × ℕ)} {order : dp.Order descs}
  {portNo other : PortNo} {port : Port} {reason : Reason} {ofState : ℕ} {events : List Event}

/-- The handler of events writes `dyn_up_port_nos` by the link. -/
theorem dynUpPortNos_portStatusHandler :
    (dp.portStatusHandler state portNo reason ofState).dynUpPortNos =
      (state.setPortStatus portNo (portStatusFromState ofState)).dynUpPortNos := by
  simp only [portStatusHandler]
  cases dp.port? portNo with
  | none => rfl
  | some port =>
      simp only [portAdd, portDelete]
      split_ifs
      all_goals rfl

theorem mem_take {event : Event} : portNo ∈ (dp.take state event).dynUpPortNos ↔
    if portNo = event.portNo then portStatusFromState event.state = true
    else portNo ∈ state.dynUpPortNos := by
  rw [take, dynUpPortNos_portStatusHandler, State.setPortStatus]
  cases portStatusFromState event.state with
  | true =>
      by_cases same : portNo = event.portNo
      · simp [same]
      · simp [same]
  | false =>
      by_cases same : portNo = event.portNo
      · simp [same]
      · simp [same]

theorem mem_foldl_of_none (none : ∀ event ∈ events, event.portNo ≠ portNo) :
    portNo ∈ (events.foldl dp.take state).dynUpPortNos ↔ portNo ∈ state.dynUpPortNos := by
  induction events generalizing state with
  | nil => rfl
  | cons first rest ih =>
      have apart : portNo ≠ first.portNo := (none first List.mem_cons_self).symm
      rw [List.foldl_cons, ih fun event member => none event (List.mem_cons_of_mem _ member),
        mem_take, if_neg apart]

/-- When all events of a port say the same, that is what is left. -/
theorem mem_foldl_of_all {up : Bool}
    (all : ∀ event ∈ events, event.portNo = portNo → portStatusFromState event.state = up)
    (some_event : ∃ event ∈ events, event.portNo = portNo) :
    portNo ∈ (events.foldl dp.take state).dynUpPortNos ↔ up = true := by
  induction events generalizing state with
  | nil =>
      obtain ⟨_, member, _⟩ := some_event
      cases member
  | cons first rest ih =>
      rw [List.foldl_cons]
      by_cases later : ∃ event ∈ rest, event.portNo = portNo
      · exact ih (fun event member => all event (List.mem_cons_of_mem _ member)) later
      · obtain ⟨event, member, about⟩ := some_event
        rcases List.mem_cons.mp member with rfl | member
        · have none : ∀ event ∈ rest, event.portNo ≠ portNo :=
            fun event member about => later ⟨event, member, about⟩
          rw [mem_foldl_of_none none, mem_take, if_pos about.symm,
            all event List.mem_cons_self about]
        · exact absurd ⟨event, member, about⟩ later

/-- What the event of a port that has changed says. -/
theorem portStatus_of_confEvent? {prevUp currUp : PortNo → Bool} {event : Event}
    (made : confEvent? descs prevUp currUp portNo = some event) :
    portStatusFromState event.state = (currUp portNo && decide (portNo ∈ currDynPortNos descs)) := by
  have down : portStatusFromState ofppsLinkDown = false := rfl
  have up : portStatusFromState 0 = true := rfl
  rw [confEvent?] at made
  split_ifs at made with same listed wasDown
  · cases made
    cases isUp : currUp portNo with
    | true => simp [fabricated, listed, up]
    | false => simp_all
  · cases made
    cases isUp : currUp portNo with
    | true => simp [fabricated, listed, up]
    | false => simp [fabricated, down]
  · cases made
    simp [fabricated, listed, down]

/-- **What is up after a reply**: a port without a change is as it was, and any other is up
when the reply says so and it is not the local one. -/
theorem mem_reconcile (member : port ∈ dp.ports) :
    port.number ∈ (dp.reconcile state descs order).dynUpPortNos ↔
      currDynUp descs port.number = true ∧
        (port.number ∈ currDynPortNos descs ∨ port.number ∈ state.dynUpPortNos) := by
  by_cases changed : Changed state descs port.number
  · have known : port.number ∈ (dp.events state descs order).map (·.portNo) :=
      List.one_le_count_iff.mp (count_events member changed).ge
    obtain ⟨event, made, about⟩ := List.mem_map.mp known
    rw [reconcile, mem_foldl_of_all (fun event made about =>
      portStatus_of_confEvent? (event_of_port member made about)) ⟨event, made, about⟩,
      Bool.and_eq_true, decide_eq_true_iff]
    rw [changed_iff] at changed
    constructor
    · exact fun both => ⟨both.1, .inl both.2⟩
    · rintro ⟨isUp, listed | wasUp⟩
      · exact ⟨isUp, listed⟩
      · exact absurd (iff_of_true wasUp isUp) changed
  · have none : ∀ event ∈ dp.events state descs order, event.portNo ≠ port.number := by
      intro event made about
      have known : port.number ∈ (dp.events state descs order).map (·.portNo) :=
        List.mem_map.mpr ⟨event, made, about⟩
      rw [map_events] at known
      exact changed (of_decide_eq_true (List.mem_filter.mp known).2)
    rw [changed_iff, not_not] at changed
    rw [reconcile, mem_foldl_of_none none]
    constructor
    · exact fun wasUp => ⟨changed.mp wasUp, .inr wasUp⟩
    · exact fun both => changed.mpr both.1

/-- What is up after the handler of a reply, which takes the ports as they are listed. -/
theorem mem_portDescStatsReplyHandler (member : port ∈ dp.ports) :
    port.number ∈ (dp.portDescStatsReplyHandler state descs).dynUpPortNos ↔
      currDynUp descs port.number = true ∧
        (port.number ∈ currDynPortNos descs ∨ port.number ∈ state.dynUpPortNos) := by
  rw [portDescStatsReplyHandler_eq, mem_reconcile member]

end Up

/-! ## Reconciliation -/

section Main

variable {dp : Dp} {state : State} {descs : List (PortNo × ℕ)}

theorem currDynUp_of_up {portNo : PortNo} (up : currDynUp descs portNo = true) :
    portNo ∈ currDynPortNos descs ↔ portNo ≠ ofppLocal := by
  constructor
  · exact fun listed => of_decide_eq_true (List.mem_filter.mp listed).2
  · exact mem_currDynPortNos_of_up up

/-- **A reply is reconciled** exactly when the local port does not come up in it. -/
theorem reconciled_iff (order : dp.Order descs) : dp.Reconciled state descs order ↔
    ∀ port ∈ dp.ports, port.number = ofppLocal → currDynUp descs ofppLocal = true →
      ofppLocal ∈ state.dynUpPortNos := by
  constructor
  · intro reconciled port member isLocal isUp
    rw [← isLocal] at isUp ⊢
    have there := (mem_reconcile member).mp ((reconciled.up port member).mpr isUp)
    rcases there.2 with listed | wasUp
    · exact absurd isLocal ((currDynUp_of_up isUp).mp listed)
    · exact wasUp
  · intro noLocal
    refine ⟨fun port member => ?_, fun port member changed => ?_, fun portNo same made => ?_⟩
    · rw [mem_reconcile member]
      constructor
      · exact fun both => both.1
      · intro isUp
        refine ⟨isUp, ?_⟩
        by_cases isLocal : port.number = ofppLocal
        · rw [isLocal] at isUp ⊢
          exact .inr (noLocal port member isLocal isUp)
        · exact .inl ((currDynUp_of_up isUp).mpr isLocal)
    · exact count_events member (changed_iff.mpr changed)
    · rw [map_events] at made
      exact changed_iff.mp (of_decide_eq_true (List.mem_filter.mp made).2) same

/-- A datapath of which the local port is configured. -/
def localPort : Dp where
  ports := [⟨ofppLocal, true, by decide⟩]
  numbers := List.nodup_singleton _

/-- The local port comes up, and the event says that it is deleted. -/
theorem not_reconciled_localPort :
    let before : State := ⟨∅, fun _ => false⟩
    let order := localPort.listed [(ofppLocal, 0)]
    localPort.events before _ order = [⟨ofppLocal, .delete, ofppsLinkDown⟩] ∧
      ¬ localPort.Reconciled before _ order := by
  refine ⟨by decide, fun reconciled => ?_⟩
  have up := (reconciled.up ⟨ofppLocal, true, by decide⟩ (List.mem_singleton_self _)).mpr (by decide)
  exact absurd up (by decide)

end Main

end Dp

end Faucet.Ports
