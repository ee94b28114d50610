import Faucet.Library.TransitionSystem

/-!
# When beacons are sent

`fast_advertise` is called all the time. It advertises LACP when its interval is over and,
when the interval of the beacons is over too, sends beacons: on the stack ports that are
running, and on some of the other ports whose last beacon is longer ago than the
interval. Which of these is left to a shuffle.

Rounds of beacons are at least an interval apart, and two beacons on a port that is no
stack port are more than that. Where the ports are no more than may be sent in one
round, no port goes without a beacon for two rounds (`beacons_of_run`). Where they
are more, a port may go without forever (`exists_starved`).
-/

set_option autoImplicit false

namespace Faucet.Lldp.Advertising

open TransitionSystem

/-! ## Configuration -/

/-- The options of a port that the beacons depend on. -/
structure Port where
  number : Nat
  enabled : Bool
  stack : Bool
  /-- `lldp_beacon_enabled()` -/
  beacon : Bool
  /-- `lacp and lacp_active` -/
  lacpActive : Bool
deriving DecidableEq

/-- The configuration of beacons, with a `send_interval` that has been checked. -/
structure LldpBeacon where
  sendInterval : ℤ
  maxPerInterval : ℤ
  positive : 1 ≤ sendInterval

/-- The ports of a datapath, and its beacon options. -/
structure Dp where
  ports : List Port
  nodup : (ports.map Port.number).Nodup
  lldpBeacon : Option LldpBeacon
  fastAdvertiseInterval : ℤ

/-! ## Advertising -/

/-- A round of beacons: when, which ports were running, and on which it was sent. -/
structure Round where
  time : ℤ
  running : List Nat
  sent : List Nat

/-- What changes, and what has been sent, the last first. -/
structure State where
  dynPhysUp : Nat → Bool
  dynLastLldpBeaconTime : Nat → Option ℤ
  lastFastAdvertiseSec : ℤ
  lastLldpAdvertiseSec : ℤ
  rounds : List Round
  /-- When LACP was advertised, and on which ports. -/
  lacpAdverts : List (ℤ × List Nat)

/-- `xs[:stop]` -/
def sliceTo {α : Type} (xs : List α) (stop : ℤ) : List α :=
  if 0 ≤ stop then xs.take stop.toNat else xs.take (xs.length - (-stop).toNat)

namespace Dp

variable (dp : Dp) (beacon : LldpBeacon) (state : State)

/-- `Port.running` -/
def running (port : Port) : Bool := port.enabled && state.dynPhysUp port.number

/-- The stack ports that beacons are always sent on. -/
def priorityPorts : List Port :=
  dp.ports.filter fun port => port.stack && running state port && port.beacon

/-- The other ports whose last beacon is long enough ago. -/
def nonpriorityPorts (now : ℤ) : List Port :=
  dp.ports.filter fun port =>
    port.beacon && running state port &&
      (match state.dynLastLldpBeaconTime port.number with
        | none => true
        | some time => decide (time < now - beacon.sendInterval)) &&
      !(dp.priorityPorts state).contains port

/-- `_send_lldp_beacon_on_port` on each port. -/
def sendBeacons (now : ℤ) (ports : List Port) : State :=
  { state with
    dynLastLldpBeaconTime := fun number =>
      if number ∈ ports.map Port.number then some now else state.dynLastLldpBeaconTime number
    lastLldpAdvertiseSec := now
    rounds := ⟨now, (dp.ports.filter (running state)).map Port.number, ports.map Port.number⟩ ::
      state.rounds }

/-- LACP is advertised on the ports that do so. -/
def advertiseLacp (now : ℤ) : State :=
  { state with
    lastFastAdvertiseSec := now
    lacpAdverts := (now, (dp.ports.filter fun port => port.lacpActive && running state port).map
      Port.number) :: state.lacpAdverts }

/-- `fast_advertise`, with the order of the set of stack ports and that of the shuffled list. -/
def fastAdvertise (now : ℤ) (priority shuffled : List Port) : Option State :=
  if dp.fastAdvertiseInterval = 0 ∨ now - state.lastFastAdvertiseSec < dp.fastAdvertiseInterval then
    some state
  else
    let advertised := dp.advertiseLacp state now
    match dp.lldpBeacon with
    | none => some { advertised with lastLldpAdvertiseSec := now }
    | some beacon =>
        if beacon.sendInterval ≤ now - state.lastLldpAdvertiseSec then
          if priority.Perm (dp.priorityPorts state) ∧
              shuffled.Perm (dp.nonpriorityPorts beacon state now) then
            some (dp.sendBeacons advertised now (priority ++ sliceTo shuffled beacon.maxPerInterval))
          else none
        else some advertised

end Dp

/-- `fast_advertise` is called, or a port comes up or goes down. -/
inductive Action where
  | fastAdvertise (now : ℤ) (priority shuffled : List Port)
  | portStatus (number : Nat) (up : Bool)

/-- `fast_advertise`, or a port that comes up or goes down. -/
def step (dp : Dp) (state : State) : Action → Option State
  | .fastAdvertise now priority shuffled => dp.fastAdvertise state now priority shuffled
  | .portStatus number up =>
      some { state with dynPhysUp := Function.update state.dynPhysUp number up }

/-- After `dp_init`. -/
def initial (dynPhysUp : Nat → Bool) : State where
  dynPhysUp := dynPhysUp
  dynLastLldpBeaconTime := fun _ => none
  lastFastAdvertiseSec := 0
  lastLldpAdvertiseSec := 0
  rounds := []
  lacpAdverts := []

/-! ## Rounds -/

section Rounds

variable {dp : Dp} {beacon : LldpBeacon}

/-- A port that beacons are sent on and that is no stack port. -/
def Ordinary (dp : Dp) (number : Nat) : Prop :=
  ∃ port ∈ dp.ports, port.number = number ∧ port.beacon = true ∧ port.stack = false

/-- The ordinary ports that are running in a round. -/
def ordinaryRunning (dp : Dp) (round : Round) : List Port :=
  dp.ports.filter fun port => port.beacon && !port.stack && round.running.contains port.number

/-- When a beacon was last sent on a port. -/
def lastSent (rounds : List Round) (number : Nat) : Option ℤ :=
  (rounds.find? fun round => round.sent.contains number).map Round.time

/-- What the rounds look like: how far apart, and on which ports. -/
structure Schedule (dp : Dp) (beacon : LldpBeacon) (rounds : List Round) : Prop where
  spaced : rounds.Pairwise fun later earlier => earlier.time + beacon.sendInterval ≤ later.time
  once : ∀ round ∈ rounds, round.sent.Nodup
  stack : ∀ round ∈ rounds, ∀ port ∈ dp.ports, port.stack = true → port.beacon = true →
    port.number ∈ round.running → port.number ∈ round.sent
  atMost : 0 ≤ beacon.maxPerInterval → ∀ round ∈ rounds,
    ((dp.ports.filter fun port => !port.stack && round.sent.contains port.number).length : ℤ) ≤
      beacon.maxPerInterval
  apart : ∀ number, Ordinary dp number →
    (rounds.filter fun round => round.sent.contains number).Pairwise
      fun later earlier => earlier.time + beacon.sendInterval < later.time
  covered : ∀ newer later earlier older, rounds = newer ++ later :: earlier :: older →
    ((ordinaryRunning dp later).length : ℤ) ≤ beacon.maxPerInterval →
    ∀ port ∈ ordinaryRunning dp later, port ∈ ordinaryRunning dp earlier →
      (port.number ∈ later.sent ∨ port.number ∈ earlier.sent) ∧
        (earlier.time + beacon.sendInterval < later.time → port.number ∈ later.sent)

/-- A round that may come after the others. -/
structure Follows (dp : Dp) (beacon : LldpBeacon) (older : List Round) (round : Round) : Prop where
  later : ∀ earlier ∈ older, earlier.time + beacon.sendInterval ≤ round.time
  once : round.sent.Nodup
  stack : ∀ port ∈ dp.ports, port.stack = true → port.beacon = true →
    port.number ∈ round.running → port.number ∈ round.sent
  atMost : 0 ≤ beacon.maxPerInterval →
    ((dp.ports.filter fun port => !port.stack && round.sent.contains port.number).length : ℤ) ≤
      beacon.maxPerInterval
  due : ∀ number, Ordinary dp number → number ∈ round.sent →
    ∀ time, lastSent older number = some time → time + beacon.sendInterval < round.time
  all : ((ordinaryRunning dp round).length : ℤ) ≤ beacon.maxPerInterval →
    ∀ port ∈ ordinaryRunning dp round, port.number ∉ round.sent →
      ∃ time, lastSent older port.number = some time ∧ round.time ≤ time + beacon.sendInterval

variable {older rounds : List Round} {round : Round} {number : Nat}

theorem lastSent_cons : lastSent (round :: older) number =
    if number ∈ round.sent then some round.time else lastSent older number := by
  rw [lastSent, List.find?_cons]
  by_cases sent : number ∈ round.sent
  · rw [if_pos sent, List.contains_iff_mem.mpr sent]
    rfl
  · rw [if_neg sent, Bool.eq_false_iff.mpr (mt List.contains_iff_mem.mp sent)]
    rfl

theorem exists_of_lastSent {time : ℤ} (last : lastSent rounds number = some time) :
    ∃ round ∈ rounds, number ∈ round.sent ∧ round.time = time := by
  obtain ⟨round, found, same⟩ := Option.map_eq_some_iff.mp last
  have sent : round.sent.contains number = true := by simpa using List.find?_some found
  exact ⟨round, List.mem_of_find?_eq_some found, List.contains_iff_mem.mp sent, same⟩

/-- No round with a beacon on the port is after the last one. -/
theorem le_lastSent
    (spaced : rounds.Pairwise fun later earlier => earlier.time + beacon.sendInterval ≤ later.time)
    (member : round ∈ rounds) (sent : number ∈ round.sent) :
    ∃ time, lastSent rounds number = some time ∧ round.time ≤ time := by
  induction rounds with
  | nil => cases member
  | cons newest older ih =>
      obtain ⟨before, spaced⟩ := List.pairwise_cons.mp spaced
      rw [lastSent_cons]
      rcases List.mem_cons.mp member with rfl | earlier
      · exact ⟨_, if_pos sent, le_refl _⟩
      · by_cases again : number ∈ newest.sent
        · refine ⟨_, if_pos again, ?_⟩
          have apart := before round earlier
          have positive := beacon.positive
          omega
        · rw [if_neg again]
          exact ih spaced earlier

/-- **A round that follows keeps the schedule.** -/
theorem Schedule.cons (schedule : Schedule dp beacon older) (follows : Follows dp beacon older round) :
    Schedule dp beacon (round :: older) where
  spaced := List.pairwise_cons.mpr ⟨follows.later, schedule.spaced⟩
  once := List.forall_mem_cons.mpr ⟨follows.once, schedule.once⟩
  stack := List.forall_mem_cons.mpr ⟨follows.stack, schedule.stack⟩
  atMost bound := List.forall_mem_cons.mpr ⟨follows.atMost bound, schedule.atMost bound⟩
  apart number ordinary := by
    rw [List.filter_cons]
    split
    next sent =>
      refine List.pairwise_cons.mpr ⟨fun earlier member => ?_, schedule.apart number ordinary⟩
      obtain ⟨member, before⟩ := List.mem_filter.mp member
      obtain ⟨time, last, le⟩ :=
        le_lastSent schedule.spaced member (List.contains_iff_mem.mp before)
      have due := follows.due number ordinary (List.contains_iff_mem.mp sent) time last
      omega
    next => exact schedule.apart number ordinary
  covered newer later earlier rest split few port running before := by
    cases newer with
    | cons newest newer =>
        obtain ⟨_, split⟩ := List.cons.inj split
        exact schedule.covered newer later earlier rest split few port running before
    | nil =>
        obtain ⟨rfl, rfl⟩ := List.cons.inj split
        have positive := beacon.positive
        by_cases sent : port.number ∈ round.sent
        · exact ⟨.inl sent, fun _ => sent⟩
        · obtain ⟨time, last, recent⟩ := follows.all few port running sent
          rw [lastSent_cons] at last
          split at last
          next sentBefore =>
            cases last
            exact ⟨.inr sentBefore, fun late => absurd recent (by omega)⟩
          next =>
            -- the last beacon was at least two intervals ago
            obtain ⟨oldest, member, _, rfl⟩ := exists_of_lastSent last
            have first := follows.later earlier List.mem_cons_self
            have second := (List.pairwise_cons.mp schedule.spaced).1 oldest member
            exact absurd recent (by omega)

end Rounds

/-! ## Runs -/

section Runs

variable {dp : Dp} {beacon : LldpBeacon} {state next : State}

/-- The rounds are as they should be, and the state remembers the last beacons. -/
structure Inv (dp : Dp) (beacon : LldpBeacon) (state : State) : Prop where
  schedule : Schedule dp beacon state.rounds
  enabled : ∀ round ∈ state.rounds,
    round.running ⊆ (dp.ports.filter Port.enabled).map Port.number
  last : ∀ round older, state.rounds = round :: older → state.lastLldpAdvertiseSec = round.time
  beacons : ∀ number, state.dynLastLldpBeaconTime number = lastSent state.rounds number

theorem sliceTo_sublist {α : Type} (xs : List α) (stop : ℤ) : (sliceTo xs stop).Sublist xs := by
  unfold sliceTo
  split
  · exact List.take_sublist _ _
  · exact List.take_sublist _ _

theorem length_sliceTo {α : Type} (xs : List α) {stop : ℤ} (bound : 0 ≤ stop) :
    ((sliceTo xs stop).length : ℤ) ≤ stop := by
  rw [sliceTo, if_pos bound, List.length_take]
  omega

theorem sliceTo_of_length {α : Type} {xs : List α} {stop : ℤ} (short : (xs.length : ℤ) ≤ stop) :
    sliceTo xs stop = xs := by
  rw [sliceTo, if_pos (by omega)]
  exact List.take_of_length_le (by omega)

/-- Ports are told apart by their numbers. -/
theorem eq_of_number {port other : Port} (member : port ∈ dp.ports) (member' : other ∈ dp.ports)
    (same : port.number = other.number) : port = other :=
  List.inj_on_of_nodup_map dp.nodup member member' same

theorem mem_numbers {ports : List Port} {port : Port} (known : ports ⊆ dp.ports)
    (member : port ∈ dp.ports) : port.number ∈ ports.map Port.number ↔ port ∈ ports := by
  constructor
  · intro listed
    obtain ⟨other, present, same⟩ := List.mem_map.mp listed
    rwa [← eq_of_number (known present) member same]
  · exact List.mem_map_of_mem

theorem mem_priorityPorts {port : Port} : port ∈ dp.priorityPorts state ↔
    port ∈ dp.ports ∧ port.stack = true ∧ Dp.running state port = true ∧ port.beacon = true := by
  rw [Dp.priorityPorts, List.mem_filter, Bool.and_eq_true, Bool.and_eq_true, and_assoc]

/-- A port on which a beacon is due. -/
theorem mem_nonpriorityPorts {now : ℤ} {port : Port} : port ∈ dp.nonpriorityPorts beacon state now ↔
    port ∈ dp.ports ∧ port.beacon = true ∧ port.stack = false ∧ Dp.running state port = true ∧
      ∀ time, state.dynLastLldpBeaconTime port.number = some time →
        time + beacon.sendInterval < now := by
  rw [Dp.nonpriorityPorts, List.mem_filter]
  simp only [Bool.and_eq_true, Bool.not_eq_true', List.contains_eq_mem, decide_eq_false_iff_not,
    mem_priorityPorts]
  constructor
  · rintro ⟨member, ⟨⟨isBeacon, running⟩, due⟩, other⟩
    refine ⟨member, isBeacon, ?_, running, fun time last => ?_⟩
    · exact Bool.eq_false_iff.mpr fun stack => other ⟨member, stack, running, isBeacon⟩
    · rw [last] at due
      have before := of_decide_eq_true due
      omega
  · rintro ⟨member, isBeacon, ordinary, running, due⟩
    refine ⟨member, ⟨⟨isBeacon, running⟩, ?_⟩, ?_⟩
    · cases last : state.dynLastLldpBeaconTime port.number with
      | none => rfl
      | some time =>
          have before := due time last
          exact decide_eq_true (by omega)
    · rintro ⟨_, stack, _⟩
      rw [ordinary] at stack
      cases stack

section Send

variable {now : ℤ} {priority shuffled : List Port}
  (priorities : priority.Perm (dp.priorityPorts state))
  (others : shuffled.Perm (dp.nonpriorityPorts beacon state now))
include priorities others

/-- The ports that beacons are sent on. -/
theorem mem_sent {port : Port} (member : port ∈ priority ++ sliceTo shuffled beacon.maxPerInterval) :
    port ∈ dp.priorityPorts state ∨ port ∈ dp.nonpriorityPorts beacon state now := by
  rcases List.mem_append.mp member with first | later
  · exact .inl (priorities.mem_iff.mp first)
  · exact .inr (others.mem_iff.mp ((sliceTo_sublist _ _).mem later))

theorem sent_subset : priority ++ sliceTo shuffled beacon.maxPerInterval ⊆ dp.ports := by
  intro port member
  rcases mem_sent priorities others member with first | later
  · exact (mem_priorityPorts.mp first).1
  · exact (mem_nonpriorityPorts.mp later).1

theorem nodup_sent : (priority ++ sliceTo shuffled beacon.maxPerInterval).Nodup := by
  have distinct : dp.ports.Nodup := .of_map _ dp.nodup
  refine List.nodup_append.mpr ⟨?_, ?_, ?_⟩
  · exact priorities.nodup_iff.mpr (distinct.filter _)
  · exact (others.nodup_iff.mpr (distinct.filter _)).sublist (sliceTo_sublist _ _)
  · rintro port first _ later rfl
    have stack := (mem_priorityPorts.mp (priorities.mem_iff.mp first)).2.1
    have ordinary := mem_nonpriorityPorts.mp
      (others.mem_iff.mp ((sliceTo_sublist _ _).mem later))
    rw [ordinary.2.2.1] at stack
    cases stack

/-- **What is sent is a round that follows.** -/
theorem follows_sendBeacons (inv : Inv dp beacon state)
    (isOver : beacon.sendInterval ≤ now - state.lastLldpAdvertiseSec) :
    Follows dp beacon state.rounds
      ⟨now, (dp.ports.filter (Dp.running state)).map Port.number,
        (priority ++ sliceTo shuffled beacon.maxPerInterval).map Port.number⟩ := by
  have known := sent_subset priorities others
  have running : ∀ port ∈ dp.ports,
      port.number ∈ (dp.ports.filter (Dp.running state)).map Port.number →
        Dp.running state port = true := fun port member listed =>
    (List.mem_filter.mp ((mem_numbers List.filter_sublist.subset member).mp listed)).2
  constructor
  case later =>
    intro earlier member
    cases rounds : state.rounds with
    | nil =>
        rw [rounds] at member
        cases member
    | cons newest older =>
        have last := inv.last newest older rounds
        rw [rounds] at member
        rcases List.mem_cons.mp member with rfl | before
        · dsimp only
          omega
        · have spaced := inv.schedule.spaced
          rw [rounds] at spaced
          have apart := (List.pairwise_cons.mp spaced).1 earlier before
          have positive := beacon.positive
          dsimp only
          omega
  case once =>
    exact (nodup_sent priorities others).map_on fun port member other member' same =>
      eq_of_number (known member) (known member') same
  case stack =>
    intro port member stack isBeacon up
    refine List.mem_map_of_mem (List.mem_append_left _ (priorities.mem_iff.mpr ?_))
    exact mem_priorityPorts.mpr ⟨member, stack, running port member up, isBeacon⟩
  case atMost =>
    intro bound
    refine le_trans ?_ (length_sliceTo shuffled bound)
    have distinct : dp.ports.Nodup := .of_map _ dp.nodup
    refine Int.ofNat_le.mpr (List.Nodup.subperm (distinct.filter _) fun port member => ?_).length_le
    obtain ⟨member, sent⟩ := List.mem_filter.mp member
    rw [Bool.and_eq_true, Bool.not_eq_true', List.contains_iff_mem] at sent
    rcases List.mem_append.mp ((mem_numbers known member).mp sent.2) with first | later
    · have stack := (mem_priorityPorts.mp (priorities.mem_iff.mp first)).2.1
      rw [sent.1] at stack
      cases stack
    · exact later
  case due =>
    rintro number ⟨port, member, rfl, _, ordinary⟩ sent time last
    rcases mem_sent priorities others ((mem_numbers known member).mp sent) with first | later
    · have stack := (mem_priorityPorts.mp first).2.1
      rw [ordinary] at stack
      cases stack
    · refine (mem_nonpriorityPorts.mp later).2.2.2.2 time ?_
      rw [inv.beacons, last]
  case all =>
    intro few port present unsent
    obtain ⟨member, up⟩ := List.mem_filter.mp present
    simp only [Bool.and_eq_true, Bool.not_eq_true', List.contains_iff_mem] at up
    have sublist : (dp.nonpriorityPorts beacon state now).length ≤ (ordinaryRunning dp
        ⟨now, (dp.ports.filter (Dp.running state)).map Port.number,
          (priority ++ sliceTo shuffled beacon.maxPerInterval).map Port.number⟩).length := by
      have distinct : dp.ports.Nodup := .of_map _ dp.nodup
      refine (List.Nodup.subperm (distinct.filter _) fun other listed => ?_).length_le
      obtain ⟨member', isBeacon, ordinary, up', _⟩ := mem_nonpriorityPorts.mp listed
      refine List.mem_filter.mpr ⟨member', ?_⟩
      simp only [isBeacon, ordinary, Bool.not_false, Bool.and_true, Bool.true_and,
        List.contains_iff_mem]
      exact List.mem_map_of_mem (List.mem_filter.mpr ⟨member', up'⟩)
    have whole : sliceTo shuffled beacon.maxPerInterval = shuffled :=
      sliceTo_of_length (by have same := others.length_eq; omega)
    -- all that are due are sent on, so that this one is not due
    have notDue : ¬ ∀ time, state.dynLastLldpBeaconTime port.number = some time →
        time + beacon.sendInterval < now := by
      intro due
      refine unsent (List.mem_map_of_mem (List.mem_append_right _ ?_))
      rw [whole, others.mem_iff]
      exact mem_nonpriorityPorts.mpr
        ⟨member, up.1.1, up.1.2, running port member up.2, due⟩
    simp only [not_forall, not_lt] at notDue
    obtain ⟨time, last, recent⟩ := notDue
    exact ⟨time, by rw [← inv.beacons, last], recent⟩

end Send

theorem inv_initial (dynPhysUp : Nat → Bool) : Inv dp beacon (initial dynPhysUp) where
  schedule :=
    { spaced := .nil
      once := List.forall_mem_nil _
      stack := List.forall_mem_nil _
      atMost := fun _ => List.forall_mem_nil _
      apart := fun _ _ => .nil
      covered := fun newer _ _ _ split => by cases newer <;> cases split }
  enabled := List.forall_mem_nil _
  last _ _ split := by cases split
  beacons _ := rfl

theorem Inv.step (configured : dp.lldpBeacon = some beacon) (inv : Inv dp beacon state)
    {action : Action} (taken : step dp state action = some next) : Inv dp beacon next := by
  cases action with
  | portStatus number up =>
      cases taken
      exact ⟨inv.schedule, inv.enabled, inv.last, inv.beacons⟩
  | fastAdvertise now priority shuffled =>
      unfold Advertising.step Dp.fastAdvertise at taken
      dsimp only at taken
      rw [configured] at taken
      split at taken
      next =>
        cases taken
        exact inv
      next =>
        dsimp only at taken
        split at taken
        next isOver =>
          split at taken
          next perms =>
            cases taken
            have follows := follows_sendBeacons perms.1 perms.2 inv isOver
            refine ⟨inv.schedule.cons follows,
              List.forall_mem_cons.mpr ⟨?_, inv.enabled⟩, ?_, fun number => ?_⟩
            · refine List.map_subset _ fun port up => ?_
              obtain ⟨member, up⟩ := List.mem_filter.mp up
              exact List.mem_filter.mpr ⟨member, (Bool.and_eq_true_iff.mp up).1⟩
            · intro round older split
              exact congrArg Round.time (List.cons.inj split).1
            · dsimp only [Dp.sendBeacons, Dp.advertiseLacp]
              rw [lastSent_cons, inv.beacons]
          next => cases taken
        next =>
          cases taken
          exact ⟨inv.schedule, inv.enabled, inv.last, inv.beacons⟩

theorem inv_of_exec (configured : dp.lldpBeacon = some beacon) {dynPhysUp : Nat → Bool}
    {actions : List Action} (executed : exec (step dp) (initial dynPhysUp) actions = some state) :
    Inv dp beacon state := by
  have reaches : Reaches (step dp) anyStep (initial dynPhysUp) state :=
    .of_exec actions (allowed_anyStep actions _) executed
  exact reaches.invariant (Inv dp beacon) (inv_initial dynPhysUp) fun inv _ taken =>
    inv.step configured taken

/-- **Beacons are sent as scheduled** in every run, whatever the times of the calls, the
ports that are up and the shuffles. -/
theorem beacons_of_run (configured : dp.lldpBeacon = some beacon) (dynPhysUp : Nat → Bool)
    (actions : List Action) (executed : exec (step dp) (initial dynPhysUp) actions = some state) :
    Schedule dp beacon state.rounds :=
  (inv_of_exec configured executed).schedule

/-! ## Ports without beacons -/

/-- The ordinary ports that are enabled. -/
def ordinaryEnabled (dp : Dp) : List Port :=
  dp.ports.filter fun port => port.beacon && !port.stack && port.enabled

/-- An ordinary port that is running in two successive rounds gets a beacon in one of them. -/
def Served (dp : Dp) : Prop :=
  ∀ dynPhysUp actions state, exec (step dp) (initial dynPhysUp) actions = some state →
    ∀ newer later earlier older, state.rounds = newer ++ later :: earlier :: older →
      ∀ port ∈ ordinaryRunning dp later, port ∈ ordinaryRunning dp earlier →
        port.number ∈ later.sent ∨ port.number ∈ earlier.sent

/-- What is at the end is left out when not all may be sent. -/
theorem not_mem_sliceTo {xs : List Port} {x : Port} {stop : ℤ} (absent : x ∉ xs)
    (many : stop < ((xs ++ [x]).length : ℤ)) : x ∉ sliceTo (xs ++ [x]) stop := by
  intro member
  rw [List.length_append, List.length_singleton] at many
  refine absent ?_
  unfold sliceTo at member
  split at member
  next =>
    rw [List.take_append_of_le_length (by omega)] at member
    exact (List.take_sublist _ _).mem member
  next =>
    rw [List.take_append_of_le_length (by rw [List.length_append, List.length_singleton]; omega)]
      at member
    exact (List.take_sublist _ _).mem member

/-- A run in which a port is always running and never sent on. -/
structure Starves (dp : Dp) (port : Port) (rounds : Nat) (state : State) : Prop where
  up : state.dynPhysUp = fun _ => true
  past : ∀ number time, state.dynLastLldpBeaconTime number = some time →
    time ≤ state.lastLldpAdvertiseSec
  length : state.rounds.length = rounds
  unsent : ∀ round ∈ state.rounds, port ∈ ordinaryRunning dp round ∧ port.number ∉ round.sent

section Starve

variable {port : Port}

/-- Time enough for a round in which a beacon is due on every port. -/
def nextTime (dp : Dp) (beacon : LldpBeacon) (state : State) : ℤ :=
  max (state.lastFastAdvertiseSec + dp.fastAdvertiseInterval)
    (state.lastLldpAdvertiseSec + beacon.sendInterval + 1)

theorem mem_nonpriorityPorts_nextTime {rounds : Nat} (starves : Starves dp port rounds state)
    {other : Port} : other ∈ dp.nonpriorityPorts beacon state (nextTime dp beacon state) ↔
      other ∈ ordinaryEnabled dp := by
  rw [mem_nonpriorityPorts, ordinaryEnabled, List.mem_filter, Dp.running, starves.up]
  simp only [Bool.and_true, Bool.and_eq_true, Bool.not_eq_true', and_assoc]
  refine and_congr_right fun _ => and_congr_right fun _ => and_congr_right fun _ =>
    and_iff_left fun time last => ?_
  have before := starves.past _ time last
  have late := le_max_right (state.lastFastAdvertiseSec + dp.fastAdvertiseInterval)
    (state.lastLldpAdvertiseSec + beacon.sendInterval + 1)
  rw [nextTime]
  omega

/-- The next round goes without the port, when the shuffle puts it last. -/
theorem Starves.succ (configured : dp.lldpBeacon = some beacon)
    (fast : dp.fastAdvertiseInterval ≠ 0)
    (many : beacon.maxPerInterval < ((ordinaryEnabled dp).length : ℤ))
    (member : port ∈ ordinaryEnabled dp) {rounds : Nat} (starves : Starves dp port rounds state) :
    ∃ action next, step dp state action = some next ∧ Starves dp port (rounds + 1) next := by
  have distinct : dp.ports.Nodup := .of_map _ dp.nodup
  let eligible := dp.nonpriorityPorts beacon state (nextTime dp beacon state)
  let shuffled := eligible.erase port ++ [port]
  have listed : port ∈ eligible := (mem_nonpriorityPorts_nextTime starves).mpr member
  have others : shuffled.Perm eligible :=
    List.perm_append_comm.trans (List.perm_cons_erase listed).symm
  have more : beacon.maxPerInterval < (shuffled.length : ℤ) := by
    have same : (ordinaryEnabled dp).Perm eligible :=
      (List.perm_ext_iff_of_nodup (distinct.filter _) (distinct.filter _)).mpr
        fun other => (mem_nonpriorityPorts_nextTime starves).symm
    rwa [others.length_eq, ← same.length_eq]
  have unsent : port.number ∉
      ((dp.priorityPorts state) ++ sliceTo shuffled beacon.maxPerInterval).map Port.number := by
    have known := sent_subset (.refl (dp.priorityPorts state)) others
    obtain ⟨isPort, ordinary⟩ := List.mem_filter.mp member
    simp only [Bool.and_eq_true, Bool.not_eq_true'] at ordinary
    rw [mem_numbers known isPort, List.mem_append, not_or]
    refine ⟨fun first => ?_, not_mem_sliceTo (distinct.filter _).not_mem_erase more⟩
    have stack := (mem_priorityPorts.mp first).2.1
    rw [ordinary.1.2] at stack
    cases stack
  have late := le_max_left (state.lastFastAdvertiseSec + dp.fastAdvertiseInterval)
    (state.lastLldpAdvertiseSec + beacon.sendInterval + 1)
  have late' := le_max_right (state.lastFastAdvertiseSec + dp.fastAdvertiseInterval)
    (state.lastLldpAdvertiseSec + beacon.sendInterval + 1)
  rw [← nextTime] at late late'
  refine ⟨.fastAdvertise (nextTime dp beacon state) (dp.priorityPorts state) shuffled,
    dp.sendBeacons (dp.advertiseLacp state (nextTime dp beacon state)) (nextTime dp beacon state)
      (dp.priorityPorts state ++ sliceTo shuffled beacon.maxPerInterval), ?_, ?_⟩
  · unfold Advertising.step Dp.fastAdvertise
    dsimp only
    rw [configured, if_neg (by omega)]
    dsimp only
    rw [if_pos (by omega), if_pos ⟨.refl _, others⟩]
  · refine ⟨starves.up, fun number time last => ?_, ?_, List.forall_mem_cons.mpr ⟨?_, starves.unsent⟩⟩
    · dsimp only [Dp.sendBeacons] at last ⊢
      split at last
      · cases last
        exact le_refl _
      · have before := starves.past number time last
        have positive := beacon.positive
        omega
    · exact congrArg Nat.succ starves.length
    · refine ⟨?_, unsent⟩
      obtain ⟨isPort, ordinary⟩ := List.mem_filter.mp member
      simp only [Bool.and_eq_true, Bool.not_eq_true'] at ordinary
      refine List.mem_filter.mpr ⟨isPort, ?_⟩
      simp only [ordinary, Bool.not_false, Bool.and_true, Bool.true_and, List.contains_iff_mem]
      refine List.mem_map_of_mem (List.mem_filter.mpr ⟨isPort, ?_⟩)
      have up : (dp.advertiseLacp state (nextTime dp beacon state)).dynPhysUp = fun _ => true :=
        starves.up
      rw [Dp.running, up, ordinary.2, Bool.and_true]

end Starve

/-- **Where not all ports may be sent on in a round, a port may never be.** -/
theorem exists_starved (configured : dp.lldpBeacon = some beacon) (fast : dp.fastAdvertiseInterval ≠ 0)
    (many : beacon.maxPerInterval < ((ordinaryEnabled dp).length : ℤ)) {port : Port}
    (member : port ∈ ordinaryEnabled dp) (rounds : Nat) :
    ∃ actions state, exec (step dp) (initial fun _ => true) actions = some state ∧
      Starves dp port rounds state := by
  induction rounds with
  | zero =>
      exact ⟨[], _, rfl, rfl, fun _ _ last => (Option.some_ne_none _ last.symm).elim, rfl,
        List.forall_mem_nil _⟩
  | succ rounds ih =>
      obtain ⟨actions, state, executed, starves⟩ := ih
      obtain ⟨action, next, taken, starves⟩ := starves.succ configured fast many member
      refine ⟨actions ++ [action], next, ?_, starves⟩
      rw [exec_concat, executed]
      exact taken

theorem Inv.ordinaryRunning_subset (inv : Inv dp beacon state) {round : Round}
    (member : round ∈ state.rounds) : ordinaryRunning dp round ⊆ ordinaryEnabled dp := by
  intro port running
  obtain ⟨isPort, ordinary⟩ := List.mem_filter.mp running
  simp only [Bool.and_eq_true, List.contains_iff_mem] at ordinary
  have enabled := (mem_numbers List.filter_sublist.subset isPort).mp
    (inv.enabled round member ordinary.2)
  refine List.mem_filter.mpr ⟨isPort, ?_⟩
  simp only [Bool.and_eq_true]
  exact ⟨ordinary.1, (List.mem_filter.mp enabled).2⟩

/-- Without an interval nothing is advertised. -/
theorem rounds_eq_nil (noInterval : dp.fastAdvertiseInterval = 0) {dynPhysUp : Nat → Bool}
    {actions : List Action} (executed : exec (step dp) (initial dynPhysUp) actions = some state) :
    state.rounds = [] := by
  have reaches : Reaches (step dp) anyStep (initial dynPhysUp) state :=
    .of_exec actions (allowed_anyStep actions _) executed
  refine reaches.invariant (fun state => state.rounds = []) rfl ?_
  intro state next action none _ taken
  cases action with
  | fastAdvertise now priority shuffled =>
      rw [step, Dp.fastAdvertise, if_pos (.inl noInterval)] at taken
      cases taken
      exact none
  | portStatus number up =>
      cases taken
      exact none

/-- No ordinary port goes without a beacon for two rounds where all of those that are enabled
may be sent on in one round. -/
theorem served_of_enough (configured : dp.lldpBeacon = some beacon)
    (enough : dp.fastAdvertiseInterval = 0 ∨ ordinaryEnabled dp = [] ∨
      ((ordinaryEnabled dp).length : ℤ) ≤ beacon.maxPerInterval) : Served dp := by
  intro dynPhysUp actions state executed newer later earlier older split port running before
  have inv := inv_of_exec configured executed
  have subset : ordinaryRunning dp later ⊆ ordinaryEnabled dp :=
    inv.ordinaryRunning_subset (by rw [split]; simp)
  rcases enough with noInterval | none | enough
  · rw [rounds_eq_nil noInterval executed] at split
    exact absurd split (by simp)
  · exact absurd (subset running) (by rw [none]; exact List.not_mem_nil)
  · have distinct : dp.ports.Nodup := .of_map _ dp.nodup
    have fewer : (ordinaryRunning dp later).length ≤ (ordinaryEnabled dp).length :=
      (List.Nodup.subperm (distinct.filter _) subset).length_le
    have few : ((ordinaryRunning dp later).length : ℤ) ≤ beacon.maxPerInterval := by omega
    exact (inv.schedule.covered newer later earlier older split few port running before).1

/-- A port that may starve for two rounds is not served. -/
theorem not_served_of_starves {port : Port} {actions : List Action}
    (executed : exec (step dp) (initial fun _ => true) actions = some state)
    (starves : Starves dp port 2 state) : ¬ Served dp := by
  intro served
  obtain ⟨later, earlier, two⟩ := List.length_eq_two.mp starves.length
  have unsent := starves.unsent
  rw [two] at unsent
  obtain ⟨running, unsentLater⟩ := unsent later List.mem_cons_self
  obtain ⟨before, unsentEarlier⟩ := unsent earlier (List.mem_cons_of_mem _ List.mem_cons_self)
  rcases served _ actions state executed [] later earlier [] two port running before with
    sent | sent
  · exact unsentLater sent
  · exact unsentEarlier sent

/-- **No ordinary port goes without a beacon for two rounds** exactly when nothing is
advertised, or all ports that are enabled may be sent on in one round; else any of them may
be left out of all rounds, however many. -/
theorem served_iff (configured : dp.lldpBeacon = some beacon) :
    (Served dp ↔ dp.fastAdvertiseInterval = 0 ∨ ordinaryEnabled dp = [] ∨
      ((ordinaryEnabled dp).length : ℤ) ≤ beacon.maxPerInterval) ∧
    (¬ Served dp → ∀ port ∈ ordinaryEnabled dp, ∀ rounds, ∃ actions state,
      exec (step dp) (initial fun _ => true) actions = some state ∧
        Starves dp port rounds state) := by
  have starved : ¬ (dp.fastAdvertiseInterval = 0 ∨ ordinaryEnabled dp = [] ∨
      ((ordinaryEnabled dp).length : ℤ) ≤ beacon.maxPerInterval) →
      ∀ port ∈ ordinaryEnabled dp, ∀ rounds, ∃ actions state,
        exec (step dp) (initial fun _ => true) actions = some state ∧
          Starves dp port rounds state := by
    intro starves port member rounds
    rw [not_or, not_or, not_le] at starves
    exact exists_starved configured starves.1 starves.2.2 member rounds
  refine ⟨⟨fun served => ?_, served_of_enough configured⟩, fun unserved =>
    starved (mt (served_of_enough configured) unserved)⟩
  by_contra starves
  have some_ : ordinaryEnabled dp ≠ [] := fun none => starves (.inr (.inl none))
  obtain ⟨port, member⟩ := List.exists_mem_of_ne_nil _ some_
  obtain ⟨actions, state, executed, two⟩ := starved starves port member 2
  exact not_served_of_starves executed two served

/-! ## Three ports -/

/-- A stack port and two others, of which one may be sent on in a round. -/
def threePorts : Dp where
  ports := [⟨1, true, true, true, false⟩, ⟨2, true, false, true, false⟩, ⟨3, true, false, true, true⟩]
  nodup := by decide
  lldpBeacon := some ⟨5, 1, by decide⟩
  fastAdvertiseInterval := 5

/-- Two rounds, an interval apart. -/
def twoRounds : List Action :=
  [.fastAdvertise 10 [⟨1, true, true, true, false⟩]
      [⟨2, true, false, true, false⟩, ⟨3, true, false, true, true⟩],
    .fastAdvertise 15 [⟨1, true, true, true, false⟩] [⟨3, true, false, true, true⟩]]

theorem beacons_of_run_twoRounds : ∃ state,
    exec (step threePorts) (initial fun _ => true) twoRounds = some state ∧
      state.rounds.map Round.sent = [[1, 3], [1, 2]] ∧
      Schedule threePorts ⟨5, 1, by decide⟩ state.rounds :=
  ⟨_, rfl, rfl, beacons_of_run rfl (fun _ => true) twoRounds rfl⟩

/-- The second port may be left out four times in a row. -/
theorem served_iff_threePorts : ¬ Served threePorts ∧ ∃ actions state,
    exec (step threePorts) (initial fun _ => true) actions = some state ∧
      Starves threePorts ⟨2, true, false, true, false⟩ 4 state := by
  obtain ⟨iff, starved⟩ := @served_iff threePorts ⟨5, 1, by decide⟩ rfl
  have unserved : ¬ Served threePorts := by
    rw [iff]
    decide
  exact ⟨unserved, starved unserved _ (by decide) 4⟩

end Runs

end Faucet.Lldp.Advertising
