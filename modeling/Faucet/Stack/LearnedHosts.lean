import Faucet.Library.Descent
import Faucet.Library.TransitionSystem
import Faucet.Stack.FloodRules
import Faucet.Stack.TunnelPath

/-!
# Hosts that a stack has learned

Every datapath of a stack learns the hosts of a VLAN by itself, from the copies of their
packets that reach it. A packet on a stack port is learned only when another datapath has
learned its host on a port of its own, and then on the port that leads there
(`edgeLearnPort`). A peer that the controller does not run is taken to have learned the host
itself. The packets of all datapaths come to the controller in any order, and entries and
rules vanish at any time.

While a host stays where it is, what is learned of it leads to it (`leads_of_reaches`), so
that a packet which follows the rules comes to the host, or to a datapath that has no rule
and floods it (`way_to_host`).
-/

set_option autoImplicit false

namespace Faucet.Stack

/-- A port that is not a stack port. -/
structure EdgePort where
  number : ℕ
  loopProtectExternal : Bool
deriving DecidableEq

/-- The port of a packet, or one that a host is learned on. -/
inductive LearnPort (Dp : Type) where
  | stack (port : StackPort Dp)
  | edge (port : EdgePort)
deriving DecidableEq

/-- What the checks of `learn_host_on_vlan_ports` leave to be done for a port that a host is
learned on: nothing, the cache alone (a refresh, or a ban), or also the rule. -/
inductive Learning where
  | nothing
  | cacheOnly
  | cacheAndRule
deriving DecidableEq, Repr

/-- The hosts in the caches of a VLAN, and the rules that output to them. -/
structure LearnState (Dp Host : Type) where
  cache : Dp → Host → Option (LearnPort Dp)
  ethDst : Dp → Host → Option (LearnPort Dp)

/-- What is known of the datapaths when a packet comes. The others are those that run, in
the order in which their set is gone through. -/
structure Known (Dp : Type) where
  others : List Dp
  nonStackForwarding : Dp → EdgePort → Bool
  dynRunning : Dp → Bool
  isEdge : Dp → Bool
  isRoot : Dp → Bool

/-- What happens. -/
inductive LearnAction (Dp Host : Type) where
  | packetIn (self : Dp) (port : LearnPort Dp) (host : Host) (known : Known Dp)
      (learning : Learning)
  | expireHost (self : Dp) (host : Host)
  | removeRule (self : Dp) (host : Host)

/-- Where a host is. -/
structure Place (Dp : Type) where
  dp : Dp
  port : EdgePort

section Tables

variable {Dp Host : Type} [DecidableEq Dp] [DecidableEq Host]

/-- The table with another entry. -/
def setEntry (table : Dp → Host → Option (LearnPort Dp)) (self : Dp) (host : Host)
    (entry : Option (LearnPort Dp)) : Dp → Host → Option (LearnPort Dp) :=
  Function.update table self (Function.update (table self) host entry)

/-- The host is learned on the port, as far as the checks let it be. -/
def LearnState.learn (state : LearnState Dp Host) (self : Dp) (host : Host)
    (learnPort : LearnPort Dp) : Learning → LearnState Dp Host
  | .nothing => state
  | .cacheOnly => { state with cache := setEntry state.cache self host (some learnPort) }
  | .cacheAndRule =>
      { cache := setEntry state.cache self host (some learnPort)
        ethDst := setEntry state.ethDst self host (some learnPort) }

variable {table : Dp → Host → Option (LearnPort Dp)} {self dp : Dp} {host host' : Host}
  {entry : Option (LearnPort Dp)} {port : LearnPort Dp}

/-- An entry of a table is the one that has been set, or it was there. -/
theorem setEntry_eq_some (found : setEntry table self host entry dp host' = some port) :
    (dp = self ∧ host' = host ∧ entry = some port) ∨ table dp host' = some port := by
  rw [setEntry] at found
  by_cases sameDp : dp = self
  · subst sameDp
    rw [Function.update_self] at found
    by_cases sameHost : host' = host
    · subst sameHost
      rw [Function.update_self] at found
      exact .inl ⟨rfl, rfl, found⟩
    · rw [Function.update_of_ne sameHost] at found
      exact .inr found
  · rw [Function.update_of_ne sameDp] at found
    exact .inr found

theorem setEntry_none_eq_some (found : setEntry table self host none dp host' = some port) :
    table dp host' = some port := by
  rcases setEntry_eq_some found with ⟨_, _, gone⟩ | found
  · cases gone
  · exact found

end Tables

/-! ## Learning -/

section Learn

variable {Dp Host : Type} (mode : FloodMode) (known : Known Dp)

/-- The entry is on a port that is no stack port, and external or not. -/
def learnedAt (cached : Dp → Option (LearnPort Dp)) (external : Bool) (dp : Dp) : Bool :=
  match cached dp with
  | some (.edge port) =>
      known.nonStackForwarding dp port && port.loopProtectExternal == external
  | _ => false

/-- `_non_stack_learned`, by the entries of the host. -/
def nonStackLearned (cached : Dp → Option (LearnPort Dp)) (self : Dp) : Option Dp :=
  match known.others.filter (learnedAt known cached false) with
  | localDp :: _ => some localDp
  | [] =>
      match known.others.filter (learnedAt known cached true) with
      | externalDp :: _ => if (cached self).isNone then some externalDp else none
      | [] => none

/-- The peer is taken to have learned the hosts whose packets come from it. -/
def fallsBack (peerDp : Dp) : Bool :=
  !known.dynRunning peerDp &&
    (mode == .noReflection || known.isEdge peerDp || known.isRoot peerDp)

/-- `_edge_dp_for_host` of the two managers. -/
def edgeDpForHost (cached : Dp → Option (LearnPort Dp)) (self peerDp : Dp) : Option Dp :=
  if known.dynRunning peerDp then nonStackLearned known cached self
  else if fallsBack mode known peerDp then some peerDp
  else none

namespace Topology

variable [LinearOrder Dp] {topology : Topology Dp} (order : topology.SetOrder)
  (edgeLearnStackRoot : Bool)

/-- `edge_learn_port_towards` -/
def edgeLearnPortTowards (self edgeDp : Dp) : Option (StackPort Dp) :=
  if edgeLearnStackRoot then order.relativePortTowards self edgeDp
  else topology.defaultPortTowards self edgeDp

/-- `edge_learn_port` -/
def edgeLearnPort (cached : Dp → Option (LearnPort Dp)) (self : Dp) :
    LearnPort Dp → Option (LearnPort Dp)
  | .stack link =>
      (edgeDpForHost mode known cached self link.peerDp).bind fun edgeDp =>
        (edgeLearnPortTowards order edgeLearnStackRoot self edgeDp).map .stack
  | .edge port =>
      if port.loopProtectExternal then
        match nonStackLearned known cached self with
        | some edgeDp => (edgeLearnPortTowards order edgeLearnStackRoot self edgeDp).map .stack
        | none => some (.edge port)
      else some (.edge port)

variable [DecidableEq Host]

omit known in
/-- `learn_host`, and what makes entries and rules vanish. -/
def learnStep (state : LearnState Dp Host) : LearnAction Dp Host → Option (LearnState Dp Host)
  | .packetIn self port host known learning =>
      match edgeLearnPort mode known order edgeLearnStackRoot
          (fun dp => state.cache dp host) self port with
      | none => some state
      | some learnPort => some (state.learn self host learnPort learning)
  | .expireHost self host => some { state with cache := setEntry state.cache self host none }
  | .removeRule self host => some { state with ethDst := setEntry state.ethDst self host none }

end Topology

end Learn

/-! ## What is learned of a host -/

namespace Topology

section Places

variable {Dp Host : Type} [LinearOrder Dp] {topology : Topology Dp}
  (order : topology.SetOrder) (mode : FloodMode) (edgeLearnStackRoot : Bool)
  (place : Host → Place Dp)

/-- The packet comes in where it can: at its host, or by a stack port. From a peer that is
taken to have learned the host come packets of the peer's own hosts alone. -/
def ComesIn (topology : Topology Dp) (self : Dp) (host : Host) (known : Known Dp) :
    LearnPort Dp → Prop
  | .edge edge => self = (place host).dp ∧ edge = (place host).port
  | .stack link => link ∈ topology.stackPorts self ∧
      (fallsBack mode known link.peerDp = true → link.peerDp = (place host).dp)

/-- Hosts stay where they are. -/
def Stays (topology : Topology Dp) (_ : LearnState Dp Host) : LearnAction Dp Host → Prop
  | .packetIn self port host known _ =>
      self ∉ known.others ∧ ComesIn mode place topology self host known port
  | _ => True

/-- The port is the host's own, or the one towards its datapath. -/
def Leads (self : Dp) (host : Host) (port : LearnPort Dp) : Prop :=
  (self = (place host).dp ∧ port = .edge (place host).port) ∨
    self ≠ (place host).dp ∧ ∃ link,
      edgeLearnPortTowards order edgeLearnStackRoot self (place host).dp = some link ∧
        port = .stack link

/-- No datapath but its own has a host on a port that is no stack port. -/
def Homed (state : LearnState Dp Host) : Prop :=
  ∀ dp host edge, state.cache dp host = some (.edge edge) →
    dp = (place host).dp ∧ edge = (place host).port

/-- The next datapath of a packet to the host, by a rule that has been made since. -/
def newHop (start state : LearnState Dp Host) (host : Host) (dp : Dp) : Option Dp :=
  if state.ethDst dp host = start.ethDst dp host then none
  else match state.ethDst dp host with
    | some (.stack link) => some link.peerDp
    | _ => none

end Places

/-! ## One packet -/

section Packet

variable {Dp Host : Type} [LinearOrder Dp] {topology : Topology Dp}
  {order : topology.SetOrder} {mode : FloodMode} {edgeLearnStackRoot : Bool}
  {place : Host → Place Dp} {state : LearnState Dp Host} {known : Known Dp} {self edgeDp : Dp}
  {host : Host} {port learnPort : LearnPort Dp}

omit [LinearOrder Dp] in
/-- The datapath that is said to have learned a host is that of the host. -/
theorem nonStackLearned_spec (homed : Homed place state)
    (learned : nonStackLearned known (fun dp => state.cache dp host) self = some edgeDp) :
    edgeDp = (place host).dp ∧ edgeDp ∈ known.others := by
  have at_ : ∀ external, edgeDp ∈ known.others.filter
      (learnedAt known (fun dp => state.cache dp host) external) →
      edgeDp = (place host).dp ∧ edgeDp ∈ known.others := by
    intro external member
    obtain ⟨listed, isLearned⟩ := List.mem_filter.mp member
    rw [learnedAt] at isLearned
    split at isLearned
    next edge found => exact ⟨(homed edgeDp host edge found).1, listed⟩
    next => cases isLearned
  rw [nonStackLearned] at learned
  split at learned
  next found =>
    cases learned
    exact at_ false (by rw [found]; exact List.mem_cons_self)
  next =>
    split at learned
    next found =>
      split at learned
      next =>
        cases learned
        exact at_ true (by rw [found]; exact List.mem_cons_self)
      next => cases learned
    next => cases learned

/-- The datapath that a packet on a stack port is taken to come from is that of the host. -/
theorem edgeDpForHost_spec {link : StackPort Dp} (homed : Homed place state)
    (notOther : self ∉ known.others)
    (comesIn : ComesIn mode place topology self host known (.stack link))
    (found : edgeDpForHost mode known (fun dp => state.cache dp host) self link.peerDp =
      some edgeDp) : edgeDp = (place host).dp ∧ self ≠ edgeDp := by
  obtain ⟨isLink, peerOnly⟩ := comesIn
  rw [edgeDpForHost] at found
  split at found
  next =>
    obtain ⟨isDp, listed⟩ := nonStackLearned_spec homed found
    exact ⟨isDp, fun same => notOther (same ▸ listed)⟩
  next =>
    split at found
    next isBack =>
      cases found
      exact ⟨peerOnly isBack, (topology.noLoop self link isLink).symm⟩
    next => cases found

/-- **What is learned of a packet** leads to its host. -/
theorem leads_of_edgeLearnPort (homed : Homed place state) (notOther : self ∉ known.others)
    (comesIn : ComesIn mode place topology self host known port)
    (learned : edgeLearnPort mode known order edgeLearnStackRoot
      (fun dp => state.cache dp host) self port = some learnPort) :
    Leads order edgeLearnStackRoot place self host learnPort := by
  cases port with
  | stack link =>
      obtain ⟨edgeDp, found, learned⟩ := Option.bind_eq_some_iff.mp learned
      obtain ⟨towards, chosen, rfl⟩ := Option.map_eq_some_iff.mp learned
      obtain ⟨rfl, different⟩ := edgeDpForHost_spec homed notOther comesIn found
      exact .inr ⟨different, towards, chosen, rfl⟩
  | edge edge =>
      obtain ⟨rfl, rfl⟩ := comesIn
      rw [edgeLearnPort] at learned
      split at learned
      next =>
        split at learned
        next edgeDp found =>
          -- another datapath has the host, which is here
          obtain ⟨rfl, listed⟩ := nonStackLearned_spec homed found
          exact absurd listed notOther
        next =>
          cases learned
          exact .inl ⟨rfl, rfl⟩
      next =>
        cases learned
        exact .inl ⟨rfl, rfl⟩

end Packet

/-! ## Runs -/

section Runs

variable {Dp Host : Type} [LinearOrder Dp] [DecidableEq Host] {topology : Topology Dp}
  {order : topology.SetOrder} {mode : FloodMode} {edgeLearnStackRoot : Bool}
  {place : Host → Place Dp} {start state next : LearnState Dp Host}
  {action : LearnAction Dp Host}

variable (order edgeLearnStackRoot place start) in
/-- What is there has been there at the start, or it leads to its host. -/
structure LearnedSince (state : LearnState Dp Host) : Prop where
  homed : Homed place state
  cache : ∀ dp host port, state.cache dp host = some port →
    start.cache dp host = some port ∨ Leads order edgeLearnStackRoot place dp host port
  ethDst : ∀ dp host port, state.ethDst dp host = some port →
    start.ethDst dp host = some port ∨ Leads order edgeLearnStackRoot place dp host port

omit [DecidableEq Host] in
theorem homed_of_leads {dp : Dp} {host : Host} {edge : EdgePort}
    (leads : Leads order edgeLearnStackRoot place dp host (.edge edge)) :
    dp = (place host).dp ∧ edge = (place host).port := by
  rcases leads with ⟨isDp, isPort⟩ | ⟨_, _, _, isPort⟩
  · exact ⟨isDp, LearnPort.edge.inj isPort⟩
  · cases isPort

theorem LearnedSince.learn {self : Dp} {host : Host} {learnPort : LearnPort Dp}
    (since : LearnedSince order edgeLearnStackRoot place start state) (learning : Learning)
    (leads : Leads order edgeLearnStackRoot place self host learnPort) :
    LearnedSince order edgeLearnStackRoot place start (state.learn self host learnPort learning) := by
  have homed : ∀ dp host' edge,
      setEntry state.cache self host (some learnPort) dp host' = some (.edge edge) →
        dp = (place host').dp ∧ edge = (place host').port := by
    intro dp host' edge found
    rcases setEntry_eq_some found with ⟨rfl, rfl, same⟩ | found
    · cases same
      exact homed_of_leads leads
    · exact since.homed dp host' edge found
  have learned : ∀ {table before : Dp → Host → Option (LearnPort Dp)},
      (∀ dp host port, table dp host = some port → before dp host = some port ∨
        Leads order edgeLearnStackRoot place dp host port) →
      ∀ dp host' port, setEntry table self host (some learnPort) dp host' = some port →
        before dp host' = some port ∨ Leads order edgeLearnStackRoot place dp host' port := by
    intro table before earlier dp host' port found
    rcases setEntry_eq_some found with ⟨rfl, rfl, same⟩ | found
    · cases same
      exact .inr leads
    · exact earlier dp host' port found
  cases learning with
  | nothing => exact since
  | cacheOnly => exact ⟨homed, learned since.cache, since.ethDst⟩
  | cacheAndRule => exact ⟨homed, learned since.cache, learned since.ethDst⟩

/-- **One step** learns nothing that does not lead to its host. -/
theorem LearnedSince.step (since : LearnedSince order edgeLearnStackRoot place start state)
    (stays : Stays mode place topology state action)
    (taken : learnStep mode order edgeLearnStackRoot state action = some next) :
    LearnedSince order edgeLearnStackRoot place start next := by
  cases action with
  | packetIn self port host known learning =>
      rw [learnStep] at taken
      split at taken
      next =>
        cases taken
        exact since
      next learnPort isPort =>
        cases taken
        exact since.learn learning (leads_of_edgeLearnPort since.homed stays.1 stays.2 isPort)
  | expireHost self host =>
      cases taken
      exact ⟨fun dp host' edge found => since.homed dp host' edge (setEntry_none_eq_some found),
        fun dp host' port found => since.cache dp host' port (setEntry_none_eq_some found),
        since.ethDst⟩
  | removeRule self host =>
      cases taken
      exact ⟨since.homed, since.cache,
        fun dp host' port found => since.ethDst dp host' port (setEntry_none_eq_some found)⟩

theorem learnedSince_of_reaches (homed : Homed place start)
    (reached : TransitionSystem.Reaches (learnStep mode order edgeLearnStackRoot)
      (Stays mode place topology) start state) : LearnedSince order edgeLearnStackRoot place start state :=
  reached.invariant _ ⟨homed, fun _ _ _ => .inl, fun _ _ _ => .inl⟩
    fun since stays taken => since.step stays taken

end Runs

/-! ## The way to a host -/

section Way

variable {Dp Host : Type} [LinearOrder Dp] [DecidableEq Host] {topology : Topology Dp}
  {order : topology.SetOrder} {mode : FloodMode} {edgeLearnStackRoot : Bool}
  {place : Host → Place Dp} {start state : LearnState Dp Host}

/-- A number that goes down along the ports towards a datapath. -/
def nearness (topology : Topology Dp) (edgeLearnStackRoot : Bool) (dst dp : Dp) : ℕ :=
  if edgeLearnStackRoot then topology.hopsLeft dst dp else (topology.pathsTo dst).rank dp

theorem nearness_lt {self dst : Dp} {link : StackPort Dp} (different : self ≠ dst)
    (towards : edgeLearnPortTowards order edgeLearnStackRoot self dst = some link) :
    topology.nearness edgeLearnStackRoot dst link.peerDp <
      topology.nearness edgeLearnStackRoot dst self := by
  cases edgeLearnStackRoot with
  | true =>
      obtain ⟨port, _, chosen, nearer⟩ := SetOrder.exists_relativePortTowards order different
      cases towards.symm.trans chosen
      exact nearer
  | false =>
      obtain ⟨port, _, chosen, toParent⟩ :
          ∃ port ∈ topology.stackPorts self, topology.defaultPortTowards self dst = some port ∧
            port.peerDp = (topology.pathsTo dst).parent self :=
        exists_defaultPortTowards different
      cases towards.symm.trans chosen
      have less := (topology.pathsTo dst).tree.rank_parent self different
      change (topology.pathsTo dst).rank link.peerDp < (topology.pathsTo dst).rank self
      rw [toParent]
      exact Nat.lt_of_lt_of_eq (Nat.lt_succ_self _) less.symm

omit [DecidableEq Host] in
/-- A rule that has been made since leads nearer to the host, or is its own. -/
theorem newHop_spec {host : Host} {dp : Dp}
    (since : LearnedSince order edgeLearnStackRoot place start state) :
    (∀ dp', newHop start state host dp = some dp' →
      topology.nearness edgeLearnStackRoot (place host).dp dp' <
        topology.nearness edgeLearnStackRoot (place host).dp dp) ∧
    (newHop start state host dp = none → state.ethDst dp host = none ∨
      state.ethDst dp host = start.ethDst dp host ∨
        dp = (place host).dp ∧ state.ethDst dp host = some (.edge (place host).port)) := by
  rw [newHop]
  split
  next unchanged => exact ⟨nofun, fun _ => .inr (.inl unchanged)⟩
  next changed =>
    cases rule : state.ethDst dp host with
    | none => exact ⟨nofun, fun _ => .inl rfl⟩
    | some port =>
        rcases since.ethDst dp host port rule with before | leads
        · exact absurd (rule.trans before.symm) changed
        · rcases leads with ⟨isDp, rfl⟩ | ⟨different, link, towards, rfl⟩
          · exact ⟨nofun, fun _ => .inr (.inr ⟨isDp, rfl⟩)⟩
          · refine ⟨fun dp' hop => ?_, nofun⟩
            cases hop
            exact nearness_lt different towards

/-- **The way to a host.** While hosts stay where they are, a rule that is learned of a host
leads to it. A packet that follows such rules is at no datapath twice, and it comes to the port
of the host, to a datapath without a rule, or to one whose rule is as it was at the start. -/
theorem way_to_host (host : Host) (dp : Dp) (homed : Homed place start)
    (reached : TransitionSystem.Reaches (learnStep mode order edgeLearnStackRoot)
      (Stays mode place topology) start state) :
    (∃ hops last, Descent.walk (newHop start state host) hops dp = some last ∧
      (state.ethDst last host = none ∨ state.ethDst last host = start.ethDst last host ∨
        last = (place host).dp ∧ state.ethDst last host = some (.edge (place host).port))) ∧
    ∀ hops hops' last, Descent.walk (newHop start state host) hops dp = some last →
      Descent.walk (newHop start state host) hops' dp = some last → hops = hops' := by
  have since := learnedSince_of_reaches homed reached
  have down : ∀ node other, newHop start state host node = some other →
      topology.nearness edgeLearnStackRoot (place host).dp other <
        topology.nearness edgeLearnStackRoot (place host).dp node := fun _ =>
    (newHop_spec since).1
  obtain ⟨hops, _, last, walked, ends⟩ := Descent.exists_end down dp
  exact ⟨⟨hops, last, walked, (newHop_spec since).2 ends⟩,
    fun _ _ _ => Descent.steps_unique down⟩

end Way

/-! ### A star -/

/-- Nothing is learned. -/
def nothingLearned : LearnState (Fin 3) Unit := ⟨fun _ _ => none, fun _ _ => none⟩

/-- The ports away from the root in their own order. -/
def starOrder : star.SetOrder := ⟨fun dp => (star.resetPeerDistances dp).awayPorts, fun _ => .refl _⟩

/-- The controller runs all datapaths. -/
def allRun : Known (Fin 3) :=
  ⟨[0, 2], fun _ _ => true, fun _ => true, fun dp => dp != 0, fun dp => dp == 0⟩

/-- A host at port 5 of a datapath that is not the root. -/
def starPlace : Unit → Place (Fin 3) := fun _ => ⟨1, ⟨5, false⟩⟩

/-- The host is learned where it is. -/
def starLearned : LearnState (Fin 3) Unit :=
  nothingLearned.learn 1 () (.edge ⟨5, false⟩) .cacheAndRule

theorem way_to_host_star :
    (∃ hops last, Descent.walk (newHop nothingLearned starLearned ()) hops 2 = some last ∧
      (starLearned.ethDst last () = none ∨
        starLearned.ethDst last () = nothingLearned.ethDst last () ∨
          last = 1 ∧ starLearned.ethDst last () = some (.edge ⟨5, false⟩))) ∧
    ∀ hops hops' last, Descent.walk (newHop nothingLearned starLearned ()) hops 2 = some last →
      Descent.walk (newHop nothingLearned starLearned ()) hops' 2 = some last → hops = hops' := by
  have homed : Homed starPlace nothingLearned := fun _ _ _ found => nomatch found
  have reached : TransitionSystem.Reaches (learnStep .reflection starOrder true)
      (Stays .reflection starPlace star) nothingLearned starLearned := by
    have stays : Stays .reflection starPlace star nothingLearned
        (.packetIn 1 (.edge ⟨5, false⟩) () allRun .cacheAndRule) := ⟨by decide, rfl, rfl⟩
    exact .single stays rfl
  exact way_to_host () 2 homed reached

end Topology

end Faucet.Stack
