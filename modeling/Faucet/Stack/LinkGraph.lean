import Faucet.Library.TransitionSystem
import Faucet.Lldp.LinkState

/-!
# The stack graphs and the states of the stack ports

Every datapath of a stack has a graph of its own of the links that are up. A stack port
whose state changes updates the graph of its own datapath and those of the datapaths that
are running (`update_stack_link_state`), by its own state and, where it is in INIT, that of
the other end.

So the end that changed last decides: a port that comes up adds its link although the other
end is gone (`not_settled_of_gone`), and a datapath that is not running keeps what it had.
Where neither happens the graphs are the same function of the states (`graph_eq_of_states`),
and a step keeps them so only then (`settled_iff_noticed`).
-/

set_option autoImplicit false

namespace Faucet.Stack

open TransitionSystem
open Lldp (StackPeer PortConf PortState ProbeInfo Remote stackPortUpdate)

/-! ## Links -/

/-- The stack ports of all datapaths, in the order of their datapaths' and their own names;
a link is configured at both ends. -/
structure Cabling (Dp E : Type) [LinearOrder E] where
  dp : E → Dp
  peer : E → E
  peer_peer : ∀ port, peer (peer port) = port
  peer_ne : ∀ port, peer port ≠ port
  stackPeer : E → StackPeer
  maxLldpLost : E → Int
  ports : List E
  mem_ports : ∀ port, port ∈ ports

/-- `canonical_edge` -/
def canonicalEdge {E : Type} [LinearOrder E] (port peerPort : E) : E × E :=
  if port ≤ peerPort then (port, peerPort) else (peerPort, port)

namespace Cabling

variable {Dp E : Type} [LinearOrder E] (cabling : Cabling Dp E)

/-- The options of a stack port. -/
def conf (port : E) : PortConf := ⟨some (cabling.stackPeer port), cabling.maxLldpLost port⟩

/-- The edge of a stack port, the same from both ends. -/
def edge (port : E) : E × E := canonicalEdge port (cabling.peer port)

/-- `modify_topology` -/
def modifyTopology (graph : Finset (E × E)) (port : E) (add : Bool) : Finset (E × E) :=
  if add then insert (cabling.edge port) graph else graph.erase (cabling.edge port)

/-- The graph of `resolve_topology`, with all links. -/
def resolveTopology : Finset (E × E) :=
  cabling.ports.foldl (fun graph port => cabling.modifyTopology graph port true) ∅

end Cabling

/-! ## Events -/

/-- The stack ports, the datapaths that run, and their stack graphs. -/
structure Links (Dp E : Type) where
  port : E → PortState
  dynRunning : Dp → Bool
  /-- the stack graph of each datapath -/
  graph : Dp → Finset (E × E)

/-- What happens to the links of a stack. -/
inductive LinkEvent (Dp E : Type) where
  /-- the update of one port, by `fast_state_expire` -/
  | update (port : E) (now : ℚ)
  /-- an LLDP packet, by `verify_lldp` -/
  | probe (port : E) (now : ℚ) (remote : Remote)
  | connect (dp : Dp)
  | disconnect (dp : Dp)

namespace Links

variable {Dp E : Type} [LinearOrder E]

/-- No link is up yet. -/
def initial (cabling : Cabling Dp E) : Links Dp E where
  port := fun _ => .start
  dynRunning := fun _ => false
  graph := fun _ => cabling.resolveTopology

/-- The state of a stack port. -/
def state (links : Links Dp E) (port : E) : Lldp.StackState := (links.port port).stackState

/-- The state of a port is set. -/
def setPort (links : Links Dp E) (port : E) (after : PortState) : Links Dp E :=
  { links with port := Function.update links.port port after }

variable (cabling : Cabling Dp E)

/-- The `port_up` of `update_stack_link_state`. -/
def portUp (links : Links Dp E) (port : E) : Bool :=
  links.state port = .up || links.state port = .init && links.state (cabling.peer port) = .up

/-- What `verify_lldp` notes of a packet. -/
def noteProbe (links : Links Dp E) (port : E) (now : ℚ) (remote : Remote) : Links Dp E :=
  links.setPort port { links.port port with
    probeInfo := some ⟨now, remote.isPeer (cabling.stackPeer port), remote⟩ }

variable [DecidableEq Dp]

/-- `update_stack_topo` on the port's own valve and the others that are running. -/
def updateStackTopo (links : Links Dp E) (portUp : Bool) (port : E) : Links Dp E :=
  { links with
    graph := fun dp =>
      if dp = cabling.dp port ∨ links.dynRunning dp = true then
        cabling.modifyTopology (links.graph dp) port portUp
      else links.graph dp }

/-- `update_stack_link_state` on one port; it expects a reason of `stack_port_update`. -/
def updateStackLinkState (links : Links Dp E) (port : E) (now : ℚ) : Option (Links Dp E) :=
  match stackPortUpdate (cabling.conf port) now (links.port port) with
  | .ok (after, some _) =>
      let next := links.setPort port after
      if links.state port = after.stackState then some next
      else some (next.updateStackTopo cabling (next.portUp cabling port) port)
  | _ => none

/-- `dyn_running` of a datapath is set. -/
def setRunning (links : Links Dp E) (dp : Dp) (running : Bool) : Links Dp E :=
  { links with dynRunning := Function.update links.dynRunning dp running }

/-- An event; `none` when a handler raises. -/
def step (links : Links Dp E) : LinkEvent Dp E → Option (Links Dp E)
  | .update port now => links.updateStackLinkState cabling port now
  | .probe port now remote =>
      (links.noteProbe cabling port now remote).updateStackLinkState cabling port now
  | .connect dp => some (links.setRunning dp true)
  | .disconnect dp => some (links.setRunning dp false)

end Links

/-! ## What the graphs should be -/

/-- The port is bad, gone or administratively down. -/
def Broken (state : Lldp.StackState) : Prop := state = .bad ∨ state = .gone ∨ state = .adminDown

instance (state : Lldp.StackState) : Decidable (Broken state) :=
  inferInstanceAs (Decidable (_ ∨ _ ∨ _))

/-- A link is up that has an end up and no end broken, or that nothing is known of. -/
def LinkUp (state peerState : Lldp.StackState) : Prop :=
  state = .none ∧ peerState = .none ∨ state = .up ∧ ¬ Broken peerState ∨
    peerState = .up ∧ ¬ Broken state

instance (state peerState : Lldp.StackState) : Decidable (LinkUp state peerState) :=
  inferInstanceAs (Decidable (_ ∨ _ ∨ _))

namespace Links

variable {Dp E : Type} [LinearOrder E]

/-- Every graph has the links that are up by the states of their ends. -/
structure Settled (cabling : Cabling Dp E) (links : Links Dp E) : Prop where
  mem_graph_iff : ∀ dp port, cabling.edge port ∈ links.graph dp ↔
    LinkUp (links.state port) (links.state (cabling.peer port))
  onlyLinks : ∀ dp, ∀ pair ∈ links.graph dp, ∃ port, pair = cabling.edge port

variable [DecidableEq Dp]

/-- A port that changes its state does not come up while the other end is broken, and a
datapath that is not running has nothing to change in its graph. -/
def ChangeNoticed (cabling : Cabling Dp E) (links : Links Dp E) (port : E) (now : ℚ) : Prop :=
  ∀ next, links.updateStackLinkState cabling port now = some next →
    next.state port ≠ links.state port →
    (next.state port = .up → ¬ Broken (links.state (cabling.peer port))) ∧
      ∀ dp, dp ≠ cabling.dp port → links.dynRunning dp = false →
        (cabling.edge port ∈ links.graph dp ↔ next.portUp cabling port = true)

instance [Fintype Dp] (cabling : Cabling Dp E) (links : Links Dp E) (port : E) (now : ℚ) :
    Decidable (links.ChangeNoticed cabling port now) :=
  match taken : links.updateStackLinkState cabling port now with
  | none => .isTrue fun next taken' => by rw [taken] at taken'; cases taken'
  | some next => decidable_of_iff (next.state port ≠ links.state port →
      (next.state port = .up → ¬ Broken (links.state (cabling.peer port))) ∧
        ∀ dp, dp ≠ cabling.dp port → links.dynRunning dp = false →
          (cabling.edge port ∈ links.graph dp ↔ next.portUp cabling port = true)) (by
      constructor
      · intro noticed next' taken'
        cases taken.symm.trans taken'
        exact noticed
      · exact fun noticed => noticed next taken)

/-- What the event changes has been noticed. -/
def Noticed (cabling : Cabling Dp E) (links : Links Dp E) : LinkEvent Dp E → Prop
  | .update port now => links.ChangeNoticed cabling port now
  | .probe port now remote => (links.noteProbe cabling port now remote).ChangeNoticed cabling port now
  | .connect _ | .disconnect _ => True

instance [Fintype Dp] (cabling : Cabling Dp E) (links : Links Dp E) (event : LinkEvent Dp E) :
    Decidable (links.Noticed cabling event) :=
  match event with
  | .update port now => inferInstanceAs (Decidable (links.ChangeNoticed cabling port now))
  | .probe port now remote => inferInstanceAs
      (Decidable ((links.noteProbe cabling port now remote).ChangeNoticed cabling port now))
  | .connect _ | .disconnect _ => inferInstanceAs (Decidable True)

end Links

/-! ## Edges -/

namespace Cabling

variable {Dp E : Type} [LinearOrder E] (cabling : Cabling Dp E) {port port' : E}

theorem canonicalEdge_comm (port peerPort : E) :
    canonicalEdge port peerPort = canonicalEdge peerPort port := by
  unfold canonicalEdge
  rcases lt_trichotomy port peerPort with before | rfl | after
  · rw [if_pos before.le, if_neg (not_le_of_gt before)]
  · rfl
  · rw [if_neg (not_le_of_gt after), if_pos after.le]

@[simp] theorem edge_peer : cabling.edge (cabling.peer port) = cabling.edge port := by
  rw [edge, cabling.peer_peer, canonicalEdge_comm]
  rfl

/-- A link has the edge of its two ends, and no other port has. -/
theorem edge_eq_iff :
    cabling.edge port = cabling.edge port' ↔ port = port' ∨ port = cabling.peer port' := by
  constructor
  · unfold edge canonicalEdge
    intro same
    split at same <;> split at same <;> obtain ⟨first, second⟩ := Prod.mk.inj same
    · exact .inl first
    · exact .inr first
    · exact .inr second
    · exact .inl second
  · rintro (rfl | rfl)
    · rfl
    · exact cabling.edge_peer

theorem mem_modifyTopology {graph : Finset (E × E)} {add : Bool} {pair : E × E} :
    pair ∈ cabling.modifyTopology graph port add ↔
      if pair = cabling.edge port then add = true else pair ∈ graph := by
  unfold modifyTopology
  cases add <;> by_cases same : pair = cabling.edge port <;> simp [same]

theorem mem_resolveTopology {pair : E × E} :
    pair ∈ cabling.resolveTopology ↔ ∃ port, pair = cabling.edge port := by
  have folded : ∀ (ports : List E) (graph : Finset (E × E)),
      pair ∈ ports.foldl (fun graph port => cabling.modifyTopology graph port true) graph ↔
        pair ∈ graph ∨ ∃ port ∈ ports, pair = cabling.edge port := by
    intro ports
    induction ports with
    | nil => simp
    | cons port ports ih =>
        intro graph
        rw [List.foldl_cons, ih, mem_modifyTopology]
        by_cases same : pair = cabling.edge port <;> simp [same]
  simp [resolveTopology, folded, cabling.mem_ports]

end Cabling

/-! ## A step of the state machine -/

/-- A port whose state changes has a state that is neither the first one nor that of a port
that was taken down. -/
theorem stackPortUpdate_state {conf : PortConf} {now : ℚ} {port after : PortState}
    {reason : Option Lldp.Reason} (updated : stackPortUpdate conf now port = .ok (after, reason)) :
    after.stackState = port.stackState ∨ after.stackState ≠ .none ∧ after.stackState ≠ .adminDown := by
  revert updated
  rw [stackPortUpdate]
  split
  · rintro ⟨⟩
    exact .inl rfl
  · split
    · split <;> rintro ⟨⟩
      · exact .inr ⟨nofun, nofun⟩
      · exact .inl rfl
    · split
      · nofun
      · dsimp only
        split
        · rintro ⟨⟩
          exact .inr ⟨nofun, nofun⟩
        · split
          · rintro ⟨⟩
            exact .inr ⟨nofun, nofun⟩
          · split <;> rintro ⟨⟩
            · exact .inr ⟨nofun, nofun⟩
            · exact .inl rfl

theorem linkUp_comm {state peerState : Lldp.StackState} :
    LinkUp state peerState ↔ LinkUp peerState state := by
  unfold LinkUp
  tauto

/-- The end that changed is right about its link, unless it is up and the other is broken. -/
theorem linkUp_iff {state peerState : Lldp.StackState} (known : state ≠ .none) :
    LinkUp state peerState ↔
      (state = .up ∨ state = .init ∧ peerState = .up) ∧ (state = .up → ¬ Broken peerState) := by
  cases state <;> cases peerState <;> simp_all [LinkUp, Broken]

namespace Links

variable {Dp E : Type} [LinearOrder E] {cabling : Cabling Dp E} {links next : Links Dp E}
  {port : E} {now : ℚ}

@[simp] theorem setPort_state_self (after : PortState) :
    (links.setPort port after).state port = after.stackState := by
  simp [setPort, state]

theorem setPort_state_other {other : E} (different : other ≠ port) (after : PortState) :
    (links.setPort port after).state other = links.state other := by
  simp [setPort, state, different]

theorem portUp_iff : links.portUp cabling port = true ↔
    links.state port = .up ∨
      links.state port = .init ∧ links.state (cabling.peer port) = .up := by
  simp [portUp]

theorem Settled.congr (settled : links.Settled cabling) (graph : next.graph = links.graph)
    (states : ∀ port, next.state port = links.state port) : next.Settled cabling := by
  constructor
  · intro dp port
    rw [graph, states, states]
    exact settled.mem_graph_iff dp port
  · rw [graph]
    exact settled.onlyLinks

theorem Settled.setPort (settled : links.Settled cabling) {after : PortState}
    (same : links.state port = after.stackState) : (links.setPort port after).Settled cabling := by
  refine settled.congr rfl fun other => ?_
  by_cases changed : other = port
  · subst changed
    rw [setPort_state_self, same]
  · exact setPort_state_other changed after

/-- What a graph should have after a change. -/
theorem linkUp_setPort (after : PortState) (port' : E) :
    LinkUp ((links.setPort port after).state port')
        ((links.setPort port after).state (cabling.peer port')) ↔
      if cabling.edge port' = cabling.edge port then
        LinkUp after.stackState (links.state (cabling.peer port))
      else LinkUp (links.state port') (links.state (cabling.peer port')) := by
  split
  next same =>
    rcases cabling.edge_eq_iff.mp same with rfl | rfl
    · rw [setPort_state_self, setPort_state_other (cabling.peer_ne _)]
    · rw [cabling.peer_peer, setPort_state_self, setPort_state_other (cabling.peer_ne _), linkUp_comm]
  next other =>
    have different : port' ≠ port := fun same => other (same ▸ rfl)
    have peerDifferent : cabling.peer port' ≠ port := by
      rintro rfl
      exact other cabling.edge_peer.symm
    rw [setPort_state_other different, setPort_state_other peerDifferent]

variable [DecidableEq Dp]

/-- A port keeps its state, or it changes it and updates the graphs. -/
theorem updateStackLinkState_cases
    (taken : links.updateStackLinkState cabling port now = some next) :
    ∃ after, links.state port = after.stackState ∧ next = links.setPort port after ∨
      links.state port ≠ after.stackState ∧ after.stackState ≠ .none ∧
        next = (links.setPort port after).updateStackTopo cabling
          ((links.setPort port after).portUp cabling port) port := by
  unfold updateStackLinkState at taken
  split at taken
  next after reason updated =>
    refine ⟨after, ?_⟩
    dsimp only at taken
    split at taken
    next same =>
      cases taken
      exact .inl ⟨same, rfl⟩
    next changed =>
      cases taken
      have moved := (stackPortUpdate_state updated).resolve_left fun same => changed same.symm
      exact .inr ⟨changed, moved.1, rfl⟩
  next => cases taken

/-- What a graph has after a change. -/
theorem mem_updateStackTopo {portUp : Bool} {dp : Dp} {pair : E × E} :
    pair ∈ (links.updateStackTopo cabling portUp port).graph dp ↔
      if (dp = cabling.dp port ∨ links.dynRunning dp = true) ∧ pair = cabling.edge port then
        portUp = true
      else pair ∈ links.graph dp := by
  unfold updateStackTopo
  dsimp only
  by_cases noticed : dp = cabling.dp port ∨ links.dynRunning dp = true
  · rw [if_pos noticed, cabling.mem_modifyTopology]
    simp [noticed]
  · rw [if_neg noticed]
    simp [noticed]

/-- **A change keeps the graphs settled exactly when it is noticed.** -/
theorem settled_update_iff (settled : links.Settled cabling)
    (taken : links.updateStackLinkState cabling port now = some next) :
    next.Settled cabling ↔ links.ChangeNoticed cabling port now := by
  obtain ⟨after, ⟨same, rfl⟩ | ⟨changed, known, rfl⟩⟩ := updateStackLinkState_cases taken
  case inl =>
    refine ⟨fun _ other taken' differs => ?_, fun _ => settled.setPort same⟩
    cases taken.symm.trans taken'
    exact absurd ((setPort_state_self after).trans same.symm) differs
  case inr =>
    have peerState : (links.setPort port after).state (cabling.peer port) =
        links.state (cabling.peer port) := setPort_state_other (cabling.peer_ne port) after
    have right : LinkUp after.stackState (links.state (cabling.peer port)) ↔ _ := linkUp_iff known
    have portUp : (links.setPort port after).portUp cabling port = true ↔
        after.stackState = .up ∨
          after.stackState = .init ∧ links.state (cabling.peer port) = .up := by
      rw [portUp_iff, setPort_state_self, peerState]
    rw [← portUp] at right
    have linkUp : LinkUp ((links.setPort port after).state port)
        ((links.setPort port after).state (cabling.peer port)) ↔
          LinkUp after.stackState (links.state (cabling.peer port)) := by
      rw [setPort_state_self, peerState]
    constructor
    · intro settled' other taken' _
      cases taken.symm.trans taken'
      have own := settled'.mem_graph_iff (cabling.dp port) port
      rw [mem_updateStackTopo, if_pos ⟨.inl rfl, rfl⟩] at own
      have exact := own.trans linkUp
      constructor
      · intro up
        have up : after.stackState = .up := (setPort_state_self after).symm.trans up
        exact (right.mp (exact.mp (portUp.mpr (.inl up)))).2 up
      · intro dp different stopped
        have missed := settled'.mem_graph_iff dp port
        rw [mem_updateStackTopo, if_neg (by simp [different, setPort, stopped])] at missed
        exact (missed.trans linkUp).trans exact.symm
    · intro noticed
      have changed' : (links.setPort port after).state port ≠ links.state port := by
        rw [setPort_state_self]
        exact Ne.symm changed
      obtain ⟨healthy, missed⟩ := noticed _ taken changed'
      have exact : (links.setPort port after).portUp cabling port = true ↔
          LinkUp after.stackState (links.state (cabling.peer port)) :=
        ⟨fun up => right.mpr ⟨up, fun isUp => healthy ((setPort_state_self after).trans isUp)⟩,
          fun up => (right.mp up).1⟩
      constructor
      case onlyLinks =>
        intro dp pair member
        rw [mem_updateStackTopo] at member
        split at member
        next same => exact ⟨port, same.2⟩
        next => exact settled.onlyLinks dp pair member
      case mem_graph_iff =>
        intro dp port'
        refine Iff.trans ?_ (linkUp_setPort after port').symm
        rw [mem_updateStackTopo]
        by_cases same : cabling.edge port' = cabling.edge port
        · rw [if_pos same, ← exact, same]
          by_cases noticed : dp = cabling.dp port ∨ links.dynRunning dp = true
          · rw [if_pos ⟨noticed, rfl⟩]
          · rw [if_neg fun both => noticed both.1]
            obtain ⟨different, stopped⟩ := not_or.mp noticed
            exact missed dp different (Bool.eq_false_iff.mpr stopped)
        · rw [if_neg same, if_neg fun both => same both.2]
          exact settled.mem_graph_iff dp port'

/-! ## Runs -/

omit [DecidableEq Dp] in
theorem settled_initial : (Links.initial cabling).Settled cabling where
  mem_graph_iff _ port := by
    have present : cabling.edge port ∈ cabling.resolveTopology :=
      cabling.mem_resolveTopology.mpr ⟨port, rfl⟩
    simp [initial, state, PortState.start, LinkUp, present]
  onlyLinks _ _ member := cabling.mem_resolveTopology.mp member

/-- **A step keeps the graphs settled exactly when it is noticed.** -/
theorem settled_iff_noticed (settled : links.Settled cabling) {event : LinkEvent Dp E}
    (taken : links.step cabling event = some next) :
    next.Settled cabling ↔ links.Noticed cabling event := by
  cases event with
  | update port now => exact settled_update_iff settled taken
  | probe port now remote =>
      have noted : (links.noteProbe cabling port now remote).Settled cabling := settled.setPort rfl
      exact settled_update_iff noted taken
  | connect dp | disconnect dp =>
      cases taken
      exact ⟨fun _ => trivial, fun _ => settled.congr rfl fun _ => rfl⟩

theorem settled_of_noticed (reaches : Reaches (step cabling) (Noticed cabling) (.initial cabling) links) :
    links.Settled cabling :=
  reaches.invariant (Settled cabling) settled_initial fun settled noticed taken =>
    (settled_iff_noticed settled taken).mpr noticed

/-- **The graphs depend only on the states of the ports**, in runs that are noticed, and
have no link with a broken end. -/
theorem graph_eq_of_states {links' : Links Dp E}
    (reaches : Reaches (step cabling) (Noticed cabling) (.initial cabling) links)
    (reaches' : Reaches (step cabling) (Noticed cabling) (.initial cabling) links')
    (states : ∀ port, links.state port = links'.state port) (dp dp' : Dp) :
    links.graph dp = links'.graph dp' ∧ ∀ port, cabling.edge port ∈ links.graph dp →
      ¬ Broken (links.state port) ∧ ¬ Broken (links.state (cabling.peer port)) := by
  have settled := settled_of_noticed reaches
  have settled' := settled_of_noticed reaches'
  have links_eq : ∀ port, cabling.edge port ∈ links.graph dp ↔
      cabling.edge port ∈ links'.graph dp' := by
    intro port
    rw [settled.mem_graph_iff, settled'.mem_graph_iff, states, states]
  constructor
  · ext pair
    constructor
    · intro member
      obtain ⟨port, rfl⟩ := settled.onlyLinks dp pair member
      exact (links_eq port).mp member
    · intro member
      obtain ⟨port, rfl⟩ := settled'.onlyLinks dp' pair member
      exact (links_eq port).mpr member
  · intro port member
    rcases (settled.mem_graph_iff dp port).mp member with ⟨first, second⟩ | ⟨up, sound⟩ | ⟨up, sound⟩
    · rw [first, second]
      decide
    · exact ⟨by rw [up]; decide, sound⟩
    · exact ⟨sound, by rw [up]; decide⟩

/-- One link between two datapaths. -/
def oneLink : Cabling Bool Bool where
  dp := id
  peer := not
  peer_peer := by decide
  peer_ne := by decide
  stackPeer port := ⟨if port then 1 else 2, if port then "sw1" else "sw2", 1, none, Lldp.StackPeer.positive_none⟩
  maxLldpLost _ := 3
  ports := [false, true]
  mem_ports := by decide

/-- What the other end of the link sends. -/
def beacon (port : Bool) : Remote :=
  ⟨some (if port then 1 else 2), some (if port then "sw1" else "sw2"), some 1, some 3⟩

/-- Both ends come up, in this order, and the second is gone. -/
def noticedRun (first second : Bool) : List (LinkEvent Bool Bool) :=
  [.connect false, .connect true, .probe first 0 (beacon first), .probe second 0 (beacon second),
    .update true 100]

theorem graph_eq_noticedRun : ∃ links links',
    exec (step oneLink) (.initial oneLink) (noticedRun false true) = some links ∧
      exec (step oneLink) (.initial oneLink) (noticedRun true false) = some links' ∧
      ∀ dp dp', links.graph dp = links'.graph dp' ∧ ∀ port, oneLink.edge port ∈ links.graph dp →
        ¬ Broken (links.state port) ∧ ¬ Broken (links.state (oneLink.peer port)) := by
  have ran : ∀ first second : Bool, first ≠ second →
      (exec (step oneLink) (.initial oneLink) (noticedRun first second)).map (fun links =>
        (links.state false, links.state true)) = some (.up, .gone) := by
    decide +kernel
  obtain ⟨links, executed, states⟩ := Option.map_eq_some_iff.mp (ran false true (by simp))
  obtain ⟨links', executed', states'⟩ := Option.map_eq_some_iff.mp (ran true false (by simp))
  have allowed : Allowed (step oneLink) (Noticed oneLink) (.initial oneLink) (noticedRun false true) := by
    decide +kernel
  have allowed' : Allowed (step oneLink) (Noticed oneLink) (.initial oneLink) (noticedRun true false) := by
    decide +kernel
  refine ⟨links, links', executed, executed', graph_eq_of_states (.of_exec _ allowed executed)
    (.of_exec _ allowed' executed') fun port => ?_⟩
  obtain ⟨first, second⟩ := Prod.mk.inj (states.trans states'.symm)
  cases port
  · exact first
  · exact second

/-- Both ends come up, are gone, and one comes up again. -/
def oneWayRun : List (LinkEvent Bool Bool) :=
  [.connect false, .connect true, .probe false 0 (beacon false), .probe true 0 (beacon true),
    .update false 100, .update true 100, .probe false 101 (beacon false)]

/-- A link has an end that is gone, when the other came up last. -/
theorem not_settled_of_gone :
    ¬ ∀ links links', Reaches (step oneLink) anyStep (.initial oneLink) links →
      Reaches (step oneLink) anyStep (.initial oneLink) links' →
      (∀ port, links.state port = links'.state port) → ∀ dp dp', links.graph dp = links'.graph dp' ∧
        ∀ port, oneLink.edge port ∈ links.graph dp →
          ¬ Broken (links.state port) ∧ ¬ Broken (links.state (oneLink.peer port)) := by
  intro settled
  have ran : (exec (step oneLink) (.initial oneLink) oneWayRun).map (fun links =>
      (links.state true, decide (oneLink.edge false ∈ links.graph false))) = some (.gone, true) := by
    decide +kernel
  obtain ⟨links, executed, seen⟩ := Option.map_eq_some_iff.mp ran
  obtain ⟨gone, present⟩ := Prod.mk.inj seen
  have reaches := Reaches.of_exec _ (allowed_anyStep oneWayRun _) executed
  have sound := ((settled links links reaches reaches (fun _ => rfl) false false).2 false
    (of_decide_eq_true present)).2
  exact sound (.inr (.inl gone))

end Links

end Faucet.Stack
