import Faucet.Stack.FloodRules
import Faucet.Stack.SpanningTree

/-!
# Where a rule sends a frame

The outputs of a flood rule, read in the tree of the chosen links: towards the root
a frame goes to the parent, by every link but the one it came by (`Upward`); away
from the root it goes to the children, but not back to the child it came from
(`Downward`). What a rule outputs is said for each place a frame can be in: at the
child's end of a link of the tree (`ByParent`), at the parent's end (`ByChild`), or
at the port of a host.
-/

set_option autoImplicit false

namespace Faucet.Stack

variable {Dp : Type}

/-! ## Lists of outputs -/

section Outputs

variable [DecidableEq Dp] {ports excludePorts : List (Port Dp)} {inPort port : Port Dp}

theorem port_mem_floodTaggedPortOutputs :
    Output.port port ∈ floodTaggedPortOutputs ports inPort excludePorts ↔
      port ∈ ports ∧ port ≠ inPort ∧ port ∉ excludePorts := by
  rw [floodTaggedPortOutputs, List.mem_flatMap]
  constructor
  · intro listed
    obtain ⟨other, member, output⟩ := listed
    split at output
    next => split at output <;> simp at output
    next different =>
      split at output
      next => cases output
      next kept =>
        cases List.mem_singleton.mp output
        exact ⟨member, different, kept⟩
  · intro allowed
    obtain ⟨member, different, kept⟩ := allowed
    refine ⟨port, member, ?_⟩
    rw [if_neg different, if_neg kept]
    exact List.mem_singleton_self _

theorem inPort_mem_floodTaggedPortOutputs :
    Output.inPort ∈ floodTaggedPortOutputs ports inPort excludePorts ↔
      inPort ∈ ports ∧ inPort.hairpin = true := by
  rw [floodTaggedPortOutputs, List.mem_flatMap]
  constructor
  · intro listed
    obtain ⟨other, member, output⟩ := listed
    split at output
    next same =>
      split at output
      next hairpin => exact ⟨same ▸ member, hairpin⟩
      next => cases output
    next => split at output <;> simp at output
  · intro allowed
    refine ⟨inPort, allowed.1, ?_⟩
    rw [if_pos rfl, if_pos allowed.2]
    exact List.mem_singleton_self _

end Outputs

theorem stack_mem_map {ports : List (StackPort Dp)} {port : StackPort Dp} :
    Port.stack port ∈ ports.map .stack ↔ port ∈ ports :=
  List.mem_map_of_injective fun _ _ => Port.stack.inj

theorem host_mem_map {hosts : List HostPort} {host : HostPort} :
    (Port.host host : Port Dp) ∈ hosts.map .host ↔ host ∈ hosts :=
  List.mem_map_of_injective fun _ _ => Port.host.inj

/-- The frame that arrives over the link of a port. -/
def StackPort.arrival (self : Dp) (port : StackPort Dp) : Frame Dp :=
  ⟨port.peerDp, .stack (port.peer self)⟩

theorem StackPort.arrival_inj {self : Dp} {port other : StackPort Dp}
    (same : port.arrival self = other.arrival self) : port = other := by
  have peers := Port.stack.inj (congrArg Frame.inPort same)
  have sameDp : port.peerDp = other.peerDp := congrArg Frame.dp same
  rw [← port.peer_peer self, ← other.peer_peer self, peers, sameDp]

namespace Topology

variable [LinearOrder Dp] (topology : Topology Dp)

/-- The frame came in over a link from its parent. -/
def ByParent (frame : Frame Dp) (inPort : StackPort Dp) : Prop :=
  frame.inPort = .stack inPort ∧ inPort ∈ topology.stackPorts frame.dp ∧
    topology.tree.IsChild frame.dp inPort.peerDp

/-- The frame came in over a link from a child. -/
def ByChild (frame : Frame Dp) (inPort : StackPort Dp) : Prop :=
  frame.inPort = .stack inPort ∧ inPort ∈ topology.stackPorts frame.dp ∧
    topology.tree.IsChild inPort.peerDp frame.dp

/-- The ports by which a frame goes to the parent. -/
def Upward (frame : Frame Dp) (port : StackPort Dp) : Prop :=
  port ∈ topology.stackPorts frame.dp ∧ topology.tree.IsChild frame.dp port.peerDp ∧
    frame.inPort ≠ .stack port

/-- The ports by which a frame goes to the children. -/
def Downward (frame : Frame Dp) (port : StackPort Dp) : Prop :=
  port ∈ topology.stackPorts frame.dp ∧ topology.tree.IsChild port.peerDp frame.dp ∧
    ∀ inPort, frame.inPort = .stack inPort → port.peerDp ≠ inPort.peerDp

/-- The hosts to which a frame goes. -/
def Locally (kind : FloodKind) (frame : Frame Dp) (host : HostPort) : Prop :=
  host ∈ topology.floodPorts frame.dp kind ∧ (frame.inPort = .host host → host.hairpin = true)

/-- The frame is not dropped at its port. -/
def Unpruned (kind : FloodKind) (frame : Frame Dp) : Prop :=
  kind = .broadcast → ∀ inPort, frame.inPort = .stack inPort →
    topology.isPrunedPort frame.dp inPort = false

variable {topology} {mode : FloodMode} {kind : FloodKind} {frame frame' : Frame Dp}
  {port inPort : StackPort Dp} {host : HostPort}

/-! ## The parts of a rule -/

theorem stack_mem_towardFloodActions :
    Output.port (.stack port) ∈ topology.towardFloodActions frame.dp frame.inPort ↔
      topology.Upward frame port := by
  rw [towardFloodActions, port_mem_floodTaggedPortOutputs, stack_mem_map, mem_chosenTowardsPorts,
    Upward, and_assoc, ne_comm]
  simp

theorem host_not_mem_towardFloodActions :
    Output.port (.host host) ∉ topology.towardFloodActions frame.dp frame.inPort := by
  rw [towardFloodActions, port_mem_floodTaggedPortOutputs]
  simp

theorem inPort_not_mem_stackOutputs {ports : List (StackPort Dp)} {excluded : List (Port Dp)}
    {inPort : Port Dp} :
    Output.inPort ∉ floodTaggedPortOutputs (ports.map .stack) inPort excluded := by
  rw [inPort_mem_floodTaggedPortOutputs]
  intro both
  obtain ⟨port, _, rfl⟩ := List.mem_map.mp both.1
  exact Bool.false_ne_true both.2

theorem inPort_not_mem_towardFloodActions :
    Output.inPort ∉ topology.towardFloodActions frame.dp frame.inPort :=
  inPort_not_mem_stackOutputs

theorem stack_mem_awayFloodActions :
    Output.port (.stack port) ∈ topology.awayFloodActions frame.dp frame.inPort ↔
      topology.Downward frame port := by
  rw [awayFloodActions, port_mem_floodTaggedPortOutputs, stack_mem_map, stack_mem_map, Downward]
  have active : port ∈ (topology.resetPeerDistances frame.dp).awayPorts ∧
        port ∉ (topology.resetPeerDistances frame.dp).inactiveAwayPorts ↔
      port ∈ topology.stackPorts frame.dp ∧ topology.tree.IsChild port.peerDp frame.dp :=
    mem_activeAwayPorts
  cases came : frame.inPort with
  | host host =>
      rw [excludePorts]
      simp only [ne_eq, reduceCtorEq, not_false_eq_true, true_and, false_implies, implies_true,
        and_true]
      exact active
  | stack inPort =>
      rw [excludePorts, List.mem_append, not_or, adjacentStackPorts, List.mem_filter,
        decide_eq_true_eq]
      constructor
      · intro listed
        obtain ⟨away, _, notInactive, notAdjacent⟩ := listed
        obtain ⟨member, isChild⟩ := active.mp ⟨away, notInactive⟩
        refine ⟨member, isChild, fun other same => ?_⟩
        cases same
        exact fun adjacent => notAdjacent ⟨member, adjacent⟩
      · intro downward
        obtain ⟨member, isChild, notBack⟩ := downward
        obtain ⟨away, notInactive⟩ := active.mpr ⟨member, isChild⟩
        refine ⟨away, ?_, notInactive, fun adjacent => notBack inPort rfl adjacent.2⟩
        intro same
        cases same
        exact notBack port rfl rfl

theorem host_not_mem_awayFloodActions :
    Output.port (.host host) ∉ topology.awayFloodActions frame.dp frame.inPort := by
  rw [awayFloodActions, port_mem_floodTaggedPortOutputs]
  simp

theorem inPort_not_mem_awayFloodActions :
    Output.inPort ∉ topology.awayFloodActions frame.dp frame.inPort :=
  inPort_not_mem_stackOutputs

theorem stack_not_mem_localFloodActions :
    Output.port (.stack port) ∉ topology.localFloodActions frame.dp kind frame.inPort := by
  rw [localFloodActions, port_mem_floodTaggedPortOutputs]
  simp

theorem host_mem_localFloodActions :
    Output.port (.host host) ∈ topology.localFloodActions frame.dp kind frame.inPort ↔
      host ∈ topology.floodPorts frame.dp kind ∧ frame.inPort ≠ .host host := by
  rw [localFloodActions, port_mem_floodTaggedPortOutputs, host_mem_map, ne_comm]
  simp

theorem inPort_mem_localFloodActions :
    Output.inPort ∈ topology.localFloodActions frame.dp kind frame.inPort ↔
      ∃ host ∈ topology.floodPorts frame.dp kind,
        frame.inPort = .host host ∧ host.hairpin = true := by
  rw [localFloodActions, inPort_mem_floodTaggedPortOutputs, List.mem_map]
  constructor
  · intro both
    obtain ⟨⟨host, member, same⟩, hairpin⟩ := both
    rw [← same] at hairpin
    exact ⟨host, member, same.symm, hairpin⟩
  · intro hairpins
    obtain ⟨host, member, same, hairpin⟩ := hairpins
    rw [same]
    exact ⟨⟨host, member, rfl⟩, hairpin⟩

/-! ## The whole rule -/

theorem mem_floodRule (unpruned : topology.Unpruned kind frame) {output : Output Dp} :
    output ∈ topology.floodRule frame.dp mode kind frame.inPort ↔
      output ∈ topology.floodActions frame.dp mode kind frame.inPort := by
  have kept : topology.floodRule frame.dp mode kind frame.inPort =
      OrderedDict.values id (topology.floodActions frame.dp mode kind frame.inPort) := by
    cases kind with
    | unicast => rfl
    | broadcast =>
        cases came : frame.inPort with
        | host host => rfl
        | stack inPort => exact if_neg (Bool.eq_false_iff.mp (unpruned rfl inPort came))
  rw [kept, OrderedDict.mem_values_id]

theorem leavesBy_eq_nil (mode : FloodMode) (came : frame.inPort = .stack inPort)
    (pruned : topology.isPrunedPort frame.dp inPort = true) :
    topology.leavesBy mode .broadcast frame = [] := by
  have dropped : topology.floodRule frame.dp mode .broadcast frame.inPort = [] := by
    rw [came]
    exact if_pos pruned
  rw [leavesBy, dropped]
  rfl

theorem mem_leavesBy (unpruned : topology.Unpruned kind frame) {port : Port Dp} :
    port ∈ topology.leavesBy mode kind frame ↔
      (frame.inPort ≠ port ∧
          Output.port port ∈ topology.floodActions frame.dp mode kind frame.inPort) ∨
        (frame.inPort = port ∧
          Output.inPort ∈ topology.floodActions frame.dp mode kind frame.inPort) := by
  rw [leavesBy, List.mem_filterMap, ← mem_floodRule unpruned, ← mem_floodRule unpruned]
  constructor
  · intro left
    obtain ⟨output, member, same⟩ := left
    cases output with
    | inPort => exact .inr ⟨Option.some.inj same, member⟩
    | port other =>
        dsimp only at same
        split at same
        next => cases same
        next different =>
          cases same
          exact .inl ⟨fun back => different back.symm, member⟩
  · intro either
    rcases either with ⟨different, member⟩ | ⟨same, member⟩
    · exact ⟨_, member, if_neg fun back => different back.symm⟩
    · exact ⟨_, member, congrArg some same⟩

/-- No port is left by twice. -/
theorem nodup_leavesBy : (topology.leavesBy mode kind frame).Nodup := by
  have rule : (topology.floodRule frame.dp mode kind frame.inPort).Nodup := by
    exact iteInduction (motive := List.Nodup) (fun _ => List.nodup_nil)
      fun _ => OrderedDict.nodup_values_id
  refine List.Nodup.filterMap ?_ rule
  intro output output' port leaves leaves'
  cases output with
  | inPort =>
      cases output' with
      | inPort => rfl
      | port other =>
          cases leaves
          dsimp only at leaves'
          split at leaves'
          next => cases leaves'
          next different => exact absurd (Option.some.inj leaves') different
  | port other =>
      dsimp only at leaves
      split at leaves
      next => cases leaves
      next different =>
        cases leaves
        cases output' with
        | inPort => exact absurd (Option.some.inj leaves').symm different
        | port other' =>
            dsimp only at leaves'
            split at leaves'
            next => cases leaves'
            next =>
              cases leaves'
              rfl

theorem mem_next : frame' ∈ topology.next mode kind frame ↔
    ∃ port, Port.stack port ∈ topology.leavesBy mode kind frame ∧
      frame' = port.arrival frame.dp := by
  rw [next, List.mem_filterMap]
  constructor
  · intro made
    obtain ⟨port, member, same⟩ := made
    cases port with
    | stack port => exact ⟨port, member, (Option.some.inj same).symm⟩
    | host host => cases same
  · intro made
    obtain ⟨port, member, rfl⟩ := made
    exact ⟨_, member, rfl⟩

theorem nodup_next : (topology.next mode kind frame).Nodup := by
  refine List.Nodup.filterMap ?_ nodup_leavesBy
  intro port port' frame' made made'
  cases port with
  | host host => cases made
  | stack port =>
      cases port' with
      | host host => cases made'
      | stack port' =>
          have same : port.arrival frame.dp = port'.arrival frame.dp :=
            Option.some.inj (made.trans made'.symm)
          rw [StackPort.arrival_inj same]

theorem mem_deliver {dp : Dp} : (dp, host) ∈ topology.deliver mode kind frame ↔
    dp = frame.dp ∧ Port.host host ∈ topology.leavesBy mode kind frame := by
  rw [deliver, List.mem_filterMap]
  constructor
  · intro left
    obtain ⟨port, member, same⟩ := left
    cases port with
    | stack port => cases same
    | host host' =>
        cases same
        exact ⟨rfl, member⟩
  · intro left
    obtain ⟨rfl, member⟩ := left
    exact ⟨_, member, rfl⟩

theorem nodup_deliver : (topology.deliver mode kind frame).Nodup := by
  refine List.Nodup.filterMap ?_ nodup_leavesBy
  intro port port' receiver left left'
  cases port with
  | stack port => cases left
  | host host =>
      cases port' with
      | stack port => cases left'
      | host host' =>
          cases left
          cases left'
          rfl

/-! ## Rules by the place of the frame -/

/-- A frame goes to the parent, in reflection mode only as long as it has not come from
there. -/
def GoesUp (topology : Topology Dp) (mode : FloodMode) (frame : Frame Dp) : Prop :=
  mode = .noReflection ∨
    (frame.dp ≠ topology.root ∧ ∀ inPort, ¬ topology.ByParent frame inPort)

/-- A frame goes to the children and the hosts, in reflection mode only once it has come
down from the root. -/
def GoesDown (topology : Topology Dp) (mode : FloodMode) (frame : Frame Dp) : Prop :=
  mode = .noReflection ∨ frame.dp = topology.root ∨ ∃ inPort, topology.ByParent frame inPort

/-- A frame is reflected off the root. -/
def TurnsBack (topology : Topology Dp) (mode : FloodMode) (frame : Frame Dp) : Prop :=
  mode = .reflection ∧ frame.dp = topology.root ∧ ∃ inPort, topology.ByChild frame inPort

/-- The places that a frame of a flood can be in. -/
inductive Placed (topology : Topology Dp) (frame : Frame Dp) : Prop where
  | byParent (inPort : StackPort Dp) (came : topology.ByParent frame inPort)
  | byChild (inPort : StackPort Dp) (came : topology.ByChild frame inPort)
  | byHost (host : HostPort) (came : frame.inPort = .host host)

/-- Over a link from a child a frame arrives at the parent. -/
theorem arrival_byChild {self : Dp} (member : port ∈ topology.stackPorts self)
    (isChild : topology.tree.IsChild self port.peerDp) :
    topology.ByChild (port.arrival self) (port.peer self) :=
  ⟨rfl, topology.bothEnds self port member, isChild⟩

/-- Over a link from the parent a frame arrives at the child. -/
theorem arrival_byParent {self : Dp} (member : port ∈ topology.stackPorts self)
    (isChild : topology.tree.IsChild port.peerDp self) :
    topology.ByParent (port.arrival self) (port.peer self) :=
  ⟨rfl, topology.bothEnds self port member, isChild⟩

theorem ByParent.not_byChild (came : topology.ByParent frame inPort) :
    ¬ topology.ByChild frame port := by
  intro came'
  have same : inPort = port := Port.stack.inj (came.1.symm.trans came'.1)
  have rank := came.2.2.rank
  have rank' := came'.2.2.rank
  rw [same] at rank
  omega

theorem not_byParent_of_host (came : frame.inPort = .host host) :
    ¬ topology.ByParent frame port := by
  intro came'
  cases came.symm.trans came'.1

theorem not_byChild_of_host (came : frame.inPort = .host host) :
    ¬ topology.ByChild frame port := by
  intro came'
  cases came.symm.trans came'.1

/-- A frame that has not come from the parent can go there. -/
theorem exists_mainLink_up (notFromParent : ∀ inPort, ¬ topology.ByParent frame inPort)
    (notRoot : frame.dp ≠ topology.root) :
    ∃ port, topology.IsMainLink frame.dp port ∧ frame.inPort ≠ .stack port := by
  obtain ⟨port, isMain⟩ := exists_mainLink notRoot
  exact ⟨port, isMain, fun same => notFromParent port ⟨same, isMain.1, isMain.2.1⟩⟩

/-- **What a rule outputs**, in the two modes and in all places. -/
theorem mem_floodActions (placed : topology.Placed frame) {output : Output Dp} :
    output ∈ topology.floodActions frame.dp mode kind frame.inPort ↔
      (topology.GoesUp mode frame ∧
          output ∈ topology.towardFloodActions frame.dp frame.inPort) ∨
        (topology.GoesDown mode frame ∧
          (output ∈ topology.awayFloodActions frame.dp frame.inPort ∨
            output ∈ topology.localFloodActions frame.dp kind frame.inPort)) ∨
        (topology.TurnsBack mode frame ∧ output = .inPort) := by
  cases mode with
  | noReflection =>
      have up : topology.GoesUp .noReflection frame := .inl rfl
      have down : topology.GoesDown .noReflection frame := .inl rfl
      have straight : ¬ topology.TurnsBack .noReflection frame := nofun
      have rule : topology.floodActions frame.dp .noReflection kind frame.inPort =
          topology.towardFloodActions frame.dp frame.inPort ++
            topology.awayFloodActions frame.dp frame.inPort ++
            topology.localFloodActions frame.dp kind frame.inPort := rfl
      simp [rule, up, down, straight]
  | reflection =>
      rw [GoesUp, GoesDown, TurnsBack]
      cases placed with
      | byHost host came =>
          simp only [floodActions, came, not_byParent_of_host came, not_byChild_of_host came]
          by_cases isRoot : frame.dp = topology.root <;> simp [isRoot]
      | byParent inPort came =>
          have rank := came.2.2.rank
          have notAway : topology.isAway frame.dp inPort = false := by
            rw [← Bool.not_eq_true, isAway_iff]
            rintro ⟨_, farther⟩
            omega
          have towards : topology.isTowardsRoot frame.dp inPort = true :=
            mem_towards.mpr ⟨came.2.2.1, came.2.1, rank⟩
          have notRoot : frame.dp ≠ topology.root := came.2.2.1
          have fromParent : ∃ inPort, topology.ByParent frame inPort := ⟨inPort, came⟩
          simp [floodActions, came.1, notRoot, notAway, towards, fromParent]
      | byChild inPort came =>
          have away : topology.isAway frame.dp inPort = true :=
            isAway_iff.mpr ⟨came.2.1, (Nat.le_succ _).trans_eq came.2.2.rank.symm⟩
          have notFromParent : ∀ inPort, ¬ topology.ByParent frame inPort :=
            fun _ came' => came'.not_byChild came
          have fromChild : ∃ inPort, topology.ByChild frame inPort := ⟨inPort, came⟩
          by_cases isRoot : frame.dp = topology.root
          · have rule : topology.floodActions frame.dp .reflection kind frame.inPort =
                topology.awayFloodActions frame.dp frame.inPort ++ [.inPort] ++
                  topology.localFloodActions frame.dp kind frame.inPort := by
              simp only [floodActions, came.1, if_pos isRoot, if_pos away]
            rw [rule]
            simp only [isRoot, fromChild, List.mem_append, List.mem_singleton]
            tauto
          · simp [floodActions, came.1, isRoot, away, notFromParent]

/-- The ports to other datapaths by which a frame leaves. -/
theorem stack_mem_leavesBy (placed : topology.Placed frame)
    (unpruned : topology.Unpruned kind frame) :
    Port.stack port ∈ topology.leavesBy mode kind frame ↔
      (topology.GoesUp mode frame ∧ topology.Upward frame port) ∨
        (topology.GoesDown mode frame ∧ topology.Downward frame port) ∨
        (topology.TurnsBack mode frame ∧ frame.inPort = .stack port) := by
  rw [mem_leavesBy unpruned, mem_floodActions placed, mem_floodActions placed]
  have notUp : Output.inPort ∉ topology.towardFloodActions frame.dp frame.inPort :=
    inPort_not_mem_towardFloodActions
  have notDown : Output.inPort ∉ topology.awayFloodActions frame.dp frame.inPort :=
    inPort_not_mem_awayFloodActions
  constructor
  · intro either
    rcases either with ⟨different, left⟩ | ⟨same, left⟩
    · rcases left with ⟨goes, up⟩ | ⟨goes, away | here⟩ | ⟨_, back⟩
      · exact .inl ⟨goes, stack_mem_towardFloodActions.mp up⟩
      · exact .inr (.inl ⟨goes, stack_mem_awayFloodActions.mp away⟩)
      · exact absurd here stack_not_mem_localFloodActions
      · cases back
    · rcases left with ⟨_, up⟩ | ⟨_, away | here⟩ | ⟨turns, _⟩
      · exact absurd up notUp
      · exact absurd away notDown
      · obtain ⟨host, _, came, _⟩ := inPort_mem_localFloodActions.mp here
        cases came.symm.trans same
      · exact .inr (.inr ⟨turns, same⟩)
  · intro either
    rcases either with ⟨goes, up⟩ | ⟨goes, down⟩ | ⟨turns, same⟩
    · exact .inl ⟨up.2.2, .inl ⟨goes, stack_mem_towardFloodActions.mpr up⟩⟩
    · refine .inl ⟨?_, .inr (.inl ⟨goes, .inl (stack_mem_awayFloodActions.mpr down)⟩)⟩
      exact fun same => down.2.2 port same rfl
    · exact .inr ⟨same, .inr (.inr ⟨turns, rfl⟩)⟩

/-- The ports by which a frame leaves lead over links of the tree. -/
theorem leaves_cases (placed : topology.Placed frame)
    (unpruned : topology.Unpruned kind frame)
    (leaves : Port.stack port ∈ topology.leavesBy mode kind frame) :
    port ∈ topology.stackPorts frame.dp ∧
      ((topology.GoesUp mode frame ∧ topology.tree.IsChild frame.dp port.peerDp ∧
          frame.inPort ≠ .stack port) ∨
        ((topology.GoesDown mode frame ∨ topology.TurnsBack mode frame) ∧
          topology.tree.IsChild port.peerDp frame.dp)) := by
  rcases (stack_mem_leavesBy placed unpruned).mp leaves with
    ⟨goes, up⟩ | ⟨goes, down⟩ | ⟨turns, back⟩
  · exact ⟨up.1, .inl ⟨goes, up.2⟩⟩
  · exact ⟨down.1, .inr ⟨.inl goes, down.2.1⟩⟩
  · obtain ⟨_, _, inPort, came⟩ := id turns
    cases came.1.symm.trans back
    exact ⟨came.2.1, .inr ⟨.inr turns, came.2.2⟩⟩

/-- The hosts by which a frame leaves. -/
theorem host_mem_leavesBy (placed : topology.Placed frame)
    (unpruned : topology.Unpruned kind frame) :
    Port.host host ∈ topology.leavesBy mode kind frame ↔
      topology.GoesDown mode frame ∧ topology.Locally kind frame host := by
  rw [mem_leavesBy unpruned, mem_floodActions placed, mem_floodActions placed]
  have notUp : Output.inPort ∉ topology.towardFloodActions frame.dp frame.inPort :=
    inPort_not_mem_towardFloodActions
  have notDown : Output.inPort ∉ topology.awayFloodActions frame.dp frame.inPort :=
    inPort_not_mem_awayFloodActions
  constructor
  · intro either
    rcases either with ⟨different, left⟩ | ⟨same, left⟩
    · rcases left with ⟨_, up⟩ | ⟨goes, away | here⟩ | ⟨_, back⟩
      · exact absurd up host_not_mem_towardFloodActions
      · exact absurd away host_not_mem_awayFloodActions
      · exact ⟨goes, (host_mem_localFloodActions.mp here).1, fun same => absurd same different⟩
      · cases back
    · rcases left with ⟨_, up⟩ | ⟨goes, away | here⟩ | ⟨turns, _⟩
      · exact absurd up notUp
      · exact absurd away notDown
      · obtain ⟨other, member, came, hairpin⟩ := inPort_mem_localFloodActions.mp here
        cases came.symm.trans same
        exact ⟨goes, member, fun _ => hairpin⟩
      · obtain ⟨_, _, inPort, came⟩ := turns
        exact absurd came (not_byChild_of_host same)
  · intro leaves
    obtain ⟨goes, member, hairpin⟩ := leaves
    by_cases same : frame.inPort = .host host
    · refine .inr ⟨same, .inr (.inl ⟨goes, .inr ?_⟩)⟩
      exact inPort_mem_localFloodActions.mpr ⟨host, member, same, hairpin same⟩
    · exact .inl ⟨same, .inr (.inl ⟨goes, .inr (host_mem_localFloodActions.mpr ⟨member, same⟩)⟩)⟩

end Topology

end Faucet.Stack
