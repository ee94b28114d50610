import Faucet.Stack.Forwarding

/-!
# Broadcasts reach every host once

A broadcast travels on the links of the tree that are not pruned. One that comes
down to a datapath reaches what is below it; one that comes up from a child reaches
the rest, and in reflection mode everything, since it goes on to the root and is
reflected there (`Reaches`). The frames that a rule makes reach different hosts, so
that nobody gets a second copy.
-/

set_option autoImplicit false

namespace Faucet.Stack.Topology

open Flood

variable {Dp : Type} [LinearOrder Dp] {topology : Topology Dp} {mode : FloodMode}
  {frame frame' : Frame Dp} {port other inPort : StackPort Dp} {host : HostPort}
  {receiver : Dp × HostPort}

/-- The hosts that a broadcast on a link of the tree reaches. -/
def Reaches (topology : Topology Dp) (mode : FloodMode) (frame : Frame Dp)
    (receiver : Dp × HostPort) : Prop :=
  receiver.2 ∈ topology.hostPorts receiver.1 ∧
    ((∃ inPort, topology.ByParent frame inPort ∧ topology.IsMainLink frame.dp inPort ∧
        topology.tree.Above frame.dp receiver.1) ∨
      ∃ inPort, topology.ByChild frame inPort ∧
        topology.IsMainLink inPort.peerDp (inPort.peer frame.dp) ∧
        (mode = .noReflection → ¬ topology.tree.Above inPort.peerDp receiver.1))

theorem reaches_byParent (came : topology.ByParent frame inPort) :
    topology.Reaches mode frame receiver ↔
      receiver.2 ∈ topology.hostPorts receiver.1 ∧ topology.IsMainLink frame.dp inPort ∧
        topology.tree.Above frame.dp receiver.1 := by
  refine and_congr_right fun _ => ?_
  constructor
  · intro reaches
    rcases reaches with ⟨inPort', came', reaches⟩ | ⟨inPort', came', _⟩
    · cases came.1.symm.trans came'.1
      exact reaches
    · exact absurd came' came.not_byChild
  · exact fun reaches => .inl ⟨inPort, came, reaches⟩

theorem reaches_byChild (came : topology.ByChild frame inPort) :
    topology.Reaches mode frame receiver ↔
      receiver.2 ∈ topology.hostPorts receiver.1 ∧
        topology.IsMainLink inPort.peerDp (inPort.peer frame.dp) ∧
        (mode = .noReflection → ¬ topology.tree.Above inPort.peerDp receiver.1) := by
  refine and_congr_right fun _ => ?_
  constructor
  · intro reaches
    rcases reaches with ⟨inPort', came', _⟩ | ⟨inPort', came', reaches⟩
    · exact absurd came came'.not_byChild
    · cases came.1.symm.trans came'.1
      exact reaches
  · exact fun reaches => .inr ⟨inPort, came, reaches⟩

/-- What a frame reaches by a port to a child. -/
theorem reaches_down {self : Dp} (member : port ∈ topology.stackPorts self)
    (isChild : topology.tree.IsChild port.peerDp self) :
    topology.Reaches mode (port.arrival self) receiver ↔
      receiver.2 ∈ topology.hostPorts receiver.1 ∧
        topology.IsMainLink port.peerDp (port.peer self) ∧
        topology.tree.Above port.peerDp receiver.1 :=
  reaches_byParent (arrival_byParent member isChild)

/-- What a frame reaches by a port to the parent. -/
theorem reaches_up {self : Dp} (member : port ∈ topology.stackPorts self)
    (isChild : topology.tree.IsChild self port.peerDp) :
    topology.Reaches mode (port.arrival self) receiver ↔
      receiver.2 ∈ topology.hostPorts receiver.1 ∧ topology.IsMainLink self port ∧
        (mode = .noReflection → ¬ topology.tree.Above self receiver.1) :=
  reaches_byChild (arrival_byChild member isChild)

/-! ## Different frames reach different hosts -/

theorem reaches_down_inj {self : Dp} (member : port ∈ topology.stackPorts self)
    (isChild : topology.tree.IsChild port.peerDp self)
    (member' : other ∈ topology.stackPorts self)
    (isChild' : topology.tree.IsChild other.peerDp self)
    (reaches : topology.Reaches mode (port.arrival self) receiver)
    (reaches' : topology.Reaches mode (other.arrival self) receiver) : port = other := by
  obtain ⟨_, isMain, above⟩ := (reaches_down member isChild).mp reaches
  obtain ⟨_, isMain', above'⟩ := (reaches_down member' isChild').mp reaches'
  have sameDp : port.peerDp = other.peerDp := isChild.unique isChild' above above'
  rw [← sameDp] at isMain'
  have samePeer : port.peer self = other.peer self := isMain.unique isMain'
  rw [← port.peer_peer self, ← other.peer_peer self, samePeer, sameDp]

theorem reaches_up_inj {self : Dp} (member : port ∈ topology.stackPorts self)
    (isChild : topology.tree.IsChild self port.peerDp)
    (member' : other ∈ topology.stackPorts self)
    (isChild' : topology.tree.IsChild self other.peerDp)
    (reaches : topology.Reaches mode (port.arrival self) receiver)
    (reaches' : topology.Reaches mode (other.arrival self) receiver) : port = other :=
  ((reaches_up member isChild).mp reaches).2.1.unique ((reaches_up member' isChild').mp reaches').2.1

theorem not_reaches_up_and_down {self : Dp} (straight : mode = .noReflection)
    (member : port ∈ topology.stackPorts self) (isChild : topology.tree.IsChild self port.peerDp)
    (member' : other ∈ topology.stackPorts self)
    (isChild' : topology.tree.IsChild other.peerDp self)
    (reaches : topology.Reaches mode (port.arrival self) receiver) :
    ¬ topology.Reaches mode (other.arrival self) receiver := by
  intro reaches'
  have notAbove := ((reaches_up member isChild).mp reaches).2.2 straight
  have above := ((reaches_down member' isChild').mp reaches').2.2
  exact notAbove (isChild'.above.trans above)

/-- In reflection mode a frame does not go both ways. -/
theorem GoesUp.straight (up : topology.GoesUp mode frame)
    (down : topology.GoesDown mode frame ∨ topology.TurnsBack mode frame) :
    mode = .noReflection := by
  rcases up with straight | ⟨notRoot, notFromParent⟩
  · exact straight
  · rcases down with (straight | isRoot | ⟨inPort, came⟩) | ⟨_, isRoot, _⟩
    · exact straight
    · exact absurd isRoot notRoot
    · exact absurd came (notFromParent inPort)
    · exact absurd isRoot notRoot

theorem next_disjoint (placed : topology.Placed frame)
    (unpruned : topology.Unpruned .broadcast frame) :
    ∀ one ∈ topology.next mode .broadcast frame, ∀ two ∈ topology.next mode .broadcast frame,
      ∀ receiver, topology.Reaches mode one receiver → topology.Reaches mode two receiver →
        one = two := by
  intro one made two made' receiver reaches reaches'
  obtain ⟨port, leaves, rfl⟩ := mem_next.mp made
  obtain ⟨other, leaves', rfl⟩ := mem_next.mp made'
  obtain ⟨member, either⟩ := leaves_cases placed unpruned leaves
  obtain ⟨member', either'⟩ := leaves_cases placed unpruned leaves'
  rcases either with ⟨up, isChild, _⟩ | ⟨down, isChild⟩
  · rcases either' with ⟨_, isChild', _⟩ | ⟨down', isChild'⟩
    · rw [reaches_up_inj member isChild member' isChild' reaches reaches']
    · exact absurd reaches' (not_reaches_up_and_down (up.straight down') member isChild member'
        isChild' reaches)
  · rcases either' with ⟨up', isChild', _⟩ | ⟨_, isChild'⟩
    · exact absurd reaches (not_reaches_up_and_down (up'.straight down) member' isChild' member
        isChild reaches')
    · rw [reaches_down_inj member isChild member' isChild' reaches reaches']

/-- What a frame leaves at the hosts of a datapath is not reached from elsewhere. -/
theorem next_deliver_disjoint (placed : topology.Placed frame)
    (unpruned : topology.Unpruned .broadcast frame) :
    ∀ frame' ∈ topology.next mode .broadcast frame, ∀ receiver,
      topology.Reaches mode frame' receiver →
        receiver ∉ topology.deliver mode .broadcast frame := by
  intro frame' made receiver reaches here
  obtain ⟨port, leaves, rfl⟩ := mem_next.mp made
  obtain ⟨member, either⟩ := leaves_cases placed unpruned leaves
  obtain ⟨sameDp, locally'⟩ := mem_deliver.mp here
  have goesDown := ((host_mem_leavesBy placed unpruned).mp locally').1
  rcases either with ⟨up, isChild, _⟩ | ⟨_, isChild⟩
  · have notAbove := ((reaches_up member isChild).mp reaches).2.2 (up.straight (.inl goesDown))
    rw [sameDp] at notAbove
    exact notAbove .refl
  · have above := ((reaches_down member isChild).mp reaches).2.2
    rw [sameDp] at above
    exact isChild.not_above above

/-! ## One rule -/

theorem exists_upward_reaches :
    (∃ port, topology.Upward frame port ∧
        topology.Reaches mode (port.arrival frame.dp) receiver) ↔
      receiver.2 ∈ topology.hostPorts receiver.1 ∧
        (∃ port, topology.IsMainLink frame.dp port ∧ frame.inPort ≠ .stack port) ∧
        (mode = .noReflection → ¬ topology.tree.Above frame.dp receiver.1) := by
  constructor
  · intro reached
    obtain ⟨port, ⟨member, isChild, notBack⟩, reaches⟩ := reached
    obtain ⟨present, isMain, notAbove⟩ := (reaches_up member isChild).mp reaches
    exact ⟨present, ⟨port, isMain, notBack⟩, notAbove⟩
  · intro reached
    obtain ⟨present, ⟨port, isMain, notBack⟩, notAbove⟩ := reached
    refine ⟨port, ⟨isMain.1, isMain.2.1, notBack⟩, ?_⟩
    exact (reaches_up isMain.1 isMain.2.1).mpr ⟨present, isMain, notAbove⟩

theorem exists_downward_reaches :
    (∃ port, topology.Downward frame port ∧
        topology.Reaches mode (port.arrival frame.dp) receiver) ↔
      receiver.2 ∈ topology.hostPorts receiver.1 ∧
        ∃ child, topology.tree.IsChild child frame.dp ∧ topology.tree.Above child receiver.1 ∧
          ∀ inPort, frame.inPort = .stack inPort → child ≠ inPort.peerDp := by
  constructor
  · intro reached
    obtain ⟨port, ⟨member, isChild, notBack⟩, reaches⟩ := reached
    obtain ⟨present, _, above⟩ := (reaches_down member isChild).mp reaches
    exact ⟨present, port.peerDp, isChild, above, notBack⟩
  · intro reached
    obtain ⟨present, child, isChild, above, notBack⟩ := reached
    obtain ⟨port, member, rfl, isMain⟩ := exists_port_to_child isChild
    refine ⟨port, ⟨member, isChild, notBack⟩, ?_⟩
    exact (reaches_down member isChild).mpr ⟨present, isMain, above⟩

/-- Where the hosts are that a frame reaches from its place. -/
def Spreads (topology : Topology Dp) (mode : FloodMode) (frame : Frame Dp)
    (receiver : Dp × HostPort) : Prop :=
  (topology.GoesDown mode frame ∧
      ((receiver.1 = frame.dp ∧ (frame.inPort = .host receiver.2 → receiver.2.hairpin = true)) ∨
        ∃ child, topology.tree.IsChild child frame.dp ∧ topology.tree.Above child receiver.1 ∧
          ∀ inPort, frame.inPort = .stack inPort → child ≠ inPort.peerDp)) ∨
    (topology.GoesUp mode frame ∧
      (∃ port, topology.IsMainLink frame.dp port ∧ frame.inPort ≠ .stack port) ∧
      (mode = .noReflection → ¬ topology.tree.Above frame.dp receiver.1)) ∨
    (topology.TurnsBack mode frame ∧ ∃ inPort, topology.ByChild frame inPort ∧
      topology.IsMainLink inPort.peerDp (inPort.peer frame.dp) ∧
      topology.tree.Above inPort.peerDp receiver.1)

theorem mem_deliver_iff (placed : topology.Placed frame)
    (unpruned : topology.Unpruned .broadcast frame) :
    receiver ∈ topology.deliver mode .broadcast frame ↔
      receiver.1 = frame.dp ∧ topology.GoesDown mode frame ∧
        receiver.2 ∈ topology.hostPorts frame.dp ∧
        (frame.inPort = .host receiver.2 → receiver.2.hairpin = true) := by
  obtain ⟨dp, host⟩ := receiver
  rw [mem_deliver, host_mem_leavesBy placed unpruned]
  rfl

/-- What is reached through the frames that a rule makes. -/
theorem exists_next_reaches (placed : topology.Placed frame)
    (unpruned : topology.Unpruned .broadcast frame) :
    (∃ frame' ∈ topology.next mode .broadcast frame, topology.Reaches mode frame' receiver) ↔
      receiver.2 ∈ topology.hostPorts receiver.1 ∧
        ((topology.GoesDown mode frame ∧
            ∃ child, topology.tree.IsChild child frame.dp ∧
              topology.tree.Above child receiver.1 ∧
              ∀ inPort, frame.inPort = .stack inPort → child ≠ inPort.peerDp) ∨
          (topology.GoesUp mode frame ∧
            (∃ port, topology.IsMainLink frame.dp port ∧ frame.inPort ≠ .stack port) ∧
            (mode = .noReflection → ¬ topology.tree.Above frame.dp receiver.1)) ∨
          (topology.TurnsBack mode frame ∧ ∃ inPort, topology.ByChild frame inPort ∧
            topology.IsMainLink inPort.peerDp (inPort.peer frame.dp) ∧
            topology.tree.Above inPort.peerDp receiver.1)) := by
  constructor
  · intro reached
    obtain ⟨frame', made, reaches⟩ := reached
    obtain ⟨port, leaves, rfl⟩ := mem_next.mp made
    rcases (stack_mem_leavesBy placed unpruned).mp leaves with
      ⟨goes, up⟩ | ⟨goes, down⟩ | ⟨turns, back⟩
    · have ⟨present, reached⟩ := exists_upward_reaches.mp ⟨port, up, reaches⟩
      exact ⟨present, .inr (.inl ⟨goes, reached⟩)⟩
    · have ⟨present, reached⟩ := exists_downward_reaches.mp ⟨port, down, reaches⟩
      exact ⟨present, .inl ⟨goes, reached⟩⟩
    · obtain ⟨_, _, inPort, came⟩ := id turns
      cases came.1.symm.trans back
      have ⟨present, reached⟩ := (reaches_down came.2.1 came.2.2).mp reaches
      exact ⟨present, .inr (.inr ⟨turns, port, came, reached⟩)⟩
  · intro reached
    obtain ⟨present, ⟨goes, down⟩ | ⟨goes, up⟩ | ⟨turns, inPort, came, reached⟩⟩ := reached
    · obtain ⟨port, down, reaches⟩ := exists_downward_reaches.mpr ⟨present, down⟩
      have leaves := (stack_mem_leavesBy placed unpruned).mpr (.inr (.inl ⟨goes, down⟩))
      exact ⟨_, mem_next.mpr ⟨port, leaves, rfl⟩, reaches⟩
    · obtain ⟨port, up, reaches⟩ := exists_upward_reaches.mpr ⟨present, up⟩
      have leaves := (stack_mem_leavesBy placed unpruned).mpr (.inl ⟨goes, up⟩)
      exact ⟨_, mem_next.mpr ⟨port, leaves, rfl⟩, reaches⟩
    · have leaves := (stack_mem_leavesBy placed unpruned).mpr (.inr (.inr ⟨turns, came.1⟩))
      refine ⟨_, mem_next.mpr ⟨inPort, leaves, rfl⟩, ?_⟩
      exact (reaches_down came.2.1 came.2.2).mpr ⟨present, reached⟩

/-- **What a rule reaches** when the frames that it makes reach what they should. -/
theorem deliversOnce_of_leaves (mode : FloodMode) (placed : topology.Placed frame)
    (unpruned : topology.Unpruned .broadcast frame)
    (later : ∀ port, Port.stack port ∈ topology.leavesBy mode .broadcast frame →
      DeliversOnce (topology.next mode .broadcast) (topology.deliver mode .broadcast)
        [port.arrival frame.dp] (topology.Reaches mode (port.arrival frame.dp))) :
    DeliversOnce (topology.next mode .broadcast) (topology.deliver mode .broadcast) [frame]
      fun receiver => receiver.2 ∈ topology.hostPorts receiver.1 ∧
        topology.Spreads mode frame receiver := by
  have hop := DeliversOnce.of_next nodup_next nodup_deliver
    (fun frame' made => by
      obtain ⟨port, leaves, rfl⟩ := mem_next.mp made
      exact later port leaves)
    (next_disjoint placed unpruned) (next_deliver_disjoint placed unpruned)
  refine hop.congr fun receiver => ?_
  rw [exists_next_reaches placed unpruned, mem_deliver_iff placed unpruned]
  constructor
  · intro either
    rcases either with ⟨sameDp, goes, member, hairpin⟩ | ⟨present, elsewhere⟩
    · exact ⟨sameDp ▸ member, .inl ⟨goes, .inl ⟨sameDp, hairpin⟩⟩⟩
    · refine ⟨present, ?_⟩
      rcases elsewhere with ⟨goes, down⟩ | upOrBack
      · exact .inl ⟨goes, .inr down⟩
      · exact .inr upOrBack
  · intro reached
    obtain ⟨present, ⟨goes, ⟨sameDp, hairpin⟩ | down⟩ | upOrBack⟩ := reached
    · exact .inl ⟨sameDp, goes, sameDp ▸ present, hairpin⟩
    · exact .inr ⟨present, .inl ⟨goes, down⟩⟩
    · exact .inr ⟨present, .inr upOrBack⟩

/-! ## All rules -/

/-- A frame on a link that is pruned is dropped. -/
theorem deliversOnce_of_pruned (came : frame.inPort = .stack inPort)
    (pruned : topology.isPrunedPort frame.dp inPort = true)
    (nobody : ∀ receiver, ¬ topology.Reaches mode frame receiver) :
    DeliversOnce (topology.next mode .broadcast) (topology.deliver mode .broadcast) [frame]
      (topology.Reaches mode frame) := by
  have noPorts := leavesBy_eq_nil mode came pruned
  have noNext : topology.next mode .broadcast frame = [] := by
    rw [next, noPorts]
    rfl
  have noCopies : topology.deliver mode .broadcast frame = [] := by
    rw [deliver, noPorts]
    rfl
  exact ⟨_, Delivers.of_dropped noNext noCopies,
    fun receiver => ⟨fun reaches => absurd reaches (nobody receiver), fun _ => rfl⟩⟩

theorem deliversOnce_byChild_pruned (came : topology.ByChild frame inPort)
    (notMain : ¬ topology.IsMainLink inPort.peerDp (inPort.peer frame.dp)) :
    DeliversOnce (topology.next mode .broadcast) (topology.deliver mode .broadcast) [frame]
      (topology.Reaches mode frame) := by
  refine deliversOnce_of_pruned came.1 ((isPrunedPort_toChild came.2.1 came.2.2).mpr notMain) ?_
  exact fun receiver reaches => notMain ((reaches_byChild came).mp reaches).2.1

theorem deliversOnce_byParent_pruned (came : topology.ByParent frame inPort)
    (notMain : ¬ topology.IsMainLink frame.dp inPort) :
    DeliversOnce (topology.next mode .broadcast) (topology.deliver mode .broadcast) [frame]
      (topology.Reaches mode frame) := by
  refine deliversOnce_of_pruned came.1 ((isPrunedPort_toParent came.2.1 came.2.2).mpr notMain) ?_
  exact fun receiver reaches => notMain ((reaches_byParent came).mp reaches).2.1

theorem unpruned_byChild (came : topology.ByChild frame inPort)
    (isMain : topology.IsMainLink inPort.peerDp (inPort.peer frame.dp)) :
    topology.Unpruned .broadcast frame := by
  intro _ inPort' came'
  cases came.1.symm.trans came'
  rw [← Bool.not_eq_true, isPrunedPort_toChild came.2.1 came.2.2]
  exact not_not.mpr isMain

theorem unpruned_byParent (came : topology.ByParent frame inPort)
    (isMain : topology.IsMainLink frame.dp inPort) : topology.Unpruned .broadcast frame := by
  intro _ inPort' came'
  cases came.1.symm.trans came'
  rw [← Bool.not_eq_true, isPrunedPort_toParent came.2.1 came.2.2]
  exact not_not.mpr isMain

theorem spreads_byParent (came : topology.ByParent frame inPort)
    (isMain : topology.IsMainLink frame.dp inPort) :
    topology.Spreads mode frame receiver ↔ topology.tree.Above frame.dp receiver.1 := by
  rw [ParentTree.above_iff_self_or_child]
  constructor
  · intro spreads
    rcases spreads with ⟨_, ⟨sameDp, _⟩ | ⟨child, isChild, above, _⟩⟩ | ⟨_, ⟨port, isMain', notBack⟩, _⟩
      | ⟨_, port, came', _⟩
    · exact .inl sameDp
    · exact .inr ⟨child, isChild, above⟩
    · rw [came.1, isMain.unique isMain'] at notBack
      exact absurd rfl notBack
    · exact absurd came' came.not_byChild
  · intro either
    refine .inl ⟨.inr (.inr ⟨inPort, came⟩), ?_⟩
    rcases either with sameDp | ⟨child, isChild, above⟩
    · refine .inl ⟨sameDp, fun fromHost => ?_⟩
      exact absurd came (not_byParent_of_host fromHost)
    · refine .inr ⟨child, isChild, above, fun port came' => ?_⟩
      cases came.1.symm.trans came'
      -- The frame came from the parent, which is not a child.
      intro same
      subst same
      exact isChild.not_above came.2.2.above

theorem goesUp_iff (notFromParent : ∀ inPort, ¬ topology.ByParent frame inPort) :
    topology.GoesUp mode frame ↔ mode = .noReflection ∨ frame.dp ≠ topology.root :=
  or_congr_right (and_iff_left notFromParent)

theorem goesDown_iff (notFromParent : ∀ inPort, ¬ topology.ByParent frame inPort) :
    topology.GoesDown mode frame ↔ mode = .noReflection ∨ frame.dp = topology.root :=
  or_congr_right (or_iff_left fun fromParent => fromParent.elim notFromParent)

/-- From a child a frame goes everywhere else, in reflection mode everywhere. -/
theorem spreads_byChild (came : topology.ByChild frame inPort)
    (isMain : topology.IsMainLink inPort.peerDp (inPort.peer frame.dp)) :
    topology.Spreads mode frame receiver ↔
      (mode = .noReflection → ¬ topology.tree.Above inPort.peerDp receiver.1) := by
  have notFromParent : ∀ inPort, ¬ topology.ByParent frame inPort :=
    fun _ came' => came'.not_byChild came
  have isChild : topology.tree.IsChild inPort.peerDp frame.dp := came.2.2
  rw [Spreads, goesUp_iff notFromParent, goesDown_iff notFromParent]
  constructor
  · intro spreads straight
    rcases spreads with ⟨_, ⟨sameDp, _⟩ | ⟨child, isChild', above, notBack⟩⟩ | ⟨_, _, notAbove⟩
      | ⟨⟨reflects, _⟩, _⟩
    · rw [sameDp]
      exact isChild.not_above
    · exact fun above' => notBack inPort came.1 (isChild'.unique isChild above above')
    · exact fun above => notAbove straight (isChild.above.trans above)
    · cases straight.symm.trans reflects
  · intro elsewhere
    by_cases above : topology.tree.Above frame.dp receiver.1
    · by_cases down : mode = .noReflection ∨ frame.dp = topology.root
      · by_cases back : topology.tree.Above inPort.peerDp receiver.1
        · -- Only a reflection brings the frame back to the child.
          have reflects : mode = .reflection := by
            cases mode with
            | noReflection => exact absurd back (elsewhere rfl)
            | reflection => rfl
          have isRoot : frame.dp = topology.root := by
            rcases down with straight | isRoot
            · cases straight.symm.trans reflects
            · exact isRoot
          exact .inr (.inr ⟨⟨reflects, isRoot, inPort, came⟩, inPort, came, isMain, back⟩)
        · refine .inl ⟨down, ?_⟩
          rcases ParentTree.above_iff_self_or_child.mp above with sameDp | ⟨child, isChild', above'⟩
          · refine .inl ⟨sameDp, fun fromHost => ?_⟩
            cases fromHost.symm.trans came.1
          · refine .inr ⟨child, isChild', above', fun port came' => ?_⟩
            cases came.1.symm.trans came'
            intro same
            subst same
            exact back above'
      · rw [not_or] at down
        refine .inr (.inl ⟨.inr down.2, exists_mainLink_up notFromParent down.2, ?_⟩)
        exact fun straight => absurd straight down.1
    · have notRoot : frame.dp ≠ topology.root := by
        intro isRoot
        rw [isRoot] at above
        exact above (topology.tree.above_root receiver.1)
      exact .inr (.inl ⟨.inr notRoot, exists_mainLink_up notFromParent notRoot, fun _ => above⟩)

/-- From a host a frame goes everywhere else, in reflection mode everywhere unless the
host is at the root. -/
theorem spreads_byHost (came : frame.inPort = .host host) :
    topology.Spreads mode frame receiver ↔
      (mode = .noReflection ∨ frame.dp = topology.root → receiver.1 = frame.dp →
        frame.inPort = .host receiver.2 → receiver.2.hairpin = true) := by
  have notFromParent : ∀ inPort, ¬ topology.ByParent frame inPort :=
    fun _ => not_byParent_of_host came
  rw [Spreads, goesUp_iff notFromParent, goesDown_iff notFromParent]
  constructor
  · intro spreads down sameDp
    rcases spreads with ⟨_, ⟨_, hairpin⟩ | ⟨child, isChild, above, _⟩⟩ | ⟨_, ⟨port, isMain, _⟩, notAbove⟩
      | ⟨⟨_, _, port, came'⟩, _⟩
    · exact hairpin
    · rw [sameDp] at above
      exact absurd above isChild.not_above
    · rcases down with straight | isRoot
      · rw [sameDp] at notAbove
        exact absurd .refl (notAbove straight)
      · exact absurd isRoot isMain.2.1.1
    · exact absurd came' (not_byChild_of_host came)
  · intro hairpin
    by_cases down : mode = .noReflection ∨ frame.dp = topology.root
    · by_cases above : topology.tree.Above frame.dp receiver.1
      · refine .inl ⟨down, ?_⟩
        rcases ParentTree.above_iff_self_or_child.mp above with sameDp | ⟨child, isChild, above'⟩
        · exact .inl ⟨sameDp, hairpin down sameDp⟩
        · refine .inr ⟨child, isChild, above', fun port fromStack => ?_⟩
          cases fromStack.symm.trans came
      · have notRoot : frame.dp ≠ topology.root := by
          intro isRoot
          rw [isRoot] at above
          exact above (topology.tree.above_root receiver.1)
        exact .inr (.inl ⟨.inr notRoot, exists_mainLink_up notFromParent notRoot, fun _ => above⟩)
    · rw [not_or] at down
      refine .inr (.inl ⟨.inr down.2, exists_mainLink_up notFromParent down.2, ?_⟩)
      exact fun straight => absurd straight down.1

/-- **Down the tree**: a broadcast from the parent reaches what is below. -/
theorem deliversOnce_byParent [Finite Dp] (dp : Dp) (inPort : StackPort Dp)
    (came : topology.ByParent ⟨dp, .stack inPort⟩ inPort) :
    DeliversOnce (topology.next mode .broadcast) (topology.deliver mode .broadcast)
      [⟨dp, .stack inPort⟩] (topology.Reaches mode ⟨dp, .stack inPort⟩) := by
  induction dp using topology.tree.induction_down generalizing inPort with
  | step dp ih =>
      by_cases isMain : topology.IsMainLink dp inPort
      · have placed : topology.Placed ⟨dp, .stack inPort⟩ := .byParent inPort came
        have unpruned := unpruned_byParent came isMain
        have swept := deliversOnce_of_leaves mode placed unpruned ?_
        · refine swept.congr fun receiver => ?_
          rw [reaches_byParent came]
          refine and_congr_right fun _ => ?_
          rw [spreads_byParent came isMain]
          exact (and_iff_right isMain).symm
        · intro port leaves
          obtain ⟨member, either⟩ := leaves_cases placed unpruned leaves
          rcases either with ⟨_, isChild, notBack⟩ | ⟨_, isChild⟩
          · refine deliversOnce_byChild_pruned (arrival_byChild member isChild) fun isMain' => ?_
            exact notBack (congrArg Port.stack (isMain.unique isMain'))
          · exact ih port.peerDp isChild _ (arrival_byParent member isChild)
      · exact deliversOnce_byParent_pruned came isMain

/-- **Up the tree**: a broadcast from a child reaches everything else, in reflection mode
everything. -/
theorem deliversOnce_byChild [Finite Dp] (dp : Dp) (inPort : StackPort Dp)
    (came : topology.ByChild ⟨dp, .stack inPort⟩ inPort) :
    DeliversOnce (topology.next mode .broadcast) (topology.deliver mode .broadcast)
      [⟨dp, .stack inPort⟩] (topology.Reaches mode ⟨dp, .stack inPort⟩) := by
  induction dp using topology.tree.induction_up generalizing inPort with
  | step dp ih =>
      by_cases isMain : topology.IsMainLink inPort.peerDp (inPort.peer dp)
      · have placed : topology.Placed ⟨dp, .stack inPort⟩ := .byChild inPort came
        have unpruned := unpruned_byChild came isMain
        have swept := deliversOnce_of_leaves mode placed unpruned ?_
        · refine swept.congr fun receiver => ?_
          rw [reaches_byChild came]
          refine and_congr_right fun _ => ?_
          rw [spreads_byChild came isMain]
          exact (and_iff_right isMain).symm
        · intro port leaves
          obtain ⟨member, either⟩ := leaves_cases placed unpruned leaves
          rcases either with ⟨_, isChild, _⟩ | ⟨_, isChild⟩
          · have arrives := arrival_byChild member isChild
            have later := ih isChild.1 (port.peer dp)
            rw [isChild.2] at later
            exact later arrives
          · exact deliversOnce_byParent _ _ (arrival_byParent member isChild)
      · exact deliversOnce_byChild_pruned came isMain

/-- **A broadcast from a host** reaches every host once, but for the host itself. -/
theorem deliversOnce_byHost [Finite Dp] (topology : Topology Dp) (mode : FloodMode) (dp : Dp)
    (host : HostPort) :
    DeliversOnce (topology.next mode .broadcast) (topology.deliver mode .broadcast)
      [⟨dp, .host host⟩] fun receiver => receiver.2 ∈ topology.hostPorts receiver.1 ∧
        (mode = .noReflection ∨ dp = topology.root → receiver = (dp, host) →
          host.hairpin = true) := by
  have placed : topology.Placed ⟨dp, .host host⟩ := .byHost host rfl
  have unpruned : topology.Unpruned .broadcast ⟨dp, .host host⟩ := nofun
  have swept := deliversOnce_of_leaves mode placed unpruned ?_
  · refine swept.congr fun receiver => and_congr_right fun _ => ?_
    rw [spreads_byHost rfl]
    refine forall_congr' fun _ => ?_
    constructor
    · intro hairpin same
      cases same
      exact hairpin rfl rfl
    · intro hairpin sameDp sameHost
      cases sameHost
      exact hairpin (Prod.ext sameDp rfl)
  · intro port leaves
    obtain ⟨member, either⟩ := leaves_cases placed unpruned leaves
    rcases either with ⟨_, isChild, _⟩ | ⟨_, isChild⟩
    · exact deliversOnce_byChild _ _ (arrival_byChild member isChild)
    · exact deliversOnce_byParent _ _ (arrival_byParent member isChild)

/-- **Every other host gets a broadcast once**, in both modes: the flood stops, and the
host it came from gets at most one copy, none unless it is reflected or hairpinned. -/
theorem broadcast_exactly_once [Finite Dp] (topology : Topology Dp) (mode : FloodMode) (dp : Dp)
    (host : HostPort) (member : host ∈ topology.hostPorts dp) :
    ∃ hops, flood (topology.next mode .broadcast) [⟨dp, .host host⟩] hops = [] ∧
      (∀ other, ∀ host' ∈ topology.hostPorts other, (other, host') ≠ (dp, host) →
        copies (topology.next mode .broadcast) (topology.deliver mode .broadcast)
          [⟨dp, .host host⟩] (other, host') hops = 1) ∧
      copies (topology.next mode .broadcast) (topology.deliver mode .broadcast)
        [⟨dp, .host host⟩] (dp, host) hops =
          if (mode = .noReflection ∨ dp = topology.root) ∧ host.hairpin = false then 0 else 1 := by
  obtain ⟨count, ⟨hops, stopped, counts⟩, once⟩ :=
    deliversOnce_byHost topology mode dp host
  refine ⟨hops, stopped, fun other host' member' different => ?_, ?_⟩
  · rw [counts]
    exact (once _).1 ⟨member', fun _ same => absurd same different⟩
  · rw [counts]
    split
    next kept =>
      refine (once _).2 fun reached => ?_
      have hairpin := reached.2 kept.1 rfl
      rw [kept.2] at hairpin
      cases hairpin
    next reflected =>
      refine (once _).1 ⟨member, fun down _ => ?_⟩
      by_contra noHairpin
      exact reflected ⟨down, Bool.eq_false_iff.mpr noHairpin⟩

/-- In the star, from a host of a datapath below the root, with reflection. -/
theorem broadcast_exactly_once_star :
    ∃ hops, flood (star.next .reflection .broadcast) [⟨1, .host ⟨5, false, true⟩⟩] hops = [] ∧
      (∀ other, ∀ host' ∈ star.hostPorts other, (other, host') ≠ (1, ⟨5, false, true⟩) →
        copies (star.next .reflection .broadcast) (star.deliver .reflection .broadcast)
          [⟨1, .host ⟨5, false, true⟩⟩] (other, host') hops = 1) ∧
      copies (star.next .reflection .broadcast) (star.deliver .reflection .broadcast)
        [⟨1, .host ⟨5, false, true⟩⟩] (1, ⟨5, false, true⟩) hops =
          if (FloodMode.reflection = .noReflection ∨ (1 : Fin 3) = star.root) ∧ false = false
            then 0 else 1 :=
  broadcast_exactly_once star .reflection 1 ⟨5, false, true⟩ (List.mem_singleton_self _)

end Faucet.Stack.Topology
