import Faucet.Stack.Forwarding

/-!
# Destinations that are not known

A frame to a destination that nobody has learned is not dropped at the pruned ports,
and a datapath with two links to its parent sends what comes by one of them back by
the other. With reflection that does not happen, since a frame from the parent only
goes down. Without reflection such a frame is spread again from the parent, and comes
back when there is another such datapath that is neither above nor below: then the
flood does not stop (`stops_iff`).
-/

set_option autoImplicit false

namespace Faucet.Stack.Topology

open Flood

variable {Dp : Type} [LinearOrder Dp] {topology : Topology Dp} {mode : FloodMode}
  {frame frame' : Frame Dp} {port inPort : StackPort Dp} {host : HostPort} {dp bundle : Dp}

/-- There are two links to the parent. -/
def IsBundled (topology : Topology Dp) (dp : Dp) : Prop :=
  ∃ first ∈ topology.stackPorts dp, ∃ second ∈ topology.stackPorts dp, first ≠ second ∧
    topology.tree.IsChild dp first.peerDp ∧ topology.tree.IsChild dp second.peerDp

/-- The datapaths with two links to their parents are on one way to the root. -/
def BundlesInLine (topology : Topology Dp) : Prop :=
  ∀ one two, topology.IsBundled one → topology.IsBundled two →
    topology.tree.Above one two ∨ topology.tree.Above two one

theorem unpruned_unicast : topology.Unpruned .unicast frame := nofun

/-- A flood stops when it stops over every link that the frame leaves by. Without
reflection it does not go back to the child that it came from. -/
theorem stops_of_leaves (placed : topology.Placed frame)
    (up : topology.GoesUp mode frame → ∀ port ∈ topology.stackPorts frame.dp,
      topology.tree.IsChild frame.dp port.peerDp → frame.inPort ≠ .stack port →
        Stops (topology.next mode .unicast) [port.arrival frame.dp])
    (down : ∀ port ∈ topology.stackPorts frame.dp, topology.tree.IsChild port.peerDp frame.dp →
      (mode = .noReflection → ∀ inPort, frame.inPort = .stack inPort →
        port.peerDp ≠ inPort.peerDp) →
        Stops (topology.next mode .unicast) [port.arrival frame.dp]) :
    Stops (topology.next mode .unicast) [frame] := by
  refine stops_of_next fun frame' made => ?_
  obtain ⟨port, leaves, rfl⟩ := mem_next.mp made
  rcases (stack_mem_leavesBy placed unpruned_unicast).mp leaves with
    ⟨goes, upward⟩ | ⟨_, downward⟩ | ⟨turns, back⟩
  · exact up goes port upward.1 upward.2.1 upward.2.2
  · exact down port downward.1 downward.2.1 fun _ => downward.2.2
  · obtain ⟨reflects, _, inPort, came⟩ := turns
    cases came.1.symm.trans back
    refine down port came.2.1 came.2.2 fun straight => ?_
    cases straight.symm.trans reflects

/-! ## With reflection -/

theorem stops_reflection_byParent [Finite Dp] (dp : Dp) (inPort : StackPort Dp)
    (came : topology.ByParent ⟨dp, .stack inPort⟩ inPort) :
    Stops (topology.next .reflection .unicast) [⟨dp, .stack inPort⟩] := by
  induction dp using topology.tree.induction_down generalizing inPort with
  | step dp ih =>
      apply stops_of_leaves (.byParent inPort came)
      · intro goes
        rcases goes with straight | ⟨_, notFromParent⟩
        · cases straight
        · exact absurd came (notFromParent inPort)
      · intro port member isChild _
        exact ih port.peerDp isChild _ (arrival_byParent member isChild)

theorem stops_reflection_byChild [Finite Dp] (dp : Dp) (inPort : StackPort Dp)
    (came : topology.ByChild ⟨dp, .stack inPort⟩ inPort) :
    Stops (topology.next .reflection .unicast) [⟨dp, .stack inPort⟩] := by
  induction dp using topology.tree.induction_up generalizing inPort with
  | step dp ih =>
      apply stops_of_leaves (.byChild inPort came)
      · intro _ port member isChild _
        have later := ih isChild.1 (port.peer dp)
        rw [isChild.2] at later
        exact later (arrival_byChild member isChild)
      · intro port member isChild _
        exact stops_reflection_byParent _ _ (arrival_byParent member isChild)

/-! ## Without reflection, bundles in line -/

/-- Where no datapath below has two links to its parent, a frame only goes down. -/
theorem stops_below [Finite Dp] (dp : Dp) (inPort : StackPort Dp)
    (came : topology.ByParent ⟨dp, .stack inPort⟩ inPort)
    (single : ∀ bundle, topology.IsBundled bundle → ¬ topology.tree.Above dp bundle) :
    Stops (topology.next mode .unicast) [⟨dp, .stack inPort⟩] := by
  induction dp using topology.tree.induction_down generalizing inPort with
  | step dp ih =>
      apply stops_of_leaves (.byParent inPort came)
      · intro _ port member isChild notBack
        refine absurd .refl (single dp ?_)
        refine ⟨inPort, came.2.1, port, member, ?_, came.2.2, isChild⟩
        exact fun same => notBack (congrArg Port.stack same)
      · intro port member isChild _
        refine ih port.peerDp isChild _ (arrival_byParent member isChild) fun bundle bundled => ?_
        exact fun above => single bundle bundled (isChild.above.trans above)

/-- What comes from a child meets no bundle on its other ways down, when all of them are
above or below the child. -/
theorem stops_beside [Finite Dp] (dp : Dp) (inPort : StackPort Dp)
    (came : topology.ByChild ⟨dp, .stack inPort⟩ inPort)
    (inLine : ∀ bundle, topology.IsBundled bundle →
      topology.tree.Above bundle inPort.peerDp ∨ topology.tree.Above inPort.peerDp bundle) :
    Stops (topology.next .noReflection .unicast) [⟨dp, .stack inPort⟩] := by
  induction dp using topology.tree.induction_up generalizing inPort with
  | step dp ih =>
      have isChild : topology.tree.IsChild inPort.peerDp dp := came.2.2
      apply stops_of_leaves (.byChild inPort came)
      · intro _ port member isChild' _
        have later := ih isChild'.1 (port.peer dp)
        rw [isChild'.2] at later
        refine later (arrival_byChild member isChild') fun bundle bundled => ?_
        rcases inLine bundle bundled with above | below
        · by_cases same : bundle = inPort.peerDp
          · rw [same]
            exact .inr isChild.above
          · obtain ⟨_, higher⟩ := above.parent same
            rw [isChild.2] at higher
            exact .inl higher
        · exact .inr (isChild.above.trans below)
      · intro port member isChild' notBack
        refine stops_below _ _ (arrival_byParent member isChild') fun bundle bundled above => ?_
        have different : port.peerDp ≠ inPort.peerDp := notBack rfl inPort rfl
        rcases inLine bundle bundled with higher | below
        · have onTheWay := above.trans higher
          exact different (isChild'.unique isChild onTheWay .refl)
        · exact different (isChild'.unique isChild above below)

theorem stops_inLine_byParent [Finite Dp] (inLine : topology.BundlesInLine) (dp : Dp)
    (inPort : StackPort Dp) (came : topology.ByParent ⟨dp, .stack inPort⟩ inPort) :
    Stops (topology.next .noReflection .unicast) [⟨dp, .stack inPort⟩] := by
  induction dp using topology.tree.induction_down generalizing inPort with
  | step dp ih =>
      apply stops_of_leaves (.byParent inPort came)
      · intro _ port member isChild notBack
        -- The frame goes back by another link, so that the datapath is one of the bundles.
        have bundled : topology.IsBundled dp := by
          refine ⟨inPort, came.2.1, port, member, ?_, came.2.2, isChild⟩
          exact fun same => notBack (congrArg Port.stack same)
        refine stops_beside _ _ (arrival_byChild member isChild) fun bundle bundled' => ?_
        exact inLine bundle dp bundled' bundled
      · intro port member isChild _
        exact ih port.peerDp isChild _ (arrival_byParent member isChild)

theorem stops_inLine_byChild [Finite Dp] (inLine : topology.BundlesInLine) (dp : Dp)
    (inPort : StackPort Dp) (came : topology.ByChild ⟨dp, .stack inPort⟩ inPort) :
    Stops (topology.next .noReflection .unicast) [⟨dp, .stack inPort⟩] := by
  induction dp using topology.tree.induction_up generalizing inPort with
  | step dp ih =>
      apply stops_of_leaves (.byChild inPort came)
      · intro _ port member isChild _
        have later := ih isChild.1 (port.peer dp)
        rw [isChild.2] at later
        exact later (arrival_byChild member isChild)
      · intro port member isChild _
        exact stops_inLine_byParent inLine _ _ (arrival_byParent member isChild)

/-- **A flood from a host stops** with reflection, and when the bundles are in line. -/
theorem stops_byHost [Finite Dp] (stopsBy : mode = .reflection ∨ topology.BundlesInLine) :
    Stops (topology.next mode .unicast) [⟨dp, .host host⟩] := by
  apply stops_of_leaves (.byHost host rfl)
  · intro _ port member isChild _
    cases mode with
    | reflection => exact stops_reflection_byChild _ _ (arrival_byChild member isChild)
    | noReflection =>
        exact stops_inLine_byChild (stopsBy.resolve_left nofun) _ _ (arrival_byChild member isChild)
  · intro port member isChild _
    cases mode with
    | reflection => exact stops_reflection_byParent _ _ (arrival_byParent member isChild)
    | noReflection =>
        exact stops_inLine_byParent (stopsBy.resolve_left nofun) _ _ (arrival_byParent member isChild)

/-! ## Without reflection, bundles apart -/

/-- A bundle with another one that is neither above nor below. -/
def IsApart (topology : Topology Dp) (bundle : Dp) : Prop :=
  topology.IsBundled bundle ∧ ∃ other, topology.IsBundled other ∧
    ¬ topology.tree.Above bundle other ∧ ¬ topology.tree.Above other bundle

/-- A frame that is on its way to a bundle apart from others. -/
def GoesOn (topology : Topology Dp) (frame : Frame Dp) : Prop :=
  ∃ bundle, topology.IsApart bundle ∧
    ((∃ inPort, topology.ByParent frame inPort ∧ topology.tree.Above frame.dp bundle) ∨
      (∃ inPort, topology.ByChild frame inPort ∧ ¬ topology.tree.Above inPort.peerDp bundle) ∨
      ∃ host, frame.inPort = .host host)

theorem IsApart.exists_other (apart : topology.IsApart bundle) :
    ∃ other, topology.IsApart other ∧ ¬ topology.tree.Above bundle other := by
  obtain ⟨bundled, other, bundled', notAbove, notBelow⟩ := apart
  exact ⟨other, ⟨bundled', bundle, bundled, notBelow, notAbove⟩, notAbove⟩

/-- Of two links to the parent a frame has not come by one. -/
theorem IsBundled.exists_upward (bundled : topology.IsBundled frame.dp) :
    ∃ port, topology.Upward frame port := by
  obtain ⟨first, member, second, member', different, isChild, isChild'⟩ := bundled
  by_cases back : frame.inPort = .stack first
  · refine ⟨second, member', isChild', fun back' => different ?_⟩
    exact Port.stack.inj (back.symm.trans back')
  · exact ⟨first, member, isChild, back⟩

theorem GoesOn.placed (goesOn : topology.GoesOn frame) : topology.Placed frame := by
  obtain ⟨_, _, ⟨inPort, came, _⟩ | ⟨inPort, came, _⟩ | ⟨host, came⟩⟩ := goesOn
  · exact .byParent inPort came
  · exact .byChild inPort came
  · exact .byHost host came

/-- **It goes on**: down to the bundle, back up from it, or up until the bundle is below. -/
theorem GoesOn.exists_next (goesOn : topology.GoesOn frame) :
    ∃ frame' ∈ topology.next .noReflection .unicast frame, topology.GoesOn frame' := by
  have placed := goesOn.placed
  have upward : ∀ port, topology.Upward frame port → ∀ bundle, topology.IsApart bundle →
      ¬ topology.tree.Above frame.dp bundle →
      ∃ frame' ∈ topology.next .noReflection .unicast frame, topology.GoesOn frame' := by
    intro port up bundle apart notAbove
    have leaves := (stack_mem_leavesBy placed unpruned_unicast).mpr (.inl ⟨.inl rfl, up⟩)
    refine ⟨_, mem_next.mpr ⟨port, leaves, rfl⟩, bundle, apart, .inr (.inl ?_)⟩
    exact ⟨_, arrival_byChild up.1 up.2.1, notAbove⟩
  obtain ⟨bundle, apart, place⟩ := id goesOn
  by_cases above : topology.tree.Above frame.dp bundle
  · rcases ParentTree.above_iff_self_or_child.mp above with rfl | ⟨child, isChild, below⟩
    · obtain ⟨port, up⟩ := apart.1.exists_upward
      obtain ⟨other, apart', notAbove⟩ := apart.exists_other
      exact upward port up other apart' notAbove
    · have notBack : ∀ inPort, frame.inPort = .stack inPort → child ≠ inPort.peerDp := by
        intro inPort came same
        subst same
        rcases place with ⟨_, came', _⟩ | ⟨_, came', notAbove⟩ | ⟨_, came'⟩
        · cases came'.1.symm.trans came
          exact isChild.not_above came'.2.2.above
        · cases came'.1.symm.trans came
          exact notAbove below
        · cases came'.symm.trans came
      obtain ⟨port, member, rfl, _⟩ := exists_port_to_child isChild
      have leaves := (stack_mem_leavesBy placed unpruned_unicast).mpr
        (.inr (.inl ⟨.inl rfl, member, isChild, notBack⟩))
      refine ⟨_, mem_next.mpr ⟨port, leaves, rfl⟩, bundle, apart, .inl ?_⟩
      exact ⟨_, arrival_byParent member isChild, below⟩
  · have notRoot : frame.dp ≠ topology.root := by
      intro isRoot
      rw [isRoot] at above
      exact above (topology.tree.above_root bundle)
    have notFromParent : ∀ inPort, ¬ topology.ByParent frame inPort := by
      intro inPort came
      rcases place with ⟨_, _, above'⟩ | ⟨_, came', _⟩ | ⟨_, came'⟩
      · exact above above'
      · exact came.not_byChild came'
      · exact not_byParent_of_host came' came
    obtain ⟨port, isMain, notBack⟩ := exists_mainLink_up notFromParent notRoot
    exact upward port ⟨isMain.1, isMain.2.1, notBack⟩ bundle apart above

/-- **A flood from a host does not stop** without reflection when two bundles are apart. -/
theorem not_stops_byHost (apart : topology.IsApart bundle) :
    ¬ Stops (topology.next .noReflection .unicast) [⟨dp, .host host⟩] := by
  refine not_stops_of_closed topology.GoesOn ?_ (List.mem_singleton_self _) ?_
  · exact fun frame goesOn => goesOn.exists_next
  · exact ⟨bundle, apart, .inr (.inr ⟨host, rfl⟩)⟩

/-- **When the flood of a destination that is not known stops**: with reflection always,
and without it exactly when no two datapaths with two links to their parents are apart. -/
theorem stops_iff [Finite Dp] (topology : Topology Dp) (mode : FloodMode) (dp : Dp)
    (host : HostPort) :
    Stops (topology.next mode .unicast) [⟨dp, .host host⟩] ↔
      mode = .reflection ∨ topology.BundlesInLine := by
  refine ⟨fun stops => ?_, stops_byHost⟩
  cases mode with
  | reflection => exact .inl rfl
  | noReflection =>
      refine .inr fun one two bundled bundled' => ?_
      by_contra neither
      rw [not_or] at neither
      exact not_stops_byHost ⟨bundled, two, bundled', neither.1, neither.2⟩ stops

theorem stops_iff_star : Stops (star.next .reflection .unicast) [⟨1, .host ⟨5, false, true⟩⟩] ↔
    FloodMode.reflection = .reflection ∨ star.BundlesInLine :=
  stops_iff star .reflection 1 ⟨5, false, true⟩

/-! ## The star -/

theorem path_star (dp : Fin 3) : star.paths.path dp = starPath dp 0 := by
  have only : star.allShortestPaths dp star.root = [starPath dp 0] := rfl
  have sorted : star.paths.path dp = ((star.allShortestPaths dp star.root).mergeSort
      fun first second => first ≤ second).headD [] := rfl
  rw [sorted, only, List.mergeSort_singleton]
  rfl

theorem isChild_star {dp : Fin 3} (notRoot : dp ≠ 0) : star.tree.IsChild dp 0 := by
  have parent : star.tree.parent dp = ((star.paths.path dp)[1]?).getD dp := rfl
  refine ⟨notRoot, ?_⟩
  rw [parent, path_star]
  clear parent
  revert dp
  decide

theorem isBundled_star {dp : Fin 3} (notRoot : dp ≠ 0) : star.IsBundled dp := by
  have ports : ∀ dp : Fin 3, dp ≠ 0 → ∃ first ∈ star.stackPorts dp, ∃ second ∈ star.stackPorts dp,
      first ≠ second ∧ first.peerDp = 0 ∧ second.peerDp = 0 := by
    decide
  obtain ⟨first, member, second, member', different, toRoot, toRoot'⟩ := ports dp notRoot
  refine ⟨first, member, second, member', different, ?_, ?_⟩
  · rw [toRoot]
    exact isChild_star notRoot
  · rw [toRoot']
    exact isChild_star notRoot

/-- **In the star a flood does not stop** without reflection. -/
theorem not_stops_star :
    ¬ Stops (star.next .noReflection .unicast) [⟨1, .host ⟨5, false, true⟩⟩] := by
  have apart : star.IsApart 1 := by
    refine ⟨isBundled_star (by decide), 2, isBundled_star (by decide), ?_, ?_⟩
    · rw [star.paths.above_iff, path_star]
      decide
    · rw [star.paths.above_iff, path_star]
      decide
  exact not_stops_byHost apart

end Faucet.Stack.Topology
