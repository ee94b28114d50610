import Faucet.Stack.RuleEffects

/-!
# Only the last messages are sent

Every valve that sees a stack port change makes messages for all datapaths that are running,
and of those for one datapath only the messages of the last valve are sent
(`valve_flow_services`).

What they leave in the switch differs from what all of them would leave by rules of ports of
a VLAN alone: by those that the last messages pass over, because under the last topology the
port has nothing to flood to, and that an earlier message has installed or deleted
(`agree_iff_undisturbed`).
-/

set_option autoImplicit false

namespace Faucet.Stack

open OpenFlow
open Flooding (FloodDst)

namespace Stacked

variable {Dp E : Type} [LinearOrder Dp] [LinearOrder E] (stack : Stacked Dp E)

/-! ## What is sent -/

/-- The messages that one valve makes for a datapath. -/
def ofmsgsOf (self : Dp) (outcome : Fabric.Outcome Dp E) : Option (List Ofmsg) :=
  if self ∈ outcome.recipients then some (stack.ofmsgs self (stack.view self outcome.nodes))
  else none

/-- `ofmsgs_by_valve` after the loop: the messages of a later valve replace those of an earlier
one. -/
def ofmsgsByValve (outcomes : List (Fabric.Outcome Dp E)) (self : Dp) : Option (List Ofmsg) :=
  outcomes.foldl (fun kept outcome => (stack.ofmsgsOf self outcome).or kept) none

/-- The messages of all valves, in the order in which they are made. -/
def produced (outcomes : List (Fabric.Outcome Dp E)) (self : Dp) : List (List Ofmsg) :=
  outcomes.filterMap (stack.ofmsgsOf self)

/-- The distances at which messages are made for a datapath. -/
def views (outcomes : List (Fabric.Outcome Dp E)) (self : Dp) : List (View E) :=
  outcomes.filterMap fun outcome =>
    if self ∈ outcome.recipients then some (stack.view self outcome.nodes) else none

/-- A flood rule about which the last messages say nothing is before as the last of the earlier
ones that say something about it would have it. -/
def Undisturbed (self : Dp) (views : List (View E)) (switch : Switch) : Prop :=
  ∀ flow, flow.tableId = (stack.node self).floodTable →
    ∀ view ∈ views.getLast?, stack.decision self view flow = none →
      ∀ decided ∈ (views.dropLast.filterMap fun view => stack.decision self view flow).getLast?,
        switch.flows flow = decided

variable {stack} {self : Dp} {outcomes : List (Fabric.Outcome Dp E)}

theorem produced_eq :
    stack.produced outcomes self = (stack.views outcomes self).map (stack.ofmsgs self) := by
  rw [produced, views, List.map_filterMap]
  refine List.filterMap_congr fun outcome _ => ?_
  rw [ofmsgsOf]
  split <;> rfl

/-- What is kept is what was made last. -/
theorem ofmsgsByValve_eq :
    stack.ofmsgsByValve outcomes self = (stack.produced outcomes self).getLast? := by
  rw [ofmsgsByValve, produced]
  induction outcomes using List.reverseRecOn with
  | nil => rfl
  | append_singleton outcomes outcome ih =>
      rw [List.foldl_append, List.foldl_cons, List.foldl_nil, ih, List.filterMap_append]
      cases made : stack.ofmsgsOf self outcome with
      | none => simp [made]
      | some ofmsgs => simp [made]

/-! ## What becomes of a flow -/

section Flow

variable {views : List (View E)} {view : View E} {switch before everything kept : Switch}
  {flow : FlowId}

/-- A filter that is applied again and again. -/
theorem filter_foldl {α ι : Type} (keep : α → Bool) (indices : List ι) (current : Option α) :
    (indices.foldl (fun current _ => current.filter keep) current).filter keep =
      current.filter keep := by
  induction indices generalizing current with
  | nil => rfl
  | cons i rest ih =>
      rw [List.foldl_cons, ih]
      cases current with
      | none => rfl
      | some value => by_cases keep value = true <;> simp [*]

/-- Of values that are set one after the other the last one stays. -/
theorem foldl_getD {α ι : Type} (decide : ι → Option α) (indices : List ι) (start : α) :
    indices.foldl (fun current i => (decide i).getD current) start =
      (indices.filterMap decide).getLast?.getD start := by
  induction indices using List.reverseRecOn with
  | nil => rfl
  | append_singleton rest i ih =>
      rw [List.foldl_append, List.foldl_cons, List.foldl_nil, ih, List.filterMap_append]
      cases decided : decide i with
      | none => simp [decided]
      | some value => simp [decided]

section

variable (plain : Plain stack self switch)
  (all : GetsAll switch (views.map (stack.ofmsgs self)) before)
  (gets : before.Gets (stack.ofmsgs self view) everything)
  (getsLast : switch.Gets (stack.ofmsgs self view) kept)
include plain all gets getsLast

/-- **A flow of another table** is in the end what the last messages make of it. -/
theorem agree_of_otherTables (ofTables : flow.tableId ∈ (stack.node self).otherTables) :
    everything.flows flow = kept.flows flow := by
  classical
  have batch : ∀ view : View E, AddsAndDeletes flow.tableId (stack.node self).flowCookie
      (stack.ofmsgs self view) := fun _ => addsAndDeletes (.inr ofTables)
  by_cases isFilter : stack.IsFilterFlow self flow
  · exact (batch view).flows_eq_of_decides rfl (decides_of_isFilterFlow isFilter) gets getsLast
  · by_cases adds : Adds (stack.fixedOfmsgs self) flow
    · exact (batch view).flows_eq_of_decides rfl
        (.inl ((adds_iff_fixed ofTables isFilter).mpr adds)) gets getsLast
    · have notVlan : ¬ stack.IsVlanFlow self flow := by
        rintro ⟨_, _, _, _, rfl⟩
        exact stack.floodApart self ofTables
      -- every batch removes the same entries of such a flow
      let keep : FlowEntry → Bool := fun entry => !decide (∃ port ∈ stack.stackPorts self,
        ∃ mod ∈ stack.delHostFlows self port, mod.removes flow entry = true ∧
          ¬ Readded (stack.fixedOfmsgs self) (.flowMod mod))
      have one : ∀ view, ∀ switch next : Switch, Plain stack self switch →
          switch.Gets (stack.ofmsgs self view) next →
          next.flows flow = (switch.flows flow).filter keep := by
        intro view switch next plain gets
        obtain ⟨gone, isGone, flows⟩ := (batch view).flows_of_not_adds rfl
          (fun added => adds ((adds_iff_fixed ofTables isFilter).mp added)) gets
        rw [flows]
        cases present : switch.flows flow with
        | none => rfl
        | some entry =>
            have keeps : (!gone entry) = keep entry := by
              refine congrArg Bool.not (Bool.eq_iff_iff.mpr ?_)
              rw [isGone, removedLinked_iff ofTables isFilter
                (plain flow (.inr ofTables) notVlan entry present), decide_eq_true_iff]
            simp only [Option.filter, keeps]
      obtain ⟨still, flows⟩ := GetsAll.flows_eq_foldl (fun _ current => current.filter keep)
        (fun _ _ _ plain gets => plain.of_gets gets) one plain all
      rw [one view before everything still gets, one view switch kept plain getsLast, flows,
        filter_foldl]

/-- **A flow of the flood table** is what it is made of last, unless the last messages say
nothing about it. -/
theorem agree_iff_of_floodTable (inTable : flow.tableId = (stack.node self).floodTable) :
    everything.flows flow = kept.flows flow ↔
      (stack.decision self view flow = none →
        ∀ decided ∈ (views.filterMap fun view => stack.decision self view flow).getLast?,
          switch.flows flow = decided) := by
  by_cases always : stack.IsVlanFlow self flow ∨ stack.IsStackFlow self flow
  · have batch : AddsAndDeletes (stack.node self).floodTable (stack.node self).flowCookie
        (stack.ofmsgs self view) := addsAndDeletes (.inl rfl)
    have adds : Adds (stack.ofmsgs self view) flow := by
      rcases always with isVlan | isStack
      · exact adds_of_isVlanFlow isVlan
      · exact adds_of_isStackFlow isStack
    have undecided : (views.filterMap fun view => stack.decision self view flow) = [] :=
      List.filterMap_eq_nil_iff.mpr fun _ _ => decision_of_always always
    rw [undecided]
    exact iff_of_true (batch.flows_eq_of_decides inTable (.inl adds) gets getsLast) nofun
  · obtain ⟨notVlan, notStack⟩ := not_or.mp always
    have one : ∀ view, ∀ switch next : Switch, Plain stack self switch →
        switch.Gets (stack.ofmsgs self view) next →
        next.flows flow = (stack.decision self view flow).getD (switch.flows flow) :=
      fun _ _ _ plain gets => flows_of_floodTable inTable notVlan notStack
        (plain flow (.inl inTable) notVlan) gets
    obtain ⟨still, flows⟩ := GetsAll.flows_eq_foldl
      (fun view current => (stack.decision self view flow).getD current)
      (fun _ _ _ plain gets => plain.of_gets gets) one plain all
    rw [one view before everything still gets, one view switch kept plain getsLast, flows,
      foldl_getD]
    cases stack.decision self view flow with
    | some decided => exact iff_of_true rfl nofun
    | none =>
        cases (views.filterMap fun view => stack.decision self view flow).getLast? with
        | none => exact iff_of_true rfl nofun
        | some decided => simp [eq_comm]

end

end Flow

/-! ## One tick -/

/-- **What the kept messages leave is what all messages would leave exactly if the flood rules
that the kept ones pass over are undisturbed**: after a tick of `fast_state_expire`, whatever
ports have changed, in whatever order the valves are taken. -/
theorem agree_iff_undisturbed {order : ValveOrder Dp} {now : ℚ} {valves : List Dp}
    {nodes : Nodes Dp E} {switch everything kept : Switch}
    (_ticks : stack.valveFlowServices order now valves nodes = some outcomes)
    (plain : Plain stack self switch)
    (getsAll : GetsAll switch (stack.produced outcomes self) everything)
    (getsKept : GetsAll switch (stack.ofmsgsByValve outcomes self).toList kept) :
    (∀ flow, flow.tableId = (stack.node self).floodTable ∨
        flow.tableId ∈ (stack.node self).otherTables → everything.flows flow = kept.flows flow) ↔
      stack.Undisturbed self (stack.views outcomes self) switch := by
  rw [ofmsgsByValve_eq] at getsKept
  rw [produced_eq] at getsAll getsKept
  rcases List.eq_nil_or_concat' (stack.views outcomes self) with none | ⟨earlier, view, split⟩
  · rw [none, List.map_nil] at getsAll getsKept
    cases getsAll
    cases getsKept
    rw [none]
    exact iff_of_true (fun _ _ => rfl) nofun
  · rw [split, List.map_append, List.map_cons, List.map_nil] at getsAll getsKept
    rw [List.getLast?_concat, Option.toList_some, getsAll_singleton] at getsKept
    obtain ⟨before, all, gets⟩ := getsAll_concat.mp getsAll
    rw [split]
    constructor
    · intro agree flow inTable last isLast
      rw [List.getLast?_concat, Option.mem_some_iff] at isLast
      subst isLast
      rw [List.dropLast_concat]
      exact (agree_iff_of_floodTable plain all gets getsKept inTable).mp (agree flow (.inl inTable))
    · intro undisturbed flow ofTables
      rcases ofTables with inTable | other
      · refine (agree_iff_of_floodTable plain all gets getsKept inTable).mpr fun passed => ?_
        have decided := undisturbed flow inTable view (by simp) passed
        rwa [List.dropLast_concat] at decided
      · exact agree_of_otherTables plain all gets getsKept other

/-! ### A triangle of datapaths -/

/-- A port with this number; it is in the VLAN of the triangle if it is not a stack port. -/
def trianglePort (number : PortNo) (nativeVlan : Option Flooding.Vid) : Flooding.Port where
  number := number
  lacp := 0
  enabled := true
  dynPhysUp := true
  lacpSelected := false
  lacpUnselected := false
  lacpStandby := false
  dynLacpUp := none
  dynLacpActorState := .notConfigured
  dynLacpPortSelected := .notConfigured
  hairpin := false
  mirror := []
  unicastFlood := true
  restrictedBcastArpnd := false
  loopProtectExternal := false
  nativeVlan := nativeVlan
  dynDot1xNativeVlan := none
  taggedVlans := []

/-- A datapath with one host, that has a rule for each port. -/
def triangleNode : Node where
  vlans := [⟨100, true, false⟩]
  vids := by decide
  vidValid := by decide
  floodTable := 8
  flowCookie := 1
  lowestPriority := 0
  useGroupTable := false
  combinatorialPortFlood := true
  exclusive := by decide
  restrictedBcastArpnd := false
  ports := [trianglePort 3 (some 100)]
  numbers := by decide
  flags := 0
  hasExternals := false
  rootCandidate := false
  rootFloodReflection := false
  dropSpoofedFaucetMac := false
  faucetMac _ := 0
  vlanTable := 1
  classificationTable := 3
  ethSrcTable := 5
  ethDstTable := 7
  ethDstHairpinTable := none
  managersAddVlan _ := []

/-- There is a root. -/
local instance neZero_triangleDps : NeZero 3 := ⟨by decide⟩

/-- The datapath of a stack port. -/
def triangleDp (port : Fin 6) : Fin 3 := ![0, 1, 0, 2, 1, 2] port

/-- The paths between two datapaths of the triangle. -/
def trianglePaths (graph : Finset (Fin 6 × Fin 6)) (src dst : Fin 3) : List (List (Fin 3)) :=
  let linked := fun (a b : Fin 3) => decide (∃ edge ∈ graph,
    (triangleDp edge.1 = a ∧ triangleDp edge.2 = b) ∨ (triangleDp edge.1 = b ∧ triangleDp edge.2 = a))
  if src = dst then [[src]]
  else if linked src dst then [[src, dst]]
  else ([0, 1, 2].filter fun mid => linked src mid && linked mid dst).map fun mid => [src, mid, dst]

/-- Three datapaths, the first of which is the root; the last is connected to the other two by
its ports 1 and 2. -/
def triangle : Stacked (Fin 3) (Fin 6) where
  dp := triangleDp
  peer := ![1, 0, 3, 2, 5, 4]
  peer_peer := by decide
  peer_ne := by decide
  stackPeer _ := ⟨1, "", 1, none, Lldp.StackPeer.positive_none⟩
  maxLldpLost _ := 3
  ports := List.finRange 6
  mem_ports := List.mem_finRange
  dps := [0, 1, 2]
  rootName _ := 0
  stackPort port := trianglePort (![1, 1, 2, 1, 2, 2] port) none
  allShortestPaths := trianglePaths
  node _ := triangleNode
  apart := by decide
  floodApart := by decide
  managersAdd := nofun

/-- Everything is up; of some ports no packet has been seen since long. -/
def triangleNodes (lost : List (Fin 6)) : Nodes (Fin 3) (Fin 6) :=
  let links : Links (Fin 3) (Fin 6) :=
    { port := fun port => ⟨none, none, .up, some ⟨if port ∈ lost then 0 else 99, true, ⟨none, none, none, none⟩⟩⟩
      dynRunning := fun _ => true
      graph := fun _ => triangle.resolveTopology }
  { toLinks := links
    distances := triangle.resetPeerDistances links
    staleRoot := fun _ => false }

/-- The valves are taken as they are listed. -/
def asListed : ValveOrder (Fin 3) := ⟨id, fun _ => .refl _⟩

/-- The distances at which the last datapath gets messages. -/
def triangleViews (lost : List (Fin 6)) : Option (List (View (Fin 6))) :=
  (triangle.valveFlowServices asListed 100 [0, 1, 2] (triangleNodes lost)).map
    (triangle.views · 2)

/-- The last datapath, with ports towards and away from the root. -/
def triangleView (isEdge : Bool) (towards away inactive : List (Fin 6)) : View (Fin 6) :=
  ⟨isEdge, towards, towards, towards.head?, away, inactive, []⟩

/-- The rule for packets from the host. -/
def hostRule : FlowId := triangle.floodFlow 2 100 (some 3) ⟨true, none, none⟩

/-- A switch without rules. -/
def emptied : Switch := ⟨fun _ => none, fun _ => none, fun _ => none⟩

theorem exists_gets (stack : Stacked Dp E) (self : Dp) (view : View E) (switch : Switch) :
    ∃ next, switch.Gets (stack.ofmsgs self view) next := by
  have batch : AddsAndDeletes (stack.node self).floodTable (stack.node self).flowCookie
      (stack.ofmsgs self view) := addsAndDeletes (.inl rfl)
  obtain ⟨next, delivers⟩ : ∃ next, switch.deliver ⟨id, fun _ => .refl _⟩ true
      (stack.ofmsgs self view) = some next := batch.exists_deliver
  exact ⟨next, _, _, delivers⟩

omit [LinearOrder Dp] in
theorem plain_emptied : Plain stack self emptied := fun _ _ _ _ => nofun

/-- When both ends of a link to the root have noticed its loss, both make messages for the last
datapath, and it does not matter which it gets. -/
theorem agree_triangle : ∃ outcomes everything kept,
    triangle.valveFlowServices asListed 100 [0, 1, 2] (triangleNodes [0, 1]) = some outcomes ∧
      GetsAll emptied (triangle.produced outcomes 2) everything ∧
      GetsAll emptied (triangle.ofmsgsByValve outcomes 2).toList kept ∧
      ∀ flow, flow.tableId = (triangle.node 2).floodTable ∨
        flow.tableId ∈ (triangle.node 2).otherTables → everything.flows flow = kept.flows flow := by
  have detour : triangleViews [0, 1] =
      some [triangleView false [3] [5] [], triangleView false [3] [5] []] := by decide +kernel
  obtain ⟨outcomes, ticks, views⟩ := Option.map_eq_some_iff.mp detour
  obtain ⟨kept, first⟩ := exists_gets triangle 2 (triangleView false [3] [5] []) emptied
  obtain ⟨everything, second⟩ := exists_gets triangle 2 (triangleView false [3] [5] []) kept
  have getsAll : GetsAll emptied (triangle.produced outcomes 2) everything := by
    rw [produced_eq, views]
    exact .cons first (.cons second (.nil _))
  have getsKept : GetsAll emptied (triangle.ofmsgsByValve outcomes 2).toList kept := by
    rw [ofmsgsByValve_eq, produced_eq, views]
    exact .cons first (.nil _)
  refine ⟨outcomes, everything, kept, ticks, getsAll, getsKept,
    (agree_iff_undisturbed ticks plain_emptied getsAll getsKept).mpr ?_⟩
  rw [views]
  intro flow _ view isLast passed decided earlier
  have same : triangleView false [3] [5] [] = view := Option.some.inj isLast
  subst same
  rw [List.dropLast_cons_cons, List.dropLast_singleton, List.filterMap_cons, passed] at earlier
  cases earlier

/-- A datapath that is cut off from both others in one tick, after a detour has become known,
keeps flooding to the root alone, although the messages of the detour are made first. -/
theorem not_agree_triangle :
    ¬ ∀ order now valves nodes outcomes self switch everything kept,
      triangle.valveFlowServices order now valves nodes = some outcomes →
      Plain triangle self switch → GetsAll switch (triangle.produced outcomes self) everything →
      GetsAll switch (triangle.ofmsgsByValve outcomes self).toList kept →
      ∀ flow, flow.tableId = (triangle.node self).floodTable ∨
        flow.tableId ∈ (triangle.node self).otherTables → everything.flows flow = kept.flows flow := by
  intro agree
  have cut : triangleViews [1, 3, 5] =
      some [triangleView false [3] [5] [], triangleView false [] [] []] := by decide +kernel
  obtain ⟨outcomes, ticks, views⟩ := Option.map_eq_some_iff.mp cut
  obtain ⟨start, configures⟩ := exists_gets triangle 2 (triangleView true [3] [5] [5]) emptied
  obtain ⟨detour, first⟩ := exists_gets triangle 2 (triangleView false [3] [5] []) start
  obtain ⟨everything, second⟩ := exists_gets triangle 2 (triangleView false [] [] []) detour
  obtain ⟨kept, last⟩ := exists_gets triangle 2 (triangleView false [] [] []) start
  have plain : Plain triangle 2 start := plain_emptied.of_gets configures
  have getsAll : GetsAll start (triangle.produced outcomes 2) everything := by
    rw [produced_eq, views]
    exact .cons first (.cons second (.nil _))
  have getsKept : GetsAll start (triangle.ofmsgsByValve outcomes 2).toList kept := by
    rw [ofmsgsByValve_eq, produced_eq, views]
    exact .cons last (.nil _)
  have same := agree asListed 100 [0, 1, 2] (triangleNodes [1, 3, 5]) outcomes 2 start everything
    kept ticks plain getsAll getsKept hostRule (.inl rfl)
  have before : triangle.decision 2 (triangleView true [3] [5] [5]) hostRule =
      some (some (triangle.floodEntry 2 [.output 1])) := by decide +kernel
  have between : triangle.decision 2 (triangleView false [3] [5] []) hostRule =
      some (some (triangle.floodEntry 2 [.output 1, .output 2])) := by decide +kernel
  have after : triangle.decision 2 (triangleView false [] [] []) hostRule = none := by decide +kernel
  have ofHost : trianglePort 3 (some 100) ∈
      (triangle.vlanOf 2 ⟨100, true, false⟩).allPorts (⟨true, none, none⟩ : FloodDst).unicast := by
    decide
  have ofPort : ¬ triangle.IsVlanFlow 2 hostRule ∧ ¬ triangle.IsStackFlow 2 hostRule :=
    floodFlow_not_always ofHost
  have inTable : hostRule.tableId = (triangle.node 2).floodTable := rfl
  have configured : start.flows hostRule = some (triangle.floodEntry 2 [.output 1]) := by
    rw [flows_of_floodTable inTable ofPort.1 ofPort.2 (plain_emptied _ (.inl inTable) ofPort.1)
      configures, before]
    rfl
  have all : GetsAll start ([triangleView false [3] [5] []].map (triangle.ofmsgs 2)) detour :=
    getsAll_singleton.mpr first
  have disturbed := (agree_iff_of_floodTable plain all second last inTable).mp same after
    (some (triangle.floodEntry 2 [.output 1, .output 2]))
    (by rw [List.filterMap_cons, between]; rfl)
  rw [configured] at disturbed
  cases disturbed

end Stacked

end Faucet.Stack
