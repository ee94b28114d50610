import Faucet.Lacp.DropRule
import Faucet.Lacp.PortEvents

/-!
# The drop rule while ports change

`lacp_update` writes or removes the drop rule of a port whenever its state changes. So the rule
fits the state of the port (`Fits`), or the port does not run and its state will change as soon
as it does. Ports that go up or down one after the other keep this (`Kept`).
-/

set_option autoImplicit false

namespace Faucet.Lacp

open OpenFlow
open Egress (ignorePort)
open Learning (Touches)

variable {dp : Datapath} {p q : PortNo} {mods more : List FlowMod} {port next mid : LagPort}
  {ports : List LagPort} {numbers : List PortNo} {nominated : PortNo → Bool}

/-! ## The rule and the state of the port -/

/-- The port does not run, and its state changes once it does. -/
def LagPort.Dormant (port : LagPort) : Prop :=
  port.running = false ∧ port.dynLacpActorState ≠ .init

/-- The rule is there exactly when the port does not forward, or the port is dormant. -/
def Fits (dp : Datapath) (flow : Option FlowEntry) (port : LagPort) : Prop :=
  port.Dormant ∨ flow = if port.forwards then none else some dp.dropEntry

/-- A LACP port; one that is not enabled is not waiting for packets. -/
structure LagPort.IsLacp (port : LagPort) : Prop where
  lacp : port.lacp ≠ 0
  disabled : port.enabled = false → port.dynLacpActorState ≠ .init

/-- What messages that can only install the rule leave of it. -/
def Datapath.disabledBy (dp : Datapath) (p : PortNo) (mods : List FlowMod)
    (flow : Option FlowEntry) : Option FlowEntry :=
  if dp.ruleMod p true ∈ mods then some dp.dropEntry else flow

/-- Of the messages only `disable_forwarding` touches the rule of the port. -/
def OnlyDisables (dp : Datapath) (p : PortNo) (mods : List FlowMod) : Prop :=
  ∀ mod ∈ mods, VlanMod dp mod ∧ (Touches mod (dp.dropFlow p) → mod = dp.ruleMod p true)

theorem touches_ruleMod : Touches (dp.ruleMod p true) (dp.dropFlow p) := .inl ⟨rfl, ruleMod_names⟩

theorem Quiet.not_mem (quiet : Quiet dp p mods) : dp.ruleMod p true ∉ mods :=
  fun member => (quiet _ member).2 touches_ruleMod

theorem Quiet.onlyDisables (quiet : Quiet dp p mods) : OnlyDisables dp p mods :=
  fun mod member => ⟨(quiet mod member).1, fun touches => absurd touches (quiet mod member).2⟩

theorem Quiet.disabledBy (quiet : Quiet dp p mods) (flow : Option FlowEntry) :
    dp.disabledBy p mods flow = flow := if_neg quiet.not_mem

theorem OnlyDisables.append (first : OnlyDisables dp p mods) (second : OnlyDisables dp p more) :
    OnlyDisables dp p (mods ++ more) := by
  intro mod member
  rcases List.mem_append.mp member with member | member
  · exact first mod member
  · exact second mod member

theorem disabledBy_append (flow : Option FlowEntry) :
    dp.disabledBy p (mods ++ more) flow = dp.disabledBy p more (dp.disabledBy p mods flow) := by
  simp only [Datapath.disabledBy, List.mem_append]
  by_cases later : dp.ruleMod p true ∈ more <;> simp [later]

/-- The verdict of messages that can only install the rule. -/
def Datapath.disableVerdict (dp : Datapath) (p : PortNo) (mods : List FlowMod) : Option Bool :=
  if dp.ruleMod p true ∈ mods then some true else none

theorem disableVerdict_ne : dp.disableVerdict p mods ≠ some false := by
  unfold Datapath.disableVerdict
  split <;> simp

theorem ruleAfter_disableVerdict (flow : Option FlowEntry) :
    dp.ruleAfter flow (dp.disableVerdict p mods) = dp.disabledBy p mods flow := by
  unfold Datapath.disableVerdict Datapath.disabledBy
  split <;> rfl

theorem OnlyDisables.decides (only : OnlyDisables dp p mods) :
    Decides dp p mods (dp.disableVerdict p mods) := by
  unfold Datapath.disableVerdict
  by_cases member : dp.ruleMod p true ∈ mods
  · rw [if_pos member]
    refine ⟨fun mod listed => (only mod listed).1, ?_, fun mod listed touches => ?_⟩
    · rintro disables ⟨⟩
      exact member
    · exact ⟨true, rfl, (only mod listed).2 touches⟩
  · rw [if_neg member]
    refine ⟨fun mod listed => (only mod listed).1, by simp, fun mod listed touches => ?_⟩
    rw [(only mod listed).2 touches] at listed
    exact absurd listed member

/-! ## `lacp_update` -/

section Update

variable {lacpUp lacpPkt coldStart selected : Bool} {now : Option ℤ}

theorem lacpUpdate_number :
    (dp.lacpUpdate port lacpUp lacpPkt coldStart selected now).1.number = port.number := by
  cases coldStart <;> rfl

theorem lacpUpdate_lacp :
    (dp.lacpUpdate port lacpUp lacpPkt coldStart selected now).1.lacp = port.lacp := by
  cases coldStart <;> rfl

theorem lacpUpdate_enabled :
    (dp.lacpUpdate port lacpUp lacpPkt coldStart selected now).1.enabled = port.enabled := by
  cases coldStart <;> rfl

theorem lacpUpdate_physUp :
    (dp.lacpUpdate port lacpUp lacpPkt coldStart selected now).1.dynPhysUp = port.dynPhysUp := by
  cases coldStart <;> rfl

theorem lacpUpdate_running :
    (dp.lacpUpdate port lacpUp lacpPkt coldStart selected now).1.running = port.running := by
  rw [Port.running, Port.running, lacpUpdate_enabled, lacpUpdate_physUp]

theorem lacpUpdate_actor :
    (dp.lacpUpdate port lacpUp lacpPkt coldStart selected now).1.dynLacpActorState =
      if !port.running then .none
      else if !lacpPkt then .init
      else if lacpUp then .up
      else .noSync := by
  cases coldStart <;> rfl

/-- Without a LACP packet the port does not forward. -/
theorem lacpUpdate_forwards :
    (dp.lacpUpdate port lacpUp false coldStart selected now).1.forwards = false := by
  rw [LagPort.forwards, Port.isActorUp, lacpUpdate_actor]
  cases port.running <;> simp

theorem lacpUpdate_isLacp (isLacp : port.IsLacp) :
    (dp.lacpUpdate port lacpUp lacpPkt coldStart selected now).1.IsLacp := by
  refine ⟨?_, fun disabled => ?_⟩
  · rw [lacpUpdate_lacp]
    exact isLacp.lacp
  · rw [lacpUpdate_enabled] at disabled
    rw [lacpUpdate_actor, Port.running, disabled]
    nofun

theorem portUpdate_selected_ne (port : LagPort) :
    (port.portUpdate selected false).dynLacpPortSelected ≠ .notConfigured := by
  simp only [LagPort.portUpdate, Port.lacpPortUpdate, Bool.false_eq_true, if_false]
  repeat' split
  all_goals simp

/-- The messages for a changed state: the rule of the port, and nothing else about it. -/
theorem changed_messages (coldStart : Bool) (next : LagPort) :
    ∃ rest, (if next.forwards then [dp.enableForwarding next.number]
      else dp.disableForwarding next.number ::
        if coldStart then [] else dp.delPort next ++ dp.addPort next) =
      dp.ruleMod next.number (!next.forwards) :: rest ∧ ∀ p, Quiet dp p rest := by
  cases forwards : next.forwards with
  | true => exact ⟨[], rfl, fun _ => quiet_nil⟩
  | false =>
      exact ⟨_, rfl, fun _ => .ite (fun _ => quiet_nil) fun _ => quiet_delPort.append quiet_addPort⟩

/-- The state is as before and there are no messages, or the rule of the port is set anew. -/
def Updated (dp : Datapath) (port : LagPort) (coldStart : Bool)
    (result : LagPort × List FlowMod) : Prop :=
  (result.2 = [] ∧ coldStart = false ∧ result.1.dynLacpActorState = port.dynLacpActorState ∧
    result.1.dynLacpPortSelected = port.dynLacpPortSelected) ∨
  ∃ rest, result.2 = dp.ruleMod port.number (!result.1.forwards) :: rest ∧ ∀ p, Quiet dp p rest

theorem updated_lacpUpdate (dp : Datapath) (port : LagPort) (lacpUp lacpPkt coldStart selected : Bool)
    (now : Option ℤ) :
    Updated dp port coldStart (dp.lacpUpdate port lacpUp lacpPkt coldStart selected now) := by
  rw [Updated, ← lacpUpdate_number, Datapath.lacpUpdate]
  cases coldStart with
  | true =>
      refine .inr ?_
      simp only [if_true]
      rw [if_pos (Or.inr fun same => portUpdate_selected_ne _ same.symm)]
      exact changed_messages true _
  | false =>
      simp only [Bool.false_eq_true, if_false]
      split
      next => exact .inr (changed_messages false _)
      next unchanged =>
        rw [not_or, not_not, not_not] at unchanged
        exact .inl ⟨rfl, trivial, unchanged.1.symm, unchanged.2.symm⟩

end Update

/-! ## Ports by number -/

theorem number_of_findPort (found : findPort ports p = some port) : port.number = p := by
  simpa using List.find?_some found

theorem findPort_of_port? (found : port? ports p = some port) : findPort ports p = some port := by
  rw [port?] at found
  split at found
  next => cases found
  next => exact found

theorem port?_of_valid (valid : ignorePort p = false) : port? ports p = findPort ports p := by
  rw [port?, valid]
  rfl

theorem findPort_setPort (next : LagPort) (found : findPort ports p = some port) :
    findPort (setPort ports next) p = some (if next.number = p then next else port) := by
  have asBefore : ((fun other : LagPort => decide (other.number = p)) ∘
      fun other => if other.number = next.number then next else other) =
        fun other => decide (other.number = p) := by
    funext other
    by_cases same : other.number = next.number <;> simp [same]
  rw [findPort, setPort, List.find?_map, asBefore]
  rw [findPort] at found
  rw [found, Option.map_some, number_of_findPort found]
  by_cases same : next.number = p
  · rw [if_pos same, if_pos same.symm]
  · rw [if_neg same, if_neg (Ne.symm same)]

/-! ## One port after the other -/

section EachPort

variable {change : LagPort → LagPort × List FlowMod}

theorem eachPort_append (later : List PortNo) :
    eachPort change ports (numbers ++ later) =
      let (middle, first) := eachPort change ports numbers
      let (final, second) := eachPort change middle later
      (final, first ++ second) := by
  induction numbers generalizing ports with
  | nil => rfl
  | cons portNo rest ih =>
      rw [List.cons_append, eachPort, eachPort]
      cases port? ports portNo with
      | none => exact ih
      | some port =>
          dsimp only
          rw [ih]
          dsimp only
          rw [List.append_assoc]

/-- A change of the port that keeps its number, and that of other ports is quiet. -/
structure Local (dp : Datapath) (p : PortNo) (change : LagPort → LagPort × List FlowMod) : Prop where
  number : ∀ port, (change port).1.number = port.number
  quiet : ∀ port, port.number ≠ p → Quiet dp p (change port).2

/-- **The rule for a loop over ports**: what holds of a change of the port, and composes, holds
of the loop. -/
theorem Local.eachPort_induct {R : LagPort → List FlowMod → LagPort → Prop}
    (isLocal : Local dp p change) (refl : ∀ {port mods}, Quiet dp p mods → R port mods port)
    (trans : ∀ {port first middle second next}, R port first middle → R middle second next →
      R port (first ++ second) next)
    (own : ∀ port, port.number = p → R port (change port).2 (change port).1)
    (numbers : List PortNo) (found : findPort ports p = some port) :
    ∃ next, findPort (eachPort change ports numbers).1 p = some next ∧
      R port (eachPort change ports numbers).2 next := by
  induction numbers generalizing ports port with
  | nil => exact ⟨port, found, refl quiet_nil⟩
  | cons portNo rest ih =>
      rw [eachPort]
      cases there : port? ports portNo with
      | none => exact ih found
      | some other =>
          have changed := findPort_setPort (change other).1 found
          obtain ⟨next, final, related⟩ := ih changed
          refine ⟨next, final, trans ?_ related⟩
          have otherNumber := number_of_findPort (findPort_of_port? there)
          rw [isLocal.number, otherNumber]
          by_cases same : portNo = p
          · subst same
            rw [if_pos rfl]
            cases found.symm.trans (findPort_of_port? there)
            exact own port otherNumber
          · rw [if_neg same]
            exact refl (isLocal.quiet other (by rwa [otherNumber]))

/-- A port that is not in the list stays as it is. -/
theorem Local.eachPort_of_not_mem (isLocal : Local dp p change) (absent : p ∉ numbers)
    (found : findPort ports p = some port) :
    findPort (eachPort change ports numbers).1 p = some port ∧
      Quiet dp p (eachPort change ports numbers).2 := by
  induction numbers generalizing ports with
  | nil => exact ⟨found, quiet_nil⟩
  | cons portNo rest ih =>
      rw [List.mem_cons, not_or] at absent
      rw [eachPort]
      cases there : port? ports portNo with
      | none => exact ih absent.2 found
      | some other =>
          have different : other.number ≠ p := by
            rw [number_of_findPort (findPort_of_port? there)]
            exact Ne.symm absent.1
          have changed := findPort_setPort (change other).1 found
          rw [isLocal.number, if_neg different] at changed
          obtain ⟨kept, quiet⟩ := ih absent.2 changed
          exact ⟨kept, (isLocal.quiet other different).append quiet⟩

/-- A port in the list is changed there, between two runs of the loop. -/
theorem Local.eachPort_of_mem {R : LagPort → List FlowMod → LagPort → Prop}
    (isLocal : Local dp p change) (refl : ∀ {port mods}, Quiet dp p mods → R port mods port)
    (trans : ∀ {port first middle second next}, R port first middle → R middle second next →
      R port (first ++ second) next)
    (own : ∀ port, port.number = p → R port (change port).2 (change port).1)
    (valid : ignorePort p = false) (member : p ∈ numbers) (found : findPort ports p = some port) :
    ∃ mid next first second, findPort (eachPort change ports numbers).1 p = some next ∧
      (eachPort change ports numbers).2 = first ++ ((change mid).2 ++ second) ∧
      mid.number = p ∧ R port first mid ∧ R (change mid).1 second next := by
  obtain ⟨before, later, rfl⟩ := List.append_of_mem member
  obtain ⟨mid, there, first⟩ := isLocal.eachPort_induct refl trans own before found
  have midNumber := number_of_findPort there
  have changed := findPort_setPort (change mid).1 there
  rw [isLocal.number, if_pos midNumber] at changed
  obtain ⟨next, final, second⟩ := isLocal.eachPort_induct refl trans own later changed
  have valid? : port? (eachPort change ports before).1 p = some mid := by
    rw [port?_of_valid valid, there]
  refine ⟨mid, next, _, _, ?_, ?_, midNumber, first, second⟩
  · rw [eachPort_append]
    dsimp only
    rw [eachPort, valid?]
    exact final
  · rw [eachPort_append]
    dsimp only
    rw [eachPort, valid?]

end EachPort

/-! ## What ports that go up or down keep -/

/-- The messages of a change of the port can only install its rule, and it fits again. -/
structure Kept (dp : Datapath) (p : PortNo) (port : LagPort) (mods : List FlowMod)
    (next : LagPort) : Prop where
  isLacp : next.IsLacp
  only : OnlyDisables dp p mods
  fits : ∀ flow, Fits dp flow port → Fits dp (dp.disabledBy p mods flow) next

theorem Kept.of_quiet (quiet : Quiet dp p mods) (isLacp : port.IsLacp) : Kept dp p port mods port :=
  ⟨isLacp, quiet.onlyDisables, fun flow fits => by rwa [quiet.disabledBy]⟩

theorem Kept.trans (first : Kept dp p port mods mid) (second : Kept dp p mid more next) :
    Kept dp p port (mods ++ more) next := by
  refine ⟨second.isLacp, first.only.append second.only, fun flow fits => ?_⟩
  rw [disabledBy_append]
  exact second.fits _ (first.fits flow fits)

theorem setPhysUp_isLacp {physUp : Bool} (isLacp : port.IsLacp) : (port.setPhysUp physUp).IsLacp :=
  ⟨isLacp.lacp, isLacp.disabled⟩

section Update

variable {lacpUp coldStart selected : Bool} {now : Option ℤ}

theorem quiet_lacpUpdate {lacpPkt : Bool} (different : port.number ≠ p) :
    Quiet dp p (dp.lacpUpdate port lacpUp lacpPkt coldStart selected now).2 := by
  rcases updated_lacpUpdate dp port lacpUp lacpPkt coldStart selected now with
    ⟨none, _⟩ | ⟨rest, same, quiet⟩
  · rw [none]
    exact quiet_nil
  · rw [same]
    exact (quiet_ruleMod different).append (quiet p)

/-- An update without a packet can only install the rule. -/
theorem onlyDisables_lacpUpdate (own : port.number = p) :
    OnlyDisables dp p (dp.lacpUpdate port lacpUp false coldStart selected now).2 := by
  rcases updated_lacpUpdate dp port lacpUp false coldStart selected now with
    ⟨none, _⟩ | ⟨rest, same, quiet⟩
  · rw [none]
    exact quiet_nil.onlyDisables
  · rw [same, lacpUpdate_forwards, own]
    intro mod member
    rcases List.mem_cons.mp member with rfl | member
    · exact ⟨vlanMod_ruleMod, fun _ => rfl⟩
    · exact (quiet p).onlyDisables mod member

theorem Fits.congr {flow : Option FlowEntry} (running : next.running = port.running)
    (actor : next.dynLacpActorState = port.dynLacpActorState)
    (selection : next.dynLacpPortSelected = port.dynLacpPortSelected) (fits : Fits dp flow port) :
    Fits dp flow next := by
  rw [Fits, LagPort.Dormant, LagPort.forwards, Port.isPortSelected, Port.isActorUp]
  rw [running, actor, selection]
  exact fits

theorem Fits.not_forwards {flow : Option FlowEntry} (blocked : port.forwards = false)
    (same : flow = some dp.dropEntry) : Fits dp flow port := by
  refine .inr ?_
  rw [same, blocked]
  rfl

theorem disabledBy_of_mem {flow : Option FlowEntry} (member : dp.ruleMod p true ∈ mods) :
    dp.disabledBy p mods flow = some dp.dropEntry := if_pos member

/-- An update without a packet keeps that the rule fits. -/
theorem kept_lacpUpdate (own : port.number = p) (isLacp : port.IsLacp) :
    Kept dp p port (dp.lacpUpdate port lacpUp false coldStart selected now).2
      (dp.lacpUpdate port lacpUp false coldStart selected now).1 := by
  refine ⟨lacpUpdate_isLacp isLacp, onlyDisables_lacpUpdate own, fun flow fits => ?_⟩
  rcases updated_lacpUpdate dp port lacpUp false coldStart selected now with
    ⟨none, _, actor, selection⟩ | ⟨rest, same, _⟩
  · rw [none, quiet_nil.disabledBy]
    exact fits.congr lacpUpdate_running actor selection
  · refine .not_forwards lacpUpdate_forwards (disabledBy_of_mem ?_)
    rw [same, lacpUpdate_forwards, own]
    exact List.mem_cons_self

/-- A running port waits for packets after an update without one. If it waited before, it had
the rule; else its state changes. -/
theorem settled_lacpUpdate (own : port.number = p) (running : port.running = true)
    {flow : Option FlowEntry}
    (waited : port.dynLacpActorState = .init → coldStart = false → flow = some dp.dropEntry) :
    Fits dp (dp.disabledBy p (dp.lacpUpdate port lacpUp false coldStart selected now).2 flow)
      (dp.lacpUpdate port lacpUp false coldStart selected now).1 := by
  refine .not_forwards lacpUpdate_forwards ?_
  rcases updated_lacpUpdate dp port lacpUp false coldStart selected now with
    ⟨none, warm, actor, _⟩ | ⟨rest, same, _⟩
  · rw [none, quiet_nil.disabledBy]
    refine waited ?_ warm
    rw [← actor, lacpUpdate_actor, running]
    rfl
  · refine disabledBy_of_mem ?_
    rw [same, lacpUpdate_forwards, own]
    exact List.mem_cons_self

end Update

section UpDown

variable {coldStart : Bool}

theorem local_portUp (dp : Datapath) (p : PortNo) (nominated : PortNo → Bool) (coldStart : Bool) :
    Local dp p (dp.portUp nominated coldStart) := by
  refine ⟨fun port => ?_, fun port different => ?_⟩
  · rw [Datapath.portUp]
    split
    next => rfl
    next =>
      split
      next =>
        dsimp only
        exact lacpUpdate_number
      next => rfl
  · rw [Datapath.portUp]
    split
    next => exact quiet_nil
    next =>
      split
      next => exact quiet_managersAddPort.append (quiet_lacpUpdate different)
      next => exact quiet_managersAddPort

theorem local_portDown (dp : Datapath) (p : PortNo) (nominated : PortNo → Bool) :
    Local dp p (dp.portDown nominated) := by
  refine ⟨fun port => ?_, fun port different => ?_⟩
  · rw [Datapath.portDown]
    split
    next => exact lacpUpdate_number
    next => rfl
  · rw [Datapath.portDown]
    split
    next => exact quiet_lacpUpdate different
    next => exact quiet_managersDelPort different

/-- A port that comes up: its rule fits again, in a cold start whatever it was. -/
theorem portUp_fits (own : port.number = p) (isLacp : port.IsLacp) {flow : Option FlowEntry}
    (fits : coldStart = true ∨ Fits dp flow port) :
    Fits dp (dp.disabledBy p (dp.portUp nominated coldStart port).2 flow)
      (dp.portUp nominated coldStart port).1 := by
  rw [Datapath.portUp]
  have asUp : (port.setPhysUp true).running = port.enabled := Bool.and_true _
  cases enabled : port.enabled with
  | false =>
      rw [asUp, enabled]
      refine .inl ⟨asUp.trans enabled, isLacp.disabled enabled⟩
  | true =>
      have running : (port.setPhysUp true).running = true := asUp.trans enabled
      have lacp : (port.setPhysUp true).lacp ≠ 0 := isLacp.lacp
      rw [running, if_neg (by simp), if_pos lacp]
      dsimp only
      rw [disabledBy_append, quiet_managersAddPort.disabledBy]
      have upNumber : (port.setPhysUp true).number = p := own
      refine settled_lacpUpdate upNumber running fun waits warm => ?_
      rcases fits.resolve_left (by rw [warm]; simp) with dormant | same
      · exact absurd waits dormant.2
      · have actor : port.dynLacpActorState = .init := waits
        rw [same, LagPort.forwards, Port.isActorUp, actor]
        simp

theorem portUp_kept (own : port.number = p) (isLacp : port.IsLacp) :
    Kept dp p port (dp.portUp nominated coldStart port).2 (dp.portUp nominated coldStart port).1 := by
  refine ⟨?_, ?_, fun flow fits => portUp_fits own isLacp (.inr fits)⟩
  · rw [Datapath.portUp]
    split
    next => exact setPhysUp_isLacp isLacp
    next =>
      split
      next =>
        dsimp only
        exact lacpUpdate_isLacp (setPhysUp_isLacp isLacp)
      next => exact setPhysUp_isLacp isLacp
  · rw [Datapath.portUp]
    split
    next => exact quiet_nil.onlyDisables
    next =>
      split
      next => exact quiet_managersAddPort.onlyDisables.append (onlyDisables_lacpUpdate own)
      next => exact quiet_managersAddPort.onlyDisables

theorem portDown_eq (isLacp : port.IsLacp) :
    dp.portDown nominated port =
      dp.lacpUpdate (port.setPhysUp false) false false false (nominated port.number) none :=
  if_pos (setPhysUp_isLacp isLacp).lacp

theorem portDown_kept (own : port.number = p) (isLacp : port.IsLacp) :
    Kept dp p port (dp.portDown nominated port).2 (dp.portDown nominated port).1 := by
  rw [portDown_eq isLacp]
  have kept : Kept dp p (port.setPhysUp false)
      (dp.lacpUpdate (port.setPhysUp false) false false false (nominated port.number) none).2
      (dp.lacpUpdate (port.setPhysUp false) false false false (nominated port.number) none).1 :=
    kept_lacpUpdate own (setPhysUp_isLacp isLacp)
  refine ⟨kept.isLacp, kept.only, fun flow fits => kept.fits flow ?_⟩
  rcases fits with dormant | same
  · exact .inl ⟨Bool.and_false _, dormant.2⟩
  · exact .inr same

/-- The port is down, and its actor is out of use. -/
def LagPort.Down (port : LagPort) : Prop :=
  port.dynPhysUp = false ∧ port.dynLacpActorState = .none

theorem LagPort.Down.dormant (down : port.Down) : port.Dormant := by
  refine ⟨?_, ?_⟩
  · rw [Port.running, down.1, Bool.and_false]
  · rw [down.2]
    nofun

theorem portDown_down (isLacp : port.IsLacp) : (dp.portDown nominated port).1.Down := by
  rw [portDown_eq isLacp]
  have notRunning : (port.setPhysUp false).running = false := Bool.and_false _
  refine ⟨lacpUpdate_physUp, ?_⟩
  rw [lacpUpdate_actor, notRunning]
  rfl

/-! ## The loops -/

/-- What a change of a LACP port does. -/
def KeptIfLacp (dp : Datapath) (p : PortNo) (port : LagPort) (mods : List FlowMod)
    (next : LagPort) : Prop :=
  port.IsLacp → Kept dp p port mods next

theorem KeptIfLacp.trans (first : KeptIfLacp dp p port mods mid)
    (second : KeptIfLacp dp p mid more next) : KeptIfLacp dp p port (mods ++ more) next :=
  fun isLacp => (first isLacp).trans (second (first isLacp).isLacp)

theorem portsAdd_kept (dp : Datapath) (nominated : PortNo → Bool) (coldStart : Bool)
    (numbers : List PortNo) (found : findPort ports p = some port)
    (isLacp : port.IsLacp) :
    ∃ next, findPort (dp.portsAdd nominated coldStart ports numbers).1 p = some next ∧
      Kept dp p port (dp.portsAdd nominated coldStart ports numbers).2 next := by
  have rule := (local_portUp dp p nominated coldStart).eachPort_induct (R := KeptIfLacp dp p)
    (fun quiet isLacp => .of_quiet quiet isLacp) KeptIfLacp.trans
    (fun port own isLacp => portUp_kept own isLacp) numbers found
  obtain ⟨next, final, kept⟩ := rule
  exact ⟨next, final, kept isLacp⟩

theorem lacpStateExpire_kept (dp : Datapath) (nominated : PortNo → Bool) (now : ℤ)
    (numbers : List PortNo) (found : findPort ports p = some port)
    (isLacp : port.IsLacp) :
    ∃ next, findPort (dp.lacpStateExpire nominated now ports numbers).1 p = some next ∧
      Kept dp p port (dp.lacpStateExpire nominated now ports numbers).2 next := by
  have isLocal : Local dp p fun port =>
      dp.lacpUpdate port false false false (nominated port.number) (some now) :=
    ⟨fun _ => lacpUpdate_number, fun _ different => quiet_lacpUpdate different⟩
  have rule := isLocal.eachPort_induct (R := KeptIfLacp dp p)
    (fun quiet isLacp => .of_quiet quiet isLacp) KeptIfLacp.trans
    (fun port own isLacp => kept_lacpUpdate own isLacp) numbers found
  obtain ⟨next, final, kept⟩ := rule
  exact ⟨next, final, kept isLacp⟩

/-- Ports that go down: a listed port is down afterwards, any other stays as it is. -/
theorem portsDelete_kept (dp : Datapath) (nominated : PortNo → Bool) (numbers : List PortNo)
    (found : findPort ports p = some port)
    (isLacp : port.IsLacp) (valid : ignorePort p = false) :
    ∃ next, findPort (dp.portsDelete nominated ports numbers).1 p = some next ∧
      Kept dp p port (dp.portsDelete nominated ports numbers).2 next ∧
      (p ∈ numbers → next.Down) ∧ (p ∉ numbers → next = port) := by
  by_cases member : p ∈ numbers
  · have rule := (local_portDown dp p nominated).eachPort_of_mem
      (R := fun port mods next => port.IsLacp → Kept dp p port mods next ∧ (port.Down → next.Down))
      (fun quiet isLacp => ⟨.of_quiet quiet isLacp, id⟩)
      (fun first second isLacp => ⟨(first isLacp).1.trans (second (first isLacp).1.isLacp).1,
        fun down => (second (first isLacp).1.isLacp).2 ((first isLacp).2 down)⟩)
      (fun port own isLacp => ⟨portDown_kept own isLacp, fun _ => portDown_down isLacp⟩)
      valid member found
    obtain ⟨mid, next, before, later, final, sent, own, first, second⟩ := rule
    have kept := (first isLacp).1
    have changed : Kept dp p mid (dp.portDown nominated mid).2 _ := portDown_kept own kept.isLacp
    obtain ⟨keptLater, down⟩ := second changed.isLacp
    refine ⟨next, final, ?_, fun _ => down (portDown_down kept.isLacp), absurd member⟩
    rw [Datapath.portsDelete, sent]
    exact kept.trans (changed.trans keptLater)
  · obtain ⟨same, quiet⟩ := (local_portDown dp p nominated).eachPort_of_not_mem member found
    exact ⟨port, same, .of_quiet quiet isLacp, fun listed => absurd listed member, fun _ => rfl⟩

/-- In a cold start the rule of a port that is listed fits, whatever it was. -/
theorem portsAdd_fits (dp : Datapath) (nominated : PortNo → Bool) (member : p ∈ numbers) (found : findPort ports p = some port)
    (isLacp : port.IsLacp) (valid : ignorePort p = false) (flow : Option FlowEntry) :
    ∃ next, findPort (dp.portsAdd nominated true ports numbers).1 p = some next ∧ next.IsLacp ∧
      OnlyDisables dp p (dp.portsAdd nominated true ports numbers).2 ∧
      Fits dp (dp.disabledBy p (dp.portsAdd nominated true ports numbers).2 flow) next := by
  have rule := (local_portUp dp p nominated true).eachPort_of_mem (R := KeptIfLacp dp p)
    (fun quiet isLacp => .of_quiet quiet isLacp) KeptIfLacp.trans
    (fun port own isLacp => portUp_kept own isLacp) valid member found
  obtain ⟨mid, next, before, later, final, sent, own, first, second⟩ := rule
  have kept := first isLacp
  have changed : Kept dp p mid (dp.portUp nominated true mid).2 _ := portUp_kept own kept.isLacp
  have keptLater := second changed.isLacp
  refine ⟨next, final, keptLater.isLacp, ?_, ?_⟩
  · rw [Datapath.portsAdd, sent]
    exact kept.only.append (changed.only.append keptLater.only)
  · rw [Datapath.portsAdd, sent, disabledBy_append, disabledBy_append]
    exact keptLater.fits _ (portUp_fits own kept.isLacp (.inl rfl))

end UpDown

end Faucet.Lacp
