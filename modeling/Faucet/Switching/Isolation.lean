import Faucet.Lacp.Forwarding
import Faucet.Switching.Messages

/-!
# Packets stay in their VLANs

The rules and groups that the managers write keep to the assertions of the tables, so what
the switch sends of a packet is good. That a learned host's rule keeps to them rests on what
the switch has sent to the controller before: the port that the packet came in by is in the
VLAN. So both go into one invariant, which a cold start makes and every step keeps.

The controller does not check whether the port is in the VLAN. A rule for LACP or LLDP sends
packets to it as they came in, and one packet that has the tag of another VLAN is enough to
learn a host there, on a port that is not in that VLAN.
-/

set_option autoImplicit false

namespace Faucet.Switching

open OpenFlow
open Flooding (Vid)
open Lacp (ofppController)

namespace Datapath

variable {dp : Datapath} {switch : Switch} {state next : State} {packet : Packet} {out : Output}
  {guard : Packet → Prop}

/-! ## One state of the switch -/

theorem asserts_of_keeps (flows : switch.Flows dp.Keeps) (groups : switch.Groups dp.GroupKeeps)
    (origin : Packet) :
    TableWalk.Asserts (tablesOf switch) (dp.InTable origin) (dp.Good origin) where
  emits := by
    rintro _ packet out holds ⟨flow, entry, ⟨rfl, present, accepts, _⟩, member⟩
    exact (flows flow entry present switch groups origin packet holds accepts).1 out member
  passes := by
    rintro _ packet next _ holds ⟨flow, entry, ⟨rfl, present, accepts, _⟩, goes, rfl⟩
    exact (flows flow entry present switch groups origin packet holds accepts).2 next goes

/-- What the switch sends of a packet is good. -/
theorem good_of_sends (flows : switch.Flows dp.Keeps) (groups : switch.Groups dp.GroupKeeps)
    (sends : Sends switch dp.lag.vlanTable packet out) : dp.Good packet out :=
  (asserts_of_keeps flows groups packet).good_of_sends (inTable_first.mpr rfl) sends

/-! ## The invariant -/

/-- What holds in every state of a run. -/
structure Inv (dp : Datapath) (state : State) : Prop where
  flows : state.switch.Flows dp.Keeps
  groups : state.switch.Groups dp.GroupKeeps
  /-- Packets of a configured VLAN were sent to the controller for ports that are in it. -/
  told : ∀ packetIn ∈ state.packetIns, packetIn.vid ∈ dp.flooding.vlans.map (·.vid) →
    ∃ port ∈ dp.ports, port.number = packetIn.inPort ∧ port.IsIn packetIn.vid

theorem Inv.inVlan (inv : dp.Inv state) {call : Call dp}
    (permitted : call.Permitted state.packetIns) : call.InVlan := by
  cases call with
  | learnHost port known vid mac =>
      obtain ⟨arrived, configured⟩ := permitted
      obtain ⟨other, known', number, isIn⟩ := inv.told _ arrived configured
      have same := port_eq known' known number
      exact same ▸ isIn
  | _ => trivial

theorem Inv.send (inv : dp.Inv state) {calls : List (Call dp)} {after : Switch}
    (permitted : ∀ call ∈ calls, call.Permitted state.packetIns)
    (gets : state.switch.Gets (calls.flatMap fun call => call.messages) after) :
    dp.Inv { state with switch := after } := by
  have keeps : ∀ ofmsg ∈ calls.flatMap fun call => call.messages, dp.MessageKeeps ofmsg := by
    intro ofmsg member
    obtain ⟨call, listed, sent⟩ := List.mem_flatMap.mp member
    exact messages_keep (inv.inVlan (permitted call listed)) sent
  exact ⟨flows_of_gets gets inv.flows fun ofmsg member => (keeps ofmsg member).1,
    groups_of_gets gets inv.groups fun ofmsg member => (keeps ofmsg member).2, inv.told⟩

theorem Inv.packetIn (inv : dp.Inv state) {vid : Vid} {inner : List Vid}
    (meets : dp.Orderly packet)
    (sends : Sends state.switch dp.lag.vlanTable packet ⟨ofppController, vid :: inner⟩) :
    dp.Inv { state with
      packetIns := ⟨packet.inPort, vid, packet.ethSrc⟩ :: state.packetIns } := by
  refine ⟨inv.flows, inv.groups, fun packetIn listed configured => ?_⟩
  rcases List.mem_cons.mp listed with rfl | earlier
  · obtain ⟨port, known, number, isIn | ⟨control, tags⟩⟩ :=
      (good_of_sends inv.flows inv.groups sends).told rfl vid rfl
    · exact ⟨port, known, number, isIn⟩
    · have head : packet.tags.head? = some vid := by rw [← tags, List.head?_cons]
      exact ⟨port, known, number, meets port known control vid configured head⟩
  · exact inv.told packetIn earlier configured

theorem Inv.expire (inv : dp.Inv state) (gone : FlowId → Bool) :
    dp.Inv { state with switch :=
      { state.switch with flows := fun flow => if gone flow then none else state.switch.flows flow } } := by
  refine ⟨fun flow entry present => ?_, inv.groups, inv.told⟩
  refine inv.flows flow entry ?_
  change (if gone flow then none else state.switch.flows flow) = some entry at present
  split at present
  · cases present
  · exact present

/-- **Every step keeps the invariant**, when no packet for LACP or LLDP has the tag of a VLAN
that its port is not in. -/
theorem Inv.step (inv : dp.Inv state) (stepped : Step dp dp.Orderly state next) : dp.Inv next := by
  cases stepped with
  | send calls permitted gets => exact inv.send permitted gets
  | packetIn packet vid inner meets sends => exact inv.packetIn meets sends
  | expire gone => exact inv.expire gone

/-- **A cold start** makes the invariant. -/
theorem inv_of_coldStart (cold : dp.ColdStart state) : dp.Inv state := by
  obtain ⟨quiet, before, calls, permitted, gets⟩ := cold
  have keeps : ∀ ofmsg ∈ dp.defaultFlows ++ calls.flatMap fun call => call.messages,
      dp.MessageKeeps ofmsg := by
    intro ofmsg member
    rcases List.mem_append.mp member with default | sent
    · exact defaultFlows_keep default
    · obtain ⟨call, listed, sent⟩ := List.mem_flatMap.mp sent
      refine messages_keep ?_ sent
      cases call with
      | learnHost => exact absurd (permitted _ listed).1 List.not_mem_nil
      | _ => trivial
  refine ⟨?_, ?_, ?_⟩
  · refine flows_of_wiped gets ⟨.flowMod Lacp.Datapath.wildcardFlowdel, ?_, ?_⟩
      fun ofmsg member => (keeps ofmsg member).1
    · exact List.mem_append_left _ List.mem_cons_self
    · exact ⟨_, rfl, rfl, rfl, rfl, rfl⟩
  · by_cases usesGroups : dp.flooding.useGroupTable = true
    · refine groups_of_wiped gets (List.mem_append_left _ ?_)
        fun ofmsg member => (keeps ofmsg member).2
      rw [defaultFlows, if_pos usesGroups]
      exact List.mem_append_left _ (List.mem_cons_of_mem _ List.mem_cons_self)
    · exact fun _ _ _ isUsed => absurd isUsed usesGroups
  · rw [quiet]
    exact fun _ none => absurd none List.not_mem_nil

theorem inv_of_reached (reached : dp.Reached dp.Orderly state) : dp.Inv state := by
  obtain ⟨start, cold, run⟩ := reached
  induction run with
  | refl => exact inv_of_coldStart cold
  | tail _ stepped inv => exact inv.step stepped

/-! ## The start of a run -/

/-- The batch of a cold start is sent, as its first message deletes all flows. -/
theorem exists_gets_of_start (before : Switch) (later : List Ofmsg) :
    ∃ after, before.Gets (dp.defaultFlows ++ later) after := by
  have wiped : .flowMod Lacp.Datapath.wildcardFlowdel ∈ dp.defaultFlows ++ later :=
    List.mem_append_left _ List.mem_cons_self
  have returned : dedupeOverlapsOfmsgs id (withoutSuppressed (dp.defaultFlows ++ later)) ≠ none := by
    intro failed
    obtain ⟨⟨ofmsg, _, _, kept, all, _⟩, _⟩ :=
      mixesDeletes_iff.mp (dedupeOverlapsOfmsgs_eq_none.mp failed)
    cases ofmsg with
    | flowMod mod => exact kept ⟨_, wiped, rfl, rfl⟩
    | _ => cases all
  obtain ⟨deletes, returned⟩ := Option.ne_none_iff_exists'.mp returned
  have delivers : ∃ after, before.deliver ⟨id, Shuffle.perm_id⟩ false (dp.defaultFlows ++ later) =
      some after := by
    rw [Switch.deliver, valveFlowreorder, returned]
    exact ⟨_, rfl⟩
  obtain ⟨after, delivers⟩ := delivers
  exact ⟨after, _, _, delivers⟩

/-- A flow comes from one of these messages. -/
def MadeBy (batch : List Ofmsg) (flow : FlowId) (_ : List Instruction) : Prop :=
  ∃ mod, .flowMod mod ∈ batch ∧ mod.isFlowdel = false ∧ mod.names flow = true

theorem makesFlows_madeBy {batch within : List Ofmsg} (sub : ∀ ofmsg ∈ within, ofmsg ∈ batch) :
    ∀ ofmsg ∈ within, MakesFlows (MadeBy batch) ofmsg :=
  fun ofmsg member mod same notDel _ named => ⟨mod, same ▸ sub ofmsg member, notDel, named⟩

/-- The message makes a better rule for the packet. -/
def outranks (packet : Packet) (flow : FlowId) : Ofmsg → Bool
  | .flowMod mod => mod.tableId == flow.tableId && packet.accepted mod.matchFields &&
      decide (flow.priority < mod.priority)
  | _ => false

theorem handles_of_madeBy {batch : List Ofmsg} {flow : FlowId} {entry : FlowEntry}
    (made : switch.Flows (MadeBy batch)) (present : switch.flows flow = some entry)
    (accepts : packet.accepted flow.matchFields = true)
    (best : ∀ ofmsg ∈ batch, outranks packet flow ofmsg = false) :
    Handles switch flow.tableId packet flow entry := by
  refine ⟨rfl, present, accepts, fun other inTable there accepts' => ?_⟩
  obtain ⟨entry', present'⟩ := Option.ne_none_iff_exists'.mp there
  obtain ⟨mod, member, _, named⟩ := made other entry' present'
  simp only [FlowMod.names, Bool.and_eq_true, beq_iff_eq] at named
  obtain ⟨⟨table, priority⟩, fields⟩ := named
  have notBetter := best _ member
  simpa [outranks, table, inTable, priority, fields, accepts'] using notBetter

/-- A rule that one message alone makes is there. -/
theorem present_of_gets {batch : List Ofmsg} {after : Switch} {flow : FlowId} {mod : FlowMod}
    (gets : switch.Gets batch after) (member : .flowMod mod ∈ batch) (isAdd : mod.command = .add)
    (named : mod.names flow = true)
    (only : ∀ ofmsg ∈ batch, sets flow ofmsg = true → ofmsg = .flowMod mod) :
    after.flows flow = some mod.entry := by
  obtain ⟨shuffle, useBarriers, delivers⟩ := gets
  refine deliver_alone delivers member ?_ only isAdd
  rw [sets, FlowMod.isFlowdel, isAdd, named]
  rfl

/-! ## A LAG -/

section Lab

/-- Port 1 is in VLAN 100 and has LACP, and port 2 is in VLAN 200. -/
def labPort (number : PortNo) (vid : Vid) (lacp : ℕ) : Port where
  number := number
  nativeVlan := none
  dynDot1xNativeVlan := none
  taggedVlans := [vid]
  mirror := []
  lacp := lacp
  forwards := true
  permanentLearn := false
  loopProtect := false
  loopProtectExternal := false
  hairpin := false
  hairpinUnicast := false
  maxHosts := 255
  dynUpdateTime := none
  unicastFlood := true
  restrictedBcastArpnd := false
  countUntagVlanMiss := false
  receiveLldp := false
  outputOnly := false
  opstatusReconf := true

/-- One port in each of two VLANs. -/
def labPorts : List Port := [labPort 1 100 1, labPort 2 200 0]

theorem lab_numbers : ∀ port ∈ labPorts, port.number < ofppMax ∧
    ∀ mirror ∈ port.mirror, mirror < ofppMax := by decide

theorem lab_hairpins : ∀ port ∈ labPorts.map Port.toPort,
    port.hairpinning = true → (none : Option (Fin 255)) ≠ none := by decide

theorem lab_apart : ([0, 1, 2, 3] ++ [] ++ [] : List (Fin 255)).Nodup := by decide

theorem no_groups : ¬ (false = true ∧ false = true) := fun both => Bool.false_ne_true both.1

/-- A datapath with these ports. -/
def lab : Datapath where
  ports := labPorts
  learning :=
    { ports := labPorts.map Port.toPort
      vlans := [⟨100, 0, none⟩, ⟨200, 0, none⟩]
      learnTimeout := 300
      learnJitter := 51
      learnBanTimeout := 51
      cacheUpdateGuardTime := 150
      idleDst := true
      useIdleTimeout := false
      dynLastColdstartTime := some 1
      hash := fun mac => mac
      ethSrcTable := 1
      ethDstTable := 2
      ethDstHairpinTable := none
      classification := none
      egressTable := none
      flowCookie := 1
      useBarriers := true
      portNumbers := by decide
      srcApart := Learning.tables_apart
      dstApart := Learning.noHairpin_apart
      hairpins := lab_hairpins }
  flooding :=
    { vlans := [⟨100, true, false⟩, ⟨200, true, false⟩]
      vids := by decide
      vidValid := by decide
      floodTable := 3
      flowCookie := 1
      lowestPriority := 0
      useGroupTable := false
      combinatorialPortFlood := false
      exclusive := no_groups
      restrictedBcastArpnd := false }
  lag := Lacp.labDatapath
  dropSpoofedFaucetMac := true
  dropBroadcastSourceAddress := true
  learningPorts := rfl
  noEgress := rfl
  apart := lab_apart
  numbers := lab_numbers

/-- Port 1 while it is up. -/
def portUp : Lacp.Port where
  number := 1
  lacp := 1
  enabled := true
  dynPhysUp := true
  lacpSelected := false
  lacpUnselected := false
  lacpStandby := false
  dynLacpUp := none
  dynLacpActorState := .up
  dynLacpPortSelected := .selected

theorem known_one : labPort 1 100 1 ∈ lab.ports := by decide

theorem known_two : labPort 2 200 0 ∈ lab.ports := by decide

/-- VLAN 200 and both ports are added. -/
def labCalls : List (Call lab) :=
  [.addVlan ⟨200, true, false⟩ (by decide) 0x0e0000000001 (fun _ => portUp) true,
    .addPort _ known_one portUp, .addPort _ known_two portUp]

/-- What is sent when the datapath connects. -/
def labStart : List Ofmsg := lab.defaultFlows ++ labCalls.flatMap fun call => call.messages

/-- The host 10 is learned in VLAN 200 on port 1. -/
def labLearned : List (Call lab) := [.learnHost _ known_one 200 10 false false]

/-- What is sent when a host is learned. -/
def labBatch : List Ofmsg := labLearned.flatMap fun call => call.messages

/-- A packet for LACP with the tag of VLAN 200. -/
def lacpFrame : Packet where
  inPort := 1
  tags := [200]
  vlanPcp := 0
  ethDst := Lacp.slowProtocolMulticast
  ethSrc := 10
  ethType := 0x8809

/-- A packet of VLAN 200 for the host. -/
def toHost : Packet where
  inPort := 2
  tags := [200]
  vlanPcp := 0
  ethDst := 10
  ethSrc := 20
  ethType := 0x0800

/-- The LACP rule of port 1. -/
def lacpRule : FlowMod :=
  lab.lag.flowcontroller (Lacp.Datapath.lacpMatch 1) lab.lag.highestPriority

/-- The VLAN rule of port 2. -/
def vlanRule : FlowMod :=
  lab.lag.flowmod (Lacp.Datapath.vlanMatch 2 200) Learning.lowPriority
    (lab.vlanInst (labPort 2 200 0) none)

/-- The rule for hosts that are not known. -/
def sourceRule : FlowMod := lab.unknownSource 200

/-- The rule of the host. -/
def hostRule : FlowMod := lab.learning.dstFlowmod (labPort 1 100 1).toPort 200 10 none

variable {before started learned : Switch}

theorem made_of_started (gets : before.Gets labStart started) :
    started.Flows (MadeBy (labStart ++ labBatch)) :=
  flows_of_wiped gets ⟨_, List.mem_cons_self, _, rfl, rfl, rfl, rfl, rfl⟩
    (makesFlows_madeBy fun _ member => List.mem_append_left _ member)

theorem lacpFrame_sent (gets : before.Gets labStart started) :
    Sends started lab.lag.vlanTable lacpFrame ⟨ofppController, [200]⟩ := by
  have present : started.flows ⟨0, lacpRule.priority, lacpRule.matchFields⟩ =
      some lacpRule.entry := present_of_gets gets (by decide) rfl rfl (by decide)
  have handles := handles_of_madeBy (made_of_started gets) present
    (by decide : lacpFrame.accepted _ = true) (by decide)
  exact .here ⟨_, _, handles, List.mem_singleton_self _⟩

/-- The rules that the packets meet first. -/
structure Meets (switch : Switch) : Prop where
  made : switch.Flows (MadeBy (labStart ++ labBatch))
  vlan : switch.flows ⟨0, vlanRule.priority, vlanRule.matchFields⟩ = some vlanRule.entry
  source : switch.flows ⟨1, sourceRule.priority, sourceRule.matchFields⟩ = some sourceRule.entry

theorem meets_of_started (gets : before.Gets labStart started) : Meets started where
  made := made_of_started gets
  vlan := present_of_gets gets (by decide) rfl rfl (by decide)
  source := present_of_gets gets (by decide) rfl rfl (by decide)

theorem Meets.learn (meets : Meets started) (gets : started.Gets labBatch learned) :
    Meets learned := by
  have kept : ∀ flow, (∀ ofmsg ∈ labBatch, sets flow ofmsg = false) →
      learned.flows flow = started.flows flow := by
    intro flow unset
    obtain ⟨shuffle, useBarriers, delivers⟩ := gets
    refine deliver_kept delivers unset fun entry _ ⟨ofmsg, member, isDel, _⟩ => ?_
    have noDeletes : ∀ ofmsg ∈ labBatch, isDelete ofmsg = false := by decide
    rw [noDeletes ofmsg member] at isDel
    cases isDel
  refine ⟨flows_of_gets gets meets.made
    (makesFlows_madeBy fun _ member => List.mem_append_right _ member), ?_, ?_⟩
  · exact (kept _ (by decide)).trans meets.vlan
  · exact (kept _ (by decide)).trans meets.source

/-- The packet comes to the rule of its VLAN in the source table. -/
theorem Meets.toHost_sends (meets : Meets started) {out : Output}
    (sends : out ∈ instOutputs started toHost sourceRule.instructions ∨ Sends started 2 toHost out) :
    Sends started lab.lag.vlanTable toHost out := by
  have atVlan := handles_of_madeBy meets.made meets.vlan (by decide : toHost.accepted _ = true)
    (by decide)
  have atSource := handles_of_madeBy meets.made meets.source (by decide : toHost.accepted _ = true)
    (by decide)
  have second : Sends started 1 toHost out := by
    rcases sends with here | later
    · exact .here ⟨_, _, atSource, here⟩
    · exact .later ⟨_, _, atSource, by decide, rfl⟩ later
  exact .later ⟨_, _, atVlan, by decide, rfl⟩ second

theorem toHost_sent (gets : before.Gets labStart started) (gets' : started.Gets labBatch learned) :
    Sends learned lab.lag.vlanTable toHost ⟨1, [200]⟩ := by
  have meets := (meets_of_started gets).learn gets'
  have present : learned.flows ⟨2, hostRule.priority, hostRule.matchFields⟩ =
      some hostRule.entry := present_of_gets gets' (by decide) rfl rfl (by decide)
  have handles := handles_of_madeBy meets.made present (by decide : toHost.accepted _ = true)
    (by decide)
  exact meets.toHost_sends (.inr (.here ⟨_, _, handles, List.mem_singleton_self _⟩))

theorem exists_started : ∃ started, before.Gets labStart started := exists_gets_of_start before _

theorem exists_learned {calls : List (Call lab)}
    (quiet : withoutSuppressed (calls.flatMap fun call => call.messages) = []) :
    ∃ learned, started.Gets (calls.flatMap fun call => call.messages) learned := by
  obtain ⟨learned, delivers⟩ :=
    @Lacp.exists_deliver_of_no_deletes ⟨id, Shuffle.perm_id⟩ false started _ quiet
  exact ⟨learned, _, _, delivers⟩

theorem coldStart_lab (gets : before.Gets labStart started) : lab.ColdStart ⟨started, []⟩ :=
  ⟨rfl, before, labCalls, by simp [labCalls, Call.Permitted], gets⟩

end Lab

/-! ## Isolation -/

/-- **Packets stay in their VLANs** in every state of a run, whatever the managers are called
for and in whatever order: each packet goes only to the controller, to the mirrors of its
port, and to ports of the VLAN that its port takes it to be in. -/
theorem isolates_of_reached (reached : dp.Reached dp.Orderly state) :
    dp.Isolates state.switch :=
  fun _ _ sends => (good_of_sends (inv_of_reached reached).flows
    (inv_of_reached reached).groups sends).within

/-- The host 20 is learned in VLAN 200 on its own port. -/
theorem isolates_lab : ∃ state, state.packetIns = [⟨2, 200, 20⟩] ∧
    lab.Reached lab.Orderly state ∧ lab.Isolates state.switch := by
  obtain ⟨started, gets⟩ := @exists_started ⟨fun _ => none, fun _ => none, fun _ => none⟩
  obtain ⟨learned, gets'⟩ := @exists_learned started [.learnHost _ known_two 200 20 false false]
    (by decide)
  have orderly : lab.Orderly toHost := by
    rintro port known ⟨number, _⟩ _ _ ⟨⟩
    have onlyTwo : ∀ port ∈ labPorts, port.number = 2 → 200 ∈ port.taggedVlans := by decide
    exact .inl (onlyTwo port known number)
  have told : Step lab lab.Orderly ⟨started, []⟩ ⟨started, [⟨2, 200, 20⟩]⟩ :=
    .packetIn toHost 200 [] orderly
      ((meets_of_started gets).toHost_sends (.inl (List.mem_singleton_self _)))
  have learns : Step lab lab.Orderly ⟨started, [⟨2, 200, 20⟩]⟩ ⟨learned, [⟨2, 200, 20⟩]⟩ := by
    refine .send _ (fun call member => ?_) gets'
    cases List.mem_singleton.mp member
    exact ⟨List.mem_singleton_self _, by decide⟩
  have reached : lab.Reached lab.Orderly ⟨learned, [⟨2, 200, 20⟩]⟩ :=
    ⟨_, coldStart_lab gets, .tail (.tail .refl told) learns⟩
  exact ⟨_, rfl, reached, isolates_of_reached reached⟩

/-- **One packet for LACP is enough** to let packets out of their VLAN. -/
theorem not_isolates_lab : ∃ state, lab.Reached (fun _ => True) state ∧
    ¬ lab.Isolates state.switch := by
  obtain ⟨started, gets⟩ := @exists_started ⟨fun _ => none, fun _ => none, fun _ => none⟩
  obtain ⟨learned, gets'⟩ := @exists_learned started labLearned (by decide)
  have told : Step lab (fun _ => True) ⟨started, []⟩ ⟨started, [⟨1, 200, 10⟩]⟩ :=
    .packetIn lacpFrame 200 [] trivial (lacpFrame_sent gets)
  have learns : Step lab (fun _ => True) ⟨started, [⟨1, 200, 10⟩]⟩ ⟨learned, [⟨1, 200, 10⟩]⟩ := by
    refine .send labLearned (fun call member => ?_) gets'
    cases List.mem_singleton.mp member
    exact ⟨List.mem_singleton_self _, by decide⟩
  refine ⟨_, ⟨_, coldStart_lab gets, .tail (.tail .refl told) learns⟩, fun isolates => ?_⟩
  rcases isolates toHost ⟨1, [200]⟩ (toHost_sent gets gets') with
    isController | ⟨port, known, number, isMirror, _⟩ |
      ⟨_, egress, _, known, _, vid, inner, carries, wears, output, _⟩
  · cases isController
  · have noMirrors : ∀ port ∈ labPorts, port.mirror = [] := by decide
    rw [noMirrors port known] at isMirror
    cases isMirror
  · have ofVlan : vid = 200 := by
      rcases carries with ⟨_, tags⟩ | ⟨_, tags, _⟩
      · cases tags
        rfl
      · cases tags
    subst ofVlan
    have others : ∀ port ∈ labPorts, 1 ∈ port.number :: port.mirror →
        200 ∉ port.taggedVlans ∧ port.isUntagged 200 = false := by decide
    obtain ⟨notTagged, notUntagged⟩ := others egress known output
    rcases wears with ⟨isTagged, _⟩ | ⟨isUntagged, _⟩
    · exact notTagged isTagged
    · rw [notUntagged] at isUntagged
      cases isUntagged

end Datapath

end Faucet.Switching
