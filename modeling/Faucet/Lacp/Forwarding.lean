import Faucet.Lacp.PortChanges

/-!
# A LACP port forwards exactly without its drop rule

While a port runs, its drop rule is installed exactly when the port is not both selected and its
actor up, over any run in which the port stays a LACP port and no cold start leaves it out
while it is running or waits for packets (`blocked_iff_of_orderly`). A cold start removes
every rule but adds only the ports that are up: a port that is left out keeps its
state, and its rule is not written again.
-/

set_option autoImplicit false

namespace Faucet.Lacp

open OpenFlow
open Egress (ignorePort)
open Ports (Reason)
open TransitionSystem (Reaches)

variable {dp : Datapath} {p : PortNo} {shuffle : Shuffle} {useBarriers : Bool}
  {nominated : PortNo → Bool} {mods : List FlowMod} {port old next : LagPort}

/-! ## Batches -/

section Delivered

variable {switch sent : Switch} {input : List Ofmsg}

/-- The rule fits the state after a batch that decides it. -/
theorem deliver_fits {verdict : Option Bool} (decides : Decides dp p mods verdict)
    (batch : input.filter (concernsTable dp.vlanTable) = mods.map .flowMod)
    (delivers : switch.deliver shuffle useBarriers input = some sent)
    (step : ∀ flow, Fits dp flow port → Fits dp (dp.ruleAfter flow verdict) next)
    (fits : Fits dp (switch.flows (dp.dropFlow p)) port) :
    Fits dp (sent.flows (dp.dropFlow p)) next := by
  cases verdict with
  | some disables =>
      rw [deliver_of_decides decides batch delivers]
      cases disables
      · exact step _ fits
      · exact step _ fits
  | none =>
      rcases fits with dormant | known
      · exact step _ (.inl dormant)
      · have isDrop : ∀ entry ∈ switch.flows (dp.dropFlow p), entry = dp.dropEntry := by
          intro entry installed
          rw [known, Option.mem_def] at installed
          split at installed
          next => cases installed
          next => exact (Option.some.inj installed).symm
        rw [deliver_of_quiet decides batch delivers isDrop]
        exact step _ (.inr known)

theorem Kept.deliver (kept : Kept dp p port mods next)
    (batch : input.filter (concernsTable dp.vlanTable) = mods.map .flowMod)
    (delivers : switch.deliver shuffle useBarriers input = some sent)
    (fits : Fits dp (switch.flows (dp.dropFlow p)) port) :
    Fits dp (sent.flows (dp.dropFlow p)) next := by
  refine deliver_fits kept.only.decides batch delivers (fun flow before => ?_) fits
  rw [ruleAfter_disableVerdict]
  exact kept.fits flow before

theorem send_eq_some {ofmsgs : List FlowMod}
    (sends : dp.send shuffle useBarriers switch ofmsgs input = some sent) :
    input.filter (concernsTable dp.vlanTable) = ofmsgs.map .flowMod ∧
      switch.deliver shuffle useBarriers input = some sent := by
  rw [Datapath.send] at sends
  split at sends
  next batch => exact ⟨batch, sends⟩
  next => cases sends

end Delivered

theorem Fits.known_of_init {flow : Option FlowEntry} (fits : Fits dp flow port)
    (waits : port.dynLacpActorState = .init) : flow = some dp.dropEntry := by
  rcases fits with dormant | known
  · exact absurd waits dormant.2
  · rw [known, LagPort.forwards, Port.isActorUp, waits]
    simp

/-! ## The state -/

/-- The port is a LACP port whose rule fits. While the datapath is not connected, the port is
not known to be up. -/
structure Settled (dp : Datapath) (p : PortNo) (s : State) (port : LagPort) : Prop where
  found : findPort s.ports p = some port
  isLacp : port.IsLacp
  fits : Fits dp (s.switch.flows (dp.dropFlow p)) port
  disconnected : s.dynRunning = false → p ∉ s.dynUpPortNos ∧ port.Dormant

/-- A LACP port whose rule is not in question is one of the new configuration. -/
def StaysLacp (p : PortNo) : Event → Prop
  | .reload reload _ _ => ∃ port ∈ findPort reload.ports p, port.lacp ≠ 0
  | _ => True

/-- A cold start has the port among those that are up, or finds that it forwards or is dormant. -/
def SafeStart (p : PortNo) (s : State) : Event → Prop
  | .datapathConnect _ upPorts _ _ =>
      p ∈ upPorts ∨ ∀ port ∈ findPort s.ports p, port.forwards = true ∨ port.Dormant
  | _ => True

/-! ## Reloads -/

section Reload

variable {reload : Reload} {ports left : List LagPort} {dynUpPortNos : Finset PortNo}

theorem findPort_isSome_iff : (findPort ports p).isSome ↔ p ∈ ports.map (·.number) := by
  rw [findPort, List.find?_isSome, List.mem_map]
  simp only [decide_eq_true_eq]

theorem cloned_number : (reload.cloned ports left port).number = port.number := by
  rw [Reload.cloned]
  repeat' split
  all_goals rfl

theorem findPort_cloned (found : findPort reload.ports p = some port) :
    findPort (reload.ports.map (reload.cloned ports left)) p =
      some (reload.cloned ports left port) := by
  have asBefore : ((fun other : LagPort => decide (other.number = p)) ∘ reload.cloned ports left) =
      fun other => decide (other.number = p) := by
    funext other
    rw [Function.comp_apply, cloned_number]
  rw [findPort] at found
  rw [findPort, List.find?_map, asBefore, found, Option.map_some]

theorem cloned_of_same {gone : LagPort} (same : port.number ∈ reload.same)
    (foundOld : findPort ports port.number = some old)
    (foundLeft : findPort left port.number = some gone) :
    reload.cloned ports left port = (port.initial.mergeDyn old).setPhysUp gone.dynPhysUp := by
  rw [Reload.cloned, foundOld, foundLeft]
  dsimp only
  rw [if_pos same]

theorem cloned_of_not_same {gone : LagPort} (other : port.number ∉ reload.same)
    (foundOld : findPort ports port.number = some old)
    (foundLeft : findPort left port.number = some gone) :
    reload.cloned ports left port = port.initial.setPhysUp gone.dynPhysUp := by
  rw [Reload.cloned, foundOld, foundLeft]
  dsimp only
  rw [if_neg other]

/-- A reload that finds what has changed. -/
structure Reload.Finds (reload : Reload) (ports : List LagPort) (p : PortNo) (old new : LagPort) :
    Prop where
  notDeleted : p ∉ reload.deleted
  notAdded : p ∉ reload.added
  enabled : p ∈ reload.same → old.enabled = new.enabled
  sameOrChanged : p ∈ reload.same ∨ p ∈ reload.changed

theorem finds_of_fits {new : LagPort} (fits : reload.fits ports = true)
    (foundOld : findPort ports p = some old) (foundNew : findPort reload.ports p = some new) :
    reload.Finds ports p old new := by
  have inOld : p ∈ ports.map (·.number) := by
    rw [← findPort_isSome_iff, foundOld]
    rfl
  have inNew : p ∈ reload.ports.map (·.number) := by
    rw [← findPort_isSome_iff, foundNew]
    rfl
  rw [Reload.fits, decide_eq_true_eq] at fits
  obtain ⟨_, deleted, added, sameConf, _, _, covered⟩ := fits
  refine ⟨?_, ?_, fun same => ?_, covered p inNew inOld⟩
  · rw [deleted.mem_iff, List.mem_filter]
    simp [inNew]
  · rw [added.mem_iff, List.mem_filter]
    simp [inOld]
  · have conf := sameConf p same
    rw [foundOld, foundNew, Option.map_some, Option.map_some, Option.some_inj] at conf
    have enabled : old.conf.enabled = new.conf.enabled := by rw [conf]
    exact enabled

/-- The port of the new configuration after the deletes: it is taken over as it is, or it is down
with what it had been or nothing. -/
theorem cloned_kept {new gone : LagPort} (finds : reload.Finds ports p old new)
    (lacp : new.lacp ≠ 0) (isLacp : old.IsLacp) (own : new.number = p)
    (foundOld : findPort ports p = some old) (foundLeft : findPort left p = some gone)
    (kept : Kept dp p old mods gone) (down : p ∈ reload.changed → gone.Down)
    (stays : p ∉ reload.changed → gone = old) :
    Kept dp p old mods (reload.cloned ports left new) ∧
      (old.Dormant → (reload.cloned ports left new).Dormant) := by
  subst own
  by_cases same : new.number ∈ reload.same
  · rw [cloned_of_same same foundOld foundLeft]
    have enabled := finds.enabled same
    have mergedLacp : ((new.initial.mergeDyn old).setPhysUp gone.dynPhysUp).IsLacp :=
      ⟨lacp, fun disabled => isLacp.disabled (enabled.trans disabled)⟩
    by_cases changed : new.number ∈ reload.changed
    · have notRunning : ((new.initial.mergeDyn old).setPhysUp gone.dynPhysUp).running = false := by
        rw [(down changed).1]
        exact Bool.and_false _
      refine ⟨⟨mergedLacp, kept.only, fun flow fits => ?_⟩, fun dormant => ⟨notRunning, dormant.2⟩⟩
      by_cases waits : old.dynLacpActorState = .init
      · have blocked : old.forwards = false := by
          rw [LagPort.forwards, Port.isActorUp, waits]
          exact Bool.and_false _
        refine .not_forwards blocked ?_
        rw [fits.known_of_init waits]
        exact ite_self _
      · exact .inl ⟨notRunning, waits⟩
    · obtain rfl : gone = old := stays changed
      have running : ((new.initial.mergeDyn gone).setPhysUp gone.dynPhysUp).running =
          gone.running := by
        rw [Port.running, Port.running, enabled]
        rfl
      exact ⟨⟨mergedLacp, kept.only, fun flow fits => (kept.fits flow fits).congr running rfl rfl⟩,
        fun dormant => ⟨running.trans dormant.1, dormant.2⟩⟩
  · have changed := finds.sameOrChanged.resolve_left same
    rw [cloned_of_not_same same foundOld foundLeft]
    have dormant : (new.initial.setPhysUp gone.dynPhysUp).Dormant := by
      refine ⟨?_, by rintro ⟨⟩⟩
      rw [(down changed).1]
      exact Bool.and_false _
    exact ⟨⟨⟨lacp, fun _ => dormant.2⟩, kept.only, fun _ _ => .inl dormant⟩, fun _ => dormant⟩

/-- **A reload keeps that the rule fits.** -/
theorem applyConfigChanges_kept (dp : Datapath) (nominated : PortNo → Bool)
    (dynUpPortNos : Finset PortNo) {new : LagPort} (finds : reload.Finds ports p old new)
    (lacp : new.lacp ≠ 0) (isLacp : old.IsLacp) (valid : ignorePort p = false)
    (foundOld : findPort ports p = some old) (foundNew : findPort reload.ports p = some new) :
    ∃ next, findPort (dp.applyConfigChanges nominated ports dynUpPortNos reload).1 p = some next ∧
      Kept dp p old (dp.applyConfigChanges nominated ports dynUpPortNos reload).2 next ∧
      (p ∉ dynUpPortNos → old.Dormant → next.Dormant) := by
  obtain ⟨kept, foundKept, keptDeletes, _, isOld⟩ :=
    portsDelete_kept dp nominated reload.deleted foundOld isLacp valid
  obtain rfl := isOld finds.notDeleted
  obtain ⟨gone, foundGone, keptChanges, down, stays⟩ :=
    portsDelete_kept dp nominated reload.changed foundKept isLacp valid
  obtain ⟨keptClone, dormantClone⟩ := cloned_kept finds lacp isLacp (number_of_findPort foundNew)
    foundOld foundGone (keptDeletes.trans keptChanges) down stays
  have notAdded : p ∉ reload.added.filter (· ∈ dynUpPortNos) :=
    fun member => finds.notAdded (List.mem_of_mem_filter member)
  obtain ⟨foundAdded, quietAdds⟩ :=
    (local_portUp dp p nominated false).eachPort_of_not_mem notAdded (findPort_cloned foundNew)
  obtain ⟨next, foundNext, keptReadds⟩ := portsAdd_kept dp nominated false
    (reload.changed.filter (· ∈ dynUpPortNos)) foundAdded keptClone.isLacp
  refine ⟨next, foundNext,
    (keptClone.trans (.of_quiet quietAdds keptClone.isLacp)).trans keptReadds, fun offline dormant => ?_⟩
  have notUp : p ∉ reload.changed.filter (· ∈ dynUpPortNos) :=
    fun member => offline (by simpa using List.of_mem_filter member)
  obtain ⟨same, _⟩ := (local_portUp dp p nominated false).eachPort_of_not_mem notUp foundAdded
  cases foundNext.symm.trans same
  exact dormantClone dormant

end Reload

/-! ## Steps -/

section Steps

variable {s sNext : State} {event : Event}

theorem after_eq_some {changed : List LagPort × List FlowMod} {batch : List Ofmsg}
    (stepped : dp.after shuffle useBarriers s changed batch = some sNext) :
    ∃ switch, batch.filter (concernsTable dp.vlanTable) = changed.2.map .flowMod ∧
      s.switch.deliver shuffle useBarriers batch = some switch ∧
      sNext = { s with ports := changed.1, switch } := by
  obtain ⟨switch, sends, rfl⟩ := Option.map_eq_some_iff.mp stepped
  obtain ⟨batches, delivers⟩ := send_eq_some sends
  exact ⟨switch, batches, delivers, rfl⟩

/-- Ports of a connected datapath that change with messages that can only install the rule. -/
theorem Settled.after {changed : List LagPort × List FlowMod} {batch : List Ofmsg}
    (settled : Settled dp p s port) (running : s.dynRunning = true)
    (found : findPort changed.1 p = some next) (kept : Kept dp p port changed.2 next)
    (stepped : dp.after shuffle useBarriers s changed batch = some sNext) :
    Settled dp p sNext next := by
  obtain ⟨switch, batches, delivers, rfl⟩ := after_eq_some stepped
  refine ⟨found, kept.isLacp, kept.deliver batches delivers settled.fits, fun stopped => ?_⟩
  cases running.symm.trans stopped

theorem Settled.withUp (settled : Settled dp p s port) (running : s.dynRunning = true)
    (dynUpPortNos : Finset PortNo) : Settled dp p { s with dynUpPortNos } port := by
  refine ⟨settled.found, settled.isLacp, settled.fits, fun stopped => ?_⟩
  cases running.symm.trans stopped

theorem portStatusHandler_kept (dp : Datapath) (nominated : PortNo → Bool) {ports : List LagPort}
    (portNo : PortNo) (reason : Reason) (ofState : ℕ) (found : findPort ports p = some port) (isLacp : port.IsLacp)
    (valid : ignorePort p = false) :
    ∃ next, findPort (dp.portStatusHandler nominated ports portNo reason ofState).1 p = some next ∧
      Kept dp p port (dp.portStatusHandler nominated ports portNo reason ofState).2 next := by
  have unchanged : ∃ next, findPort ports p = some next ∧ Kept dp p port [] next :=
    ⟨port, found, .of_quiet quiet_nil isLacp⟩
  have down : ∃ next, findPort (dp.portsDelete nominated ports [portNo]).1 p = some next ∧
      Kept dp p port (dp.portsDelete nominated ports [portNo]).2 next := by
    obtain ⟨next, final, kept, _⟩ := portsDelete_kept dp nominated [portNo] found isLacp valid
    exact ⟨next, final, kept⟩
  rw [Datapath.portStatusHandler]
  cases port? ports portNo with
  | none => exact unchanged
  | some other =>
      dsimp only
      split
      next => exact unchanged
      split
      next => exact unchanged
      split
      next =>
        split
        next => exact portsAdd_kept dp nominated false [portNo] found isLacp
        next => exact down
      next =>
        split
        next => exact down
        next => exact unchanged

/-- An update with a packet decides the rule as the new state wants it. -/
theorem decides_lacpUpdate (dp : Datapath) (lacpUp lacpPkt selected : Bool) (now : Option ℤ)
    (own : port.number = p) :
    ∃ verdict,
      Decides dp p (dp.lacpUpdate port lacpUp lacpPkt false selected now).2 verdict ∧
      ∀ flow, Fits dp flow port → Fits dp (dp.ruleAfter flow verdict)
        (dp.lacpUpdate port lacpUp lacpPkt false selected now).1 := by
  rcases updated_lacpUpdate dp port lacpUp lacpPkt false selected now with
    ⟨none, _, actor, selection⟩ | ⟨rest, same, quiet⟩
  · rw [none]
    exact ⟨_, quiet_nil.decides, fun flow fits => fits.congr lacpUpdate_running actor selection⟩
  · rw [same, own]
    refine ⟨_, decides_ruleMod.append (quiet p).decides nofun, fun flow _ => .inr ?_⟩
    cases (dp.lacpUpdate port lacpUp lacpPkt false selected now).1.forwards <;> rfl

/-- A LACP packet, of the port or of another one. -/
theorem Settled.lacpPacket {portNo : PortNo} {synchronization : Bool} {now : ℤ} {batch : List Ofmsg}
    (settled : Settled dp p s port) (running : s.dynRunning = true)
    (stepped : dp.after shuffle useBarriers s
      (dp.lacpHandler nominated s.ports portNo synchronization now) batch = some sNext) :
    ∃ next, Settled dp p sNext next := by
  rw [Datapath.lacpHandler] at stepped
  have unchanged : Kept dp p port [] port := .of_quiet quiet_nil settled.isLacp
  cases there : findPort s.ports portNo with
  | none =>
      rw [there] at stepped
      exact ⟨port, settled.after running settled.found unchanged stepped⟩
  | some other =>
      rw [there] at stepped
      dsimp only at stepped
      split at stepped
      next => exact ⟨port, settled.after running settled.found unchanged stepped⟩
      next =>
        have otherNumber := number_of_findPort there
        have found := findPort_setPort
          (dp.lacpUpdate other synchronization true false (nominated other.number) (some now)).1
          settled.found
        rw [lacpUpdate_number] at found
        by_cases own : other.number = p
        · rw [if_pos own] at found
          obtain rfl : portNo = p := otherNumber.symm.trans own
          cases there.symm.trans settled.found
          obtain ⟨switch, batches, delivers, rfl⟩ := after_eq_some stepped
          obtain ⟨verdict, decides, step⟩ := decides_lacpUpdate dp synchronization true
            (nominated port.number) (some now) otherNumber
          refine ⟨_, found, lacpUpdate_isLacp settled.isLacp,
            deliver_fits decides batches delivers step settled.fits, fun stopped => ?_⟩
          cases running.symm.trans stopped
        · rw [if_neg own] at found
          have quiet : Quiet dp p (dp.lacpUpdate other synchronization true false
              (nominated other.number) (some now)).2 :=
            quiet_lacpUpdate own
          exact ⟨port, settled.after running found (.of_quiet quiet settled.isLacp) stepped⟩

/-- A cold start. -/
theorem Settled.datapathConnect {discoveredUp upPorts : List PortNo} {batch : List Ofmsg}
    (settled : Settled dp p s port) (valid : ignorePort p = false)
    (safe : SafeStart p s (.datapathConnect discoveredUp upPorts nominated batch))
    (stepped : dp.step shuffle useBarriers s
      (.datapathConnect discoveredUp upPorts nominated batch) = some sNext) :
    ∃ next, Settled dp p sNext next := by
  rw [Datapath.step] at stepped
  split at stepped
  next =>
    obtain ⟨switch, sends, rfl⟩ := Option.map_eq_some_iff.mp stepped
    obtain ⟨batches, delivers⟩ := send_eq_some sends
    by_cases member : p ∈ upPorts
    · obtain ⟨next, found, isLacp, only, fits⟩ :=
        portsAdd_fits dp nominated member settled.found settled.isLacp valid none
      refine ⟨next, found, isLacp, ?_, by simp⟩
      rw [deliver_of_cold only.decides batches disableVerdict_ne delivers, ruleAfter_disableVerdict]
      exact fits
    · obtain ⟨found, quiet⟩ :=
        (local_portUp dp p nominated true).eachPort_of_not_mem member settled.found
      refine ⟨port, found, settled.isLacp, ?_, by simp⟩
      rw [deliver_of_cold quiet.decides batches (by simp) delivers]
      rcases safe.resolve_left member port settled.found with forwards | dormant
      · refine .inr ?_
        rw [forwards]
        rfl
      · exact .inl dormant
  next => cases stepped

/-- A disconnect. -/
theorem Settled.datapathDisconnect (settled : Settled dp p s port) (valid : ignorePort p = false)
    (stepped : dp.step shuffle useBarriers s (.datapathDisconnect nominated) = some sNext) :
    ∃ next, Settled dp p sNext next := by
  have member : p ∈ s.ports.map (·.number) := by
    rw [← findPort_isSome_iff, settled.found]
    rfl
  obtain ⟨next, found, kept, down, _⟩ := portsDelete_kept dp nominated (s.ports.map (·.number))
    settled.found settled.isLacp valid
  cases stepped
  have dormant := (down member).dormant
  refine ⟨next, found, kept.isLacp, .inl dormant, fun _ => ⟨?_, dormant⟩⟩
  rw [Finset.mem_filter, port?_of_valid valid, settled.found]
  simp

/-- A reload, of a connected datapath or not. -/
theorem Settled.reload {reload : Reload} {batch : List Ofmsg}
    (settled : Settled dp p s port) (valid : ignorePort p = false)
    (stays : StaysLacp p (.reload reload nominated batch))
    (stepped : dp.step shuffle useBarriers s (.reload reload nominated batch) = some sNext) :
    ∃ next, Settled dp p sNext next := by
  obtain ⟨new, foundNew, lacp⟩ := stays
  rw [Datapath.step] at stepped
  split at stepped
  next fits =>
    have finds := finds_of_fits fits settled.found foundNew
    obtain ⟨next, found, kept, dormant⟩ := applyConfigChanges_kept dp nominated s.dynUpPortNos
      finds lacp settled.isLacp valid settled.found foundNew
    dsimp only at stepped
    split at stepped
    next running => exact ⟨next, settled.after running found kept stepped⟩
    next stopped =>
      cases stepped
      rw [Bool.not_eq_true] at stopped
      obtain ⟨notUp, asleep⟩ := settled.disconnected stopped
      have stillAsleep := dormant notUp asleep
      exact ⟨next, found, kept.isLacp, .inl stillAsleep, fun _ => ⟨notUp, stillAsleep⟩⟩
  next => cases stepped

/-- **Every step keeps that the rule fits.** -/
theorem Settled.step (settled : Settled dp p s port) (valid : ignorePort p = false)
    (stays : StaysLacp p event) (safe : SafeStart p s event)
    (stepped : dp.step shuffle useBarriers s event = some sNext) :
    ∃ next, Settled dp p sNext next := by
  cases event with
  | datapathConnect discoveredUp upPorts nominated batch =>
      exact settled.datapathConnect valid safe stepped
  | datapathDisconnect nominated => exact settled.datapathDisconnect valid stepped
  | portStatus portNo reason ofState nominated batch =>
      rw [Datapath.step] at stepped
      split at stepped
      next running =>
        obtain ⟨next, found, kept⟩ := portStatusHandler_kept dp nominated portNo reason ofState
          settled.found settled.isLacp valid
        have learned := settled.withUp running (if Ports.portStatusFromState ofState then
          insert portNo s.dynUpPortNos else s.dynUpPortNos.erase portNo)
        exact ⟨next, learned.after running found kept stepped⟩
      next => cases stepped
  | lacpPacket portNo synchronization now nominated batch =>
      rw [Datapath.step] at stepped
      split at stepped
      next running => exact settled.lacpPacket running stepped
      next => cases stepped
  | stateExpire now aged nominated batch =>
      rw [Datapath.step] at stepped
      split at stepped
      next expires =>
        obtain ⟨next, found, kept⟩ :=
          lacpStateExpire_kept dp nominated now aged settled.found settled.isLacp
        exact ⟨next, settled.after expires.1 found kept stepped⟩
      next => cases stepped
  | reload reload nominated batch => exact settled.reload valid stays stepped

end Steps

/-! ## Runs -/

/-- Before the first connection: the port has its configuration only. -/
structure Start (p : PortNo) (s : State) : Prop where
  configured : ∃ port ∈ findPort s.ports p, port.lacp ≠ 0 ∧ port.initial = port
  noneUp : s.dynUpPortNos = ∅
  notRunning : s.dynRunning = false

theorem Start.settled {s : State} (start : Start p s) : ∃ port, Settled dp p s port := by
  obtain ⟨port, found, lacp, fresh⟩ := start.configured
  have dormant : port.Dormant := by
    rw [← fresh]
    exact ⟨Bool.and_false _, nofun⟩
  refine ⟨port, found, ⟨lacp, fun _ => dormant.2⟩, .inl dormant, fun _ => ⟨?_, dormant⟩⟩
  rw [start.noneUp]
  exact Finset.notMem_empty p

/-- The port stays a LACP port, and no cold start leaves it without a rule it needs. -/
def Orderly (p : PortNo) (s : State) (event : Event) : Prop :=
  StaysLacp p event ∧ SafeStart p s event

/-- **The drop rule of a running LACP port.** In every state of a run in which the port stays a
LACP port, and every cold start has it among the ports that are up or finds that it
forwards or is dormant, a running port has its drop rule exactly when it is not both selected and
its actor up. -/
theorem blocked_iff_of_orderly {start s : State} (starts : Start p start)
    (reaches : Reaches (dp.step shuffle useBarriers) (Orderly p) start s)
    (found : port? s.ports p = some port) (running : port.running = true) :
    s.switch.flows (dp.dropFlow p) = some dp.dropEntry ↔ ¬ port.forwards = true := by
  have valid : ignorePort p = false := by
    rw [port?] at found
    split at found
    next => cases found
    next valid => exact Bool.not_eq_true _ ▸ valid
  have settled : ∃ port, Settled dp p s port :=
    reaches.invariant (fun s => ∃ port, Settled dp p s port) starts.settled
      fun inv orderly stepped => inv.elim fun _ settled =>
        settled.step valid orderly.1 orderly.2 stepped
  obtain ⟨known, settled⟩ := settled
  cases settled.found.symm.trans (findPort_of_port? found)
  rcases settled.fits with dormant | flow
  · cases running.symm.trans dormant.1
  · rw [flow]
    cases port.forwards <;> simp

/-! ## Two cold starts -/

/-- A batch without deletes next to the global one is sent. -/
theorem exists_deliver_of_no_deletes {switch : Switch} {input : List Ofmsg}
    (noDeletes : withoutSuppressed input = []) :
    ∃ sent, switch.deliver shuffle useBarriers input = some sent := by
  have returned : dedupeOverlapsOfmsgs id (withoutSuppressed input) = some [] := by
    rw [noDeletes]
    simp [dedupeOverlapsOfmsgs, dedupeOfmsgs, OrderedDict.values, sortFlows]
  rw [Switch.deliver, valveFlowreorder, returned]
  exact ⟨_, rfl⟩

/-- A datapath with its VLAN table. -/
def labDatapath : Datapath where
  vlanTable := 0
  flowCookie := 1
  flags := 0
  lowestPriority := 0
  lowPriority := 0x1000
  highPriority := 0x1001
  highestPriority := 0x1062
  highest_ne := by decide
  low_ne := by decide
  managerLow_ne := by decide
  missInst := []
  lacpTimeout := 30

/-- Port 1 in a bundle. -/
def labLagPort : LagPort where
  number := 1
  lacp := 1
  enabled := true
  dynPhysUp := false
  lacpSelected := false
  lacpUnselected := false
  lacpStandby := false
  dynLacpUp := none
  dynLacpActorState := .notConfigured
  dynLacpPortSelected := .notConfigured
  nativeVlan := some (100, [])
  taggedVlans := []
  countUntagVlanMiss := false
  receiveLldp := false
  outputOnly := false
  coprocessor := none
  stack := none
  opstatusReconf := true
  dynLacpUpdatedTime := none

/-- The datapath is not connected. -/
def labState : State where
  ports := [labLagPort]
  dynUpPortNos := ∅
  dynRunning := false
  switch := ⟨fun _ => none, fun _ => none, fun _ => none⟩

theorem labState_start : Start 1 labState := ⟨⟨labLagPort, rfl, by decide, rfl⟩, rfl, rfl⟩

/-- The messages of a cold start of the lab with these ports up. -/
def labBatch (ports : List LagPort) (upPorts : List PortNo) : List Ofmsg :=
  (labDatapath.defaultFlows ++
    (labDatapath.portsAdd (fun _ => true) true ports upPorts).2).map .flowMod

/-- The datapath connects with these ports up. -/
def labConnect (ports : List LagPort) (upPorts : List PortNo) : Event :=
  .datapathConnect upPorts upPorts (fun _ => true) (labBatch ports upPorts)

/-- The lab port after it came up. -/
def labUp : LagPort := (labDatapath.portUp (fun _ => true) true labLagPort).1

theorem labConnect_up (shuffle : Shuffle) : ∃ s,
    labDatapath.step shuffle true labState (labConnect [labLagPort] [1]) = some s ∧
      s.ports = [labUp] := by
  have sends : ∃ sent, labState.switch.deliver shuffle true (labBatch [labLagPort] [1]) = some sent :=
    exists_deliver_of_no_deletes (by decide)
  obtain ⟨switch, delivers⟩ := sends
  have batch : (labBatch [labLagPort] [1]).filter (concernsTable labDatapath.vlanTable) =
      labBatch [labLagPort] [1] := by decide
  refine ⟨⟨[labUp], {1}, true, switch⟩, ?_, rfl⟩
  rw [labConnect, Datapath.step, if_pos (by decide)]
  dsimp only
  rw [Datapath.send, if_pos (by exact batch), delivers]
  rfl

theorem labConnect_none (shuffle : Shuffle) {s : State} (ports : s.ports = [labUp]) : ∃ next,
    labDatapath.step shuffle true s (labConnect [labUp] []) = some next ∧ next.ports = [labUp] ∧
      next.switch.flows (labDatapath.dropFlow 1) = none := by
  have sends : ∃ sent, s.switch.deliver shuffle true (labBatch [labUp] []) = some sent :=
    exists_deliver_of_no_deletes (by decide)
  obtain ⟨switch, delivers⟩ := sends
  have batch : (labBatch [labUp] []).filter (concernsTable labDatapath.vlanTable) =
      labBatch [labUp] [] := by decide
  have quiet : Quiet labDatapath 1 [] := quiet_nil
  have gone := deliver_of_cold quiet.decides batch (by simp) delivers
  refine ⟨⟨[labUp], s.dynUpPortNos.filter (· ∉ ([labUp].filter (·.configured)).map (·.number)) ∪
    [].toFinset, true, switch⟩, ?_, rfl, gone⟩
  rw [labConnect, Datapath.step, ports, if_pos (by decide)]
  dsimp only
  rw [Datapath.send, if_pos (by exact batch), delivers]
  rfl

/-- The lab port is up: it waits for LACP packets and its rule is there. -/
theorem blocked_iff_lab : ∃ s : State, s.ports = [labUp] ∧
    (s.switch.flows (labDatapath.dropFlow 1) = some labDatapath.dropEntry ↔
      ¬ labUp.forwards = true) := by
  obtain ⟨s, stepped, ports⟩ := labConnect_up ⟨id, fun _ => .refl _⟩
  have orderly : Orderly 1 labState (labConnect [labLagPort] [1]) :=
    ⟨trivial, Or.inl (List.mem_singleton_self 1)⟩
  refine ⟨s, ports, blocked_iff_of_orderly labState_start (.single orderly stepped) ?_ (by decide)⟩
  rw [ports]
  decide

/-- A second cold start that leaves out the port: the port still counts as running and waits for
packets, but its rule is gone. -/
theorem not_blocked_of_second_start :
    ¬ ∀ (dp : Datapath) (p : PortNo) (shuffle : Shuffle) (useBarriers : Bool) (start s : State)
      (port : LagPort), Start p start →
      Reaches (dp.step shuffle useBarriers) (fun _ => StaysLacp p) start s →
      port? s.ports p = some port → port.running = true →
      (s.switch.flows (dp.dropFlow p) = some dp.dropEntry ↔ ¬ port.forwards = true) := by
  intro always
  let shuffle : Shuffle := ⟨id, fun _ => .refl _⟩
  obtain ⟨s, first, ports⟩ := labConnect_up shuffle
  obtain ⟨final, second, finalPorts, gone⟩ := labConnect_none shuffle ports
  have run : Reaches (labDatapath.step shuffle true) (fun _ => StaysLacp 1) labState final :=
    .tail (.single (by exact trivial) first) (by exact trivial) second
  have found : port? final.ports 1 = some labUp := by
    rw [finalPorts]
    decide
  have blocked := (always labDatapath 1 shuffle true labState final labUp labState_start
    run found (by decide)).mpr (by decide)
  rw [gone] at blocked
  cases blocked

end Faucet.Lacp
