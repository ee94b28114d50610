import Faucet.Lacp.VlanRules
import Faucet.Library.TransitionSystem
import Faucet.Ports.Status

/-!
# What happens to the ports of a LAG

The datapath connects and disconnects, ports go up and down, LACP packets arrive or are missed,
and the configuration is reloaded without a cold start. Each of these updates ports
and sends a batch of messages through `valve_flowreorder`. The batch is any one whose messages
about the `vlan` table are those that are made here; the other managers fill the rest.
-/

set_option autoImplicit false

namespace Faucet.Lacp

open OpenFlow
open Egress (ignorePort)
open Ports (Reason portStatusFromState blockedDownState)

/-! ## The ports of the datapath -/

namespace LagPort

/-- The ports that `_get_all_configured_port_nos` finds. -/
def configured (port : LagPort) : Bool :=
  port.hasVlans || port.outputOnly || port.stack.isSome || port.coprocessor.isSome

/-- The dynamic state of a new port. -/
def initial (port : LagPort) : LagPort :=
  { port with
    dynPhysUp := false
    dynLacpUp := none
    dynLacpActorState := .notConfigured
    dynLacpPortSelected := .notConfigured
    dynLacpUpdatedTime := none }

/-- `merge_dyn` -/
def mergeDyn (port old : LagPort) : LagPort :=
  { port with
    dynPhysUp := old.dynPhysUp
    dynLacpUp := old.dynLacpUp
    dynLacpActorState := old.dynLacpActorState
    dynLacpPortSelected := old.dynLacpPortSelected
    dynLacpUpdatedTime := old.dynLacpUpdatedTime }

/-- What `ignore_subconf` compares: neither the state nor the instructions of the rules. -/
def conf (port : LagPort) : LagPort :=
  { port.initial with
    nativeVlan := port.nativeVlan.map fun vlan => (vlan.1, [])
    taggedVlans := port.taggedVlans.map fun vlan => (vlan.1, [])
    coprocessor := port.coprocessor.map fun _ => []
    stack := port.stack.map fun _ => [] }

end LagPort

/-- `dp.ports` under a number. -/
def findPort (ports : List LagPort) (portNo : PortNo) : Option LagPort :=
  ports.find? (·.number = portNo)

/-- The port, when `port_no_valid`. -/
def port? (ports : List LagPort) (portNo : PortNo) : Option LagPort :=
  if ignorePort portNo then none else findPort ports portNo

/-- The port takes the place of the one with its number. -/
def setPort (ports : List LagPort) (port : LagPort) : List LagPort :=
  ports.map fun other => if other.number = port.number then port else other

/-- Change the valid ports of the list one after the other, with the messages that are made. -/
def eachPort (change : LagPort → LagPort × List FlowMod) :
    List LagPort → List PortNo → List LagPort × List FlowMod
  | ports, [] => (ports, [])
  | ports, portNo :: rest =>
      match port? ports portNo with
      | none => eachPort change ports rest
      | some port =>
          let (next, ofmsgs) := change port
          let (ports, later) := eachPort change (setPort ports next) rest
          (ports, ofmsgs ++ later)

namespace Datapath

variable (dp : Datapath) (nominated : PortNo → Bool)

/-- One port of `ports_add`. -/
def portUp (coldStart : Bool) (port : LagPort) : LagPort × List FlowMod :=
  let port := port.setPhysUp true
  if !port.running then (port, [])
  else
    let added := dp.managersAddPort port
    if port.lacp ≠ 0 then
      let (port, ofmsgs) := dp.lacpUpdate port false false coldStart (nominated port.number) none
      (port, added ++ ofmsgs)
    else (port, added)

/-- One port of `ports_delete`. -/
def portDown (port : LagPort) : LagPort × List FlowMod :=
  let port := port.setPhysUp false
  if port.lacp ≠ 0 then dp.lacpUpdate port false false false (nominated port.number) none
  else (port, dp.managersDelPort port)

/-- `ports_add`, for the LACP manager. -/
def portsAdd (coldStart : Bool) : List LagPort → List PortNo → List LagPort × List FlowMod :=
  eachPort (dp.portUp nominated coldStart)

/-- `ports_delete`, for the LACP manager. -/
def portsDelete : List LagPort → List PortNo → List LagPort × List FlowMod :=
  eachPort (dp.portDown nominated)

/-- `_lacp_state_expire`, for the ports that are too old. -/
def lacpStateExpire (now : ℤ) : List LagPort → List PortNo → List LagPort × List FlowMod :=
  eachPort fun port => dp.lacpUpdate port false false false (nominated port.number) (some now)

/-- The ports that are up and have not been heard of for too long. -/
def agedPorts (now : ℤ) (ports : List LagPort) : List PortNo :=
  (ports.filter fun port => port.lacp ≠ 0 && port.isActorUp &&
    port.dynLacpUpdatedTime.any fun updated => dp.lacpTimeout < now - updated).map (·.number)

end Datapath

/-! ## Events -/

/-- The ports, those that the datapath has reported up, and its switch. -/
structure State where
  ports : List LagPort
  dynUpPortNos : Finset PortNo
  dynRunning : Bool
  switch : Switch

/-- A new configuration, the numbers of the ports that are taken over as they are, and those of the
ports that are deleted, changed and added, in the order in which these are gone through. -/
structure Reload where
  ports : List LagPort
  same : List PortNo
  deleted : List PortNo
  changed : List PortNo
  added : List PortNo

/-- What can be found to have changed: a port that is taken over has its configuration, but may have
changed with its VLANs, its ACLs, its mirrors or the stack. -/
def Reload.fits (reload : Reload) (ports : List LagPort) : Bool :=
  (reload.ports.map (·.number)).Nodup ∧
    reload.deleted.Perm ((ports.map (·.number)).filter (· ∉ reload.ports.map (·.number))) ∧
    reload.added.Perm ((reload.ports.map (·.number)).filter (· ∉ ports.map (·.number))) ∧
    (∀ portNo ∈ reload.same, (findPort ports portNo).map LagPort.conf =
      (findPort reload.ports portNo).map LagPort.conf) ∧
    reload.changed.Nodup ∧
    (∀ portNo ∈ reload.changed, portNo ∈ ports.map (·.number) ∧
      portNo ∈ reload.ports.map (·.number)) ∧
    ∀ portNo ∈ reload.ports.map (·.number), portNo ∈ ports.map (·.number) →
      portNo ∈ reload.same ∨ portNo ∈ reload.changed

/-- A port of the new configuration, after `get_config_changes` has seen the old ports and
`dp_init` those that are left after the deletes. -/
def Reload.cloned (reload : Reload) (old left : List LagPort) (port : LagPort) : LagPort :=
  let merged := match findPort old port.number with
    | some old => if port.number ∈ reload.same then port.initial.mergeDyn old else port.initial
    | none => port.initial
  match findPort left port.number with
  | some left => merged.setPhysUp left.dynPhysUp
  | none => merged

/-- What happens, with whether the DP is nominated for the LAG of each port, and the batch. -/
inductive Event where
  | datapathConnect (discoveredUp upPorts : List PortNo) (nominated : PortNo → Bool)
      (batch : List Ofmsg)
  | datapathDisconnect (nominated : PortNo → Bool)
  | portStatus (portNo : PortNo) (reason : Reason) (ofState : ℕ) (nominated : PortNo → Bool)
      (batch : List Ofmsg)
  | lacpPacket (portNo : PortNo) (synchronization : Bool) (now : ℤ) (nominated : PortNo → Bool)
      (batch : List Ofmsg)
  | stateExpire (now : ℤ) (aged : List PortNo) (nominated : PortNo → Bool) (batch : List Ofmsg)
  | reload (reload : Reload) (nominated : PortNo → Bool) (batch : List Ofmsg)

namespace Datapath

variable (dp : Datapath) (nominated : PortNo → Bool)

/-- `port_status_handler` for the ports. -/
def portStatusHandler (ports : List LagPort) (portNo : PortNo) (reason : Reason) (ofState : ℕ) :
    List LagPort × List FlowMod :=
  match port? ports portNo with
  | none => (ports, [])
  | some port =>
      if !port.opstatusReconf then (ports, [])
      else if reason = .unknown then (ports, [])
      else
        let newPortStatus : Bool :=
          reason = .add ∨ (reason = .modify ∧ portStatusFromState ofState)
        if newPortStatus ≠ port.dynPhysUp then
          if newPortStatus then dp.portsAdd nominated false ports [portNo]
          else dp.portsDelete nominated ports [portNo]
        else if newPortStatus && blockedDownState ofState then
          dp.portsDelete nominated ports [portNo]
        else (ports, [])

/-- `lacp_handler` for the ports. -/
def lacpHandler (ports : List LagPort) (portNo : PortNo) (synchronization : Bool) (now : ℤ) :
    List LagPort × List FlowMod :=
  match findPort ports portNo with
  | none => (ports, [])
  | some port =>
      if port.lacp = 0 then (ports, [])
      else
        let (next, ofmsgs) :=
          dp.lacpUpdate port synchronization true false (nominated port.number) (some now)
        (setPort ports next, ofmsgs)

/-- `_apply_config_changes` for the ports. -/
def applyConfigChanges (ports : List LagPort) (dynUpPortNos : Finset PortNo) (reload : Reload) :
    List LagPort × List FlowMod :=
  let (afterDeleted, deletes) := dp.portsDelete nominated ports reload.deleted
  let (left, changes) := dp.portsDelete nominated afterDeleted reload.changed
  let (afterAdded, adds) := dp.portsAdd nominated false
    (reload.ports.map (reload.cloned ports left)) (reload.added.filter (· ∈ dynUpPortNos))
  let (final, readds) := dp.portsAdd nominated false afterAdded
    (reload.changed.filter (· ∈ dynUpPortNos))
  (final, deletes ++ changes ++ adds ++ readds)

/-- The switch gets what `valve_flowreorder` makes of a batch with these messages. -/
def send (shuffle : Shuffle) (useBarriers : Bool) (switch : Switch) (ofmsgs : List FlowMod)
    (batch : List Ofmsg) : Option Switch :=
  if batch.filter (concernsTable dp.vlanTable) = ofmsgs.map .flowMod then
    switch.deliver shuffle useBarriers batch
  else none

/-- The state after ports have been changed and the messages sent. -/
def after (shuffle : Shuffle) (useBarriers : Bool) (s : State)
    (changed : List LagPort × List FlowMod) (batch : List Ofmsg) : Option State :=
  (dp.send shuffle useBarriers s.switch changed.2 batch).map fun switch =>
    { s with ports := changed.1, switch }

/-- Handle an event. There is no packet, no port status and nothing to expire of a datapath that
is not connected, and the messages of a reload are not sent to it. -/
def step (shuffle : Shuffle) (useBarriers : Bool) (s : State) : Event → Option State
  | .datapathConnect discoveredUp upPorts nominated batch =>
      let configured := s.ports.filter (·.configured)
      let up := configured.filter fun port => port.number ∈ discoveredUp ∨ !port.opstatusReconf
      if upPorts.Perm (up.map (·.number)) then
        let added := dp.portsAdd nominated true s.ports upPorts
        (dp.send shuffle useBarriers s.switch (dp.defaultFlows ++ added.2) batch).map fun switch =>
          { ports := added.1
            dynUpPortNos := s.dynUpPortNos.filter (· ∉ configured.map (·.number)) ∪ upPorts.toFinset
            dynRunning := true
            switch }
      else none
  | .datapathDisconnect nominated =>
      some
        { ports := (dp.portsDelete nominated s.ports (s.ports.map (·.number))).1
          dynUpPortNos := s.dynUpPortNos.filter fun portNo => (port? s.ports portNo).isNone
          dynRunning := false
          switch := s.switch }
  | .portStatus portNo reason ofState nominated batch =>
      if s.dynRunning then
        dp.after shuffle useBarriers
          { s with
            dynUpPortNos := if portStatusFromState ofState then insert portNo s.dynUpPortNos
              else s.dynUpPortNos.erase portNo }
          (dp.portStatusHandler nominated s.ports portNo reason ofState) batch
      else none
  | .lacpPacket portNo synchronization now nominated batch =>
      if s.dynRunning then
        dp.after shuffle useBarriers s
          (dp.lacpHandler nominated s.ports portNo synchronization now) batch
      else none
  | .stateExpire now aged nominated batch =>
      if s.dynRunning ∧ aged.Perm (dp.agedPorts now s.ports) then
        dp.after shuffle useBarriers s (dp.lacpStateExpire nominated now s.ports aged) batch
      else none
  | .reload reload nominated batch =>
      if reload.fits s.ports then
        let changed := dp.applyConfigChanges nominated s.ports s.dynUpPortNos reload
        if s.dynRunning then dp.after shuffle useBarriers s changed batch
        else some { s with ports := changed.1 }
      else none

end Datapath

end Faucet.Lacp
