import Faucet.Flooding.Rules
import Faucet.Library.TransitionSystem
import Faucet.OpenFlow.GroupReferences

/-!
# Ports that come and go

`ports_add` and `ports_delete` handle a list of ports. Each LACP port among them
updates its LAG, which may send the rules of its VLANs at once; when all ports are
handled the rules of all their VLANs are sent, as adds or as modifies of rules that
are there. The messages go through `valve_flowreorder` as one batch, with those of
the other managers, which are about other tables.
-/

set_option autoImplicit false

namespace Faucet.Flooding

open OpenFlow

/-! ## The state of the ports -/

/-- The port takes the place of the one with its number. -/
def setPort (ports : List Port) (port : Port) : List Port :=
  ports.map fun other => if other.number = port.number then port else other

namespace Port

/-- The port comes up, or goes down. -/
def setPhysUp (port : Port) (up : Bool) : Port := { port with dynPhysUp := up }

/-- The LACP states of `lacp_update`; a standalone datapath is the nominated one. -/
def lacpUpdated (port : Port) (lacpUp lacpPkt : Bool) : Port :=
  { port with
    toPort := (port.toPort.lacpActorUpdate lacpUp lacpPkt false).lacpPortUpdate true false }

end Port

/-- A call on its way: the ports, the VLANs that were sent at once, with their ports as
they were then, and those that are to be sent at the end. -/
structure PortsBatch where
  ports : List Port
  early : List Vlan
  touched : List Vid

/-- The order in which a set is iterated. -/
structure SetOrder where
  run : List Vid → List Vid
  mem_run : ∀ {vids vid}, vid ∈ run vids ↔ vid ∈ vids
  nodup_run : ∀ vids, (run vids).Nodup

/-- `ports_add` or `ports_delete`. -/
inductive PortsCommand where
  | add
  | delete
deriving DecidableEq, Repr

namespace Dp

variable (dp : Dp)

/-- The VLANs with these ids, with their ports. -/
def resolve (ports : List Port) (vids : List Vid) : List Vlan :=
  vids.filterMap fun vid => (dp.vlans.find? (·.vid = vid)).map (·.resetPorts ports)

/-- `lacp_update` with LACP down and no packet. -/
def lacpUpdate (batch : PortsBatch) (port : Port) : PortsBatch :=
  let updated := port.lacpUpdated false false
  let ports := setPort batch.ports updated
  { batch with
    ports := ports
    early := batch.early ++
      if updated.dynLacpActorState = port.dynLacpActorState ∧
          updated.dynLacpPortSelected = port.dynLacpPortSelected then []
      else dp.resolve ports port.vlans }

/-- What `ports_add` does for one port. -/
def addPort (batch : PortsBatch) (number : PortNo) : PortsBatch :=
  match batch.ports.find? (·.number = number) with
  | none => batch
  | some port =>
      let up := port.setPhysUp true
      let batch := { batch with ports := setPort batch.ports up }
      if up.running then
        let batch := if up.lacp ≠ 0 then dp.lacpUpdate batch up else batch
        { batch with touched := batch.touched ++ up.vlans }
      else batch

/-- What `ports_delete` does for one port. -/
def deletePort (batch : PortsBatch) (number : PortNo) : PortsBatch :=
  match batch.ports.find? (·.number = number) with
  | none => batch
  | some port =>
      let down := port.setPhysUp false
      let batch := { batch with
        ports := setPort batch.ports down
        touched := batch.touched ++ down.vlans }
      if down.lacp ≠ 0 then dp.lacpUpdate batch down else batch

/-- What is done for one port. -/
def handlePort : PortsCommand → PortsBatch → PortNo → PortsBatch
  | .add => dp.addPort
  | .delete => dp.deletePort

/-- The loop over the ports. -/
def handlePorts (command : PortsCommand) (ports : List Port) (portNums : List PortNo) :
    PortsBatch :=
  portNums.foldl (dp.handlePort command) ⟨ports, [], []⟩

/-- `add_vlans` of the VLANs with added ports, or `update_vlan` of those with deleted ones. -/
def finalMessages (command : PortsCommand) (vlans : List Vlan) : List Ofmsg :=
  match command with
  | .add => vlans.flatMap (dp.addVlan · false)
  | .delete => vlans.flatMap dp.updateVlan

/-- What a call sends about flooding. -/
def batchMessages (command : PortsCommand) (order : SetOrder) (batch : PortsBatch) : List Ofmsg :=
  batch.early.flatMap (dp.addVlan · false) ++
    dp.finalMessages command (dp.resolve batch.ports (order.run batch.touched))

/-! ## The switch -/

/-- A group of one of the VLANs, or all groups. -/
def isFloodGroup (groupId : ℕ) : Bool :=
  groupId == ofpgAll ||
    dp.vlans.any fun conf => groupId == conf.vid || groupId == conf.vid + vlanGroupOffset

/-- The message is about flood rules or their groups. -/
def concerns : Ofmsg → Bool
  | .flowMod mod => mod.tableId == dp.floodTable.val || mod.tableId == ofpttAll
  | .groupMod (.add groupId _) | .groupMod (.delete groupId) =>
      dp.useGroupTable && dp.isFloodGroup groupId
  | _ => false

end Dp

/-- The ports of the datapath and its switch. -/
structure State where
  ports : List Port
  switch : Switch

/-- A call of `ports_add` or `ports_delete`; the batch has also what other managers send. -/
structure Event where
  command : PortsCommand
  portNums : List PortNo
  order : SetOrder
  batch : List Ofmsg
  shuffle : Shuffle
  useBarriers : Bool

namespace Dp

variable (dp : Dp)

/-- The state after the call, once the switch has handled its messages. -/
def step (state : State) (event : Event) : Option State :=
  let handled := dp.handlePorts event.command state.ports event.portNums
  if event.batch.filter dp.concerns = dp.batchMessages event.command event.order handled then
    (state.switch.deliver event.shuffle event.useBarriers event.batch).map (⟨handled.ports, ·⟩)
  else none

/-! ## A cold start -/

/-- `flowdrop` for a destination, or for whatever no other rule matches. -/
def floodDrop (ethDst : Option (ℕ × ℕ)) : FlowMod where
  command := .add
  tableId := dp.floodTable
  priority := match ethDst with
    | some (_, mask) => maskFloodPriority (some mask)
    | none => dp.lowestPriority
  cookie := dp.flowCookie
  outPort := some 0
  matchFields := match ethDst with
    | some (address, mask) => .single ⟨3, address, some mask⟩
    | none => .any
  instructions := []
  hardTimeout := 0
  idleTimeout := 0
  flags := 0

/-- `initialise_tables` -/
def initialiseTables : List FlowMod :=
  [(0x01000ccccccc, macByteMask 6), (0x01000ccccccd, macByteMask 6),
    (0x0180c2000000, 0xfffffffffff0)].map fun ethDst => dp.floodDrop (some ethDst)

/-- The drops of `_add_default_drop_flows` and `initialise_tables`. -/
def coldStartDrops : List FlowMod := dp.floodDrop none :: dp.initialiseTables

/-- What a cold start sends about flooding. -/
def coldStartMessages (ports : List Port) : List Ofmsg :=
  dp.coldStartDrops.map .flowMod ++
    (dp.vlans.map (·.resetPorts ports)).flatMap (dp.addVlan · true)

/-- A cold start of the datapath with the ports in this state, after everything has been
deleted, leaves the switch like this. -/
def ColdStart (ports : List Port) (switch : Switch) : Prop :=
  ∃ (emptied : Switch) (shuffle : Shuffle) (useBarriers : Bool) (batch : List Ofmsg),
    (∀ flow, emptied.flows flow = none) ∧ (∀ groupId, emptied.groups groupId = none) ∧
    batch.filter dp.concerns = dp.coldStartMessages ports ∧
    emptied.deliver shuffle useBarriers batch = some switch

end Dp

end Faucet.Flooding
