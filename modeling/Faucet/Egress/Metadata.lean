import Faucet.Flooding.Lookup
import Faucet.OpenFlow.TableMessages

/-!
# The egress pipeline

With the egress pipeline a learned host's rule does not output by itself: it writes the
output port and the VLAN as metadata and goes on to the egress table, which has a rule
for each VLAN of each port. The port number takes up the lower 12 bits of the metadata.

The metadata of two ports in one VLAN is the same just when their numbers agree in
those 12 bits (`getEgressMetadata_eq_iff`).
-/

set_option autoImplicit false

namespace Faucet.Egress

open OpenFlow
open Flooding (Vid popVlan setExternalForwardingRequested setNoExternalForwardingRequested)

/-! ## Metadata -/

/-- `PORT_METADATA_MASK` -/
def portMetadataMask : ℕ := 0xfff

/-- `VLAN_METADATA_MASK` -/
def vlanMetadataMask : ℕ := 0xfff000

/-- `EGRESS_METADATA_MASK` -/
def egressMetadataMask : ℕ := portMetadataMask ||| vlanMetadataMask

/-- `get_egress_metadata` -/
def getEgressMetadata (portNum : PortNo) (vid : Vid) : ℕ :=
  vid <<< 12 ||| (portNum &&& portMetadataMask)

/-- What `OFPInstructionWriteMetadata` makes of the 64 bits of metadata of a packet. -/
def writeMetadata (metadata value mask : ℕ) : ℕ :=
  (metadata &&& ((2 ^ 64 - 1) ^^^ mask)) ||| (value &&& mask)

theorem egressMetadataMask_eq : egressMetadataMask = 2 ^ 24 - 1 := by decide

theorem and_portMetadataMask (portNum : PortNo) : portNum &&& portMetadataMask = portNum % 4096 :=
  Nat.and_two_pow_sub_one_eq_mod portNum 12

theorem getEgressMetadata_eq (portNum : PortNo) (vid : Vid) :
    getEgressMetadata portNum vid = vid * 4096 + portNum % 4096 := by
  have low : portNum % 4096 < 2 ^ 12 := Nat.mod_lt _ (by decide)
  rw [getEgressMetadata, and_portMetadataMask, ← Nat.shiftLeft_add_eq_or_of_lt low,
    Nat.shiftLeft_eq]

/-- **The metadata tells the VLAN, and of the port number the lower 12 bits.** -/
theorem getEgressMetadata_eq_iff {portNum portNum' vid vid' : ℕ} :
    getEgressMetadata portNum vid = getEgressMetadata portNum' vid' ↔
      vid = vid' ∧ portNum % 4096 = portNum' % 4096 := by
  have low := Nat.mod_lt portNum (show 0 < 4096 by decide)
  have low' := Nat.mod_lt portNum' (show 0 < 4096 by decide)
  rw [getEgressMetadata_eq, getEgressMetadata_eq]
  constructor
  · intro same
    omega
  · rintro ⟨rfl, same⟩
    rw [same]

/-- The metadata fits into the bits that are written. -/
theorem getEgressMetadata_and_mask {portNum vid : ℕ} (valid : vid ≤ 4095) :
    getEgressMetadata portNum vid &&& egressMetadataMask = getEgressMetadata portNum vid := by
  have low := Nat.mod_lt portNum (show 0 < 4096 by decide)
  rw [egressMetadataMask_eq, Nat.and_two_pow_sub_one_eq_mod, getEgressMetadata_eq]
  exact Nat.mod_eq_of_lt (by omega)

/-- The bits that are written do not depend on those that were there. -/
theorem writeMetadata_and_mask (metadata value : ℕ) :
    writeMetadata metadata value egressMetadataMask &&& egressMetadataMask =
      value &&& egressMetadataMask := by
  have cleared : ((2 ^ 64 - 1) ^^^ egressMetadataMask) &&& egressMetadataMask = 0 := by decide
  rw [writeMetadata, Nat.and_or_distrib_right, Nat.and_assoc, cleared, Nat.and_zero, Nat.zero_or,
    Nat.and_assoc, Nat.and_self]

/-- The lower bits alone, as a delete matches them. -/
theorem getEgressMetadata_and_portMask (portNum vid : ℕ) :
    getEgressMetadata portNum vid &&& portMetadataMask = portNum % 4096 := by
  rw [and_portMetadataMask, getEgressMetadata_eq]
  omega

/-! ## Ports -/

/-- `ignore_port` -/
def ignorePort (portNum : PortNo) : Bool :=
  if portNum = 0xfffffffe ∨ portNum = 0xfffffff8 then false else 0xf0000000 < portNum

/-- A port with the ports it is mirrored to. -/
structure Port where
  number : PortNo
  nativeVlan : Option Vid
  taggedVlans : List Vid
  mirror : List PortNo
deriving DecidableEq, Repr

namespace Port

variable (port : Port)

/-- The native VLAN, and those that are tagged. -/
def vlans : List Vid := port.nativeVlan.toList ++ port.taggedVlans

/-- `Port.mirror_actions` -/
def mirrorActions : List Act := port.mirror.map .output

end Port

/-- A datapath whose configuration has been accepted, with the egress pipeline and without
egress ACLs. A port that others are mirrored to has no VLANs. -/
structure Dp where
  ports : List Port
  numbers : (ports.map (·.number)).Nodup
  portValid : ∀ port ∈ ports, 0 < port.number ∧ ignorePort port.number = false
  vidValid : ∀ port ∈ ports, ∀ vid ∈ port.vlans, 1 ≤ vid ∧ vid ≤ 4095
  mirrors : ∀ port ∈ ports, ∀ other ∈ ports, other.number ∈ port.mirror → other.vlans = []
  egressTable : Fin 255
  floodTable : Fin 255
  flowCookie : ℕ
  highPriority : ℕ
  lowestPriority : ℕ
  ordered : lowestPriority < highPriority

/-! ## The rules of learned hosts -/

/-- The actions of `Vlan.output_port` without hairpin. -/
def outputPort (vid : Vid) (port : Port) (externalForwardingRequested : Option Bool) : List Act :=
  if port.nativeVlan = some vid then
    -- The mirror port gets the packet as the host sees it.
    popVlan :: port.mirrorActions ++ [.output port.number]
  else
    port.mirrorActions ++ (externalForwardingRequested.map fun requested =>
      if requested then setExternalForwardingRequested
      else setNoExternalForwardingRequested).toList ++
        [.output port.number]

/-- The instructions of `ValvePipeline.output`. -/
inductive OutputInst where
  | metadataGotoTable (metadata mask : ℕ) (table : Fin 255)
  | applyActions (actions : List Act)
deriving DecidableEq

/-- `ValvePipeline.output` for a learned host, with the egress table if there is one. -/
def output (egressTable : Option (Fin 255)) (port : Port) (vid : Vid)
    (externalForwardingRequested : Option Bool) : OutputInst :=
  match egressTable with
  | some table =>
      .metadataGotoTable (getEgressMetadata port.number vid) egressMetadataMask table
  | none => .applyActions (outputPort vid port externalForwardingRequested)

/-! ## The rules of the egress table -/

/-- The field `metadata` with a mask. -/
def metadataField (metadata mask : ℕ) : OxmField := ⟨2, metadata, some mask⟩

/-- The match of the rule for a port in a VLAN. -/
def egressMatch (portNum : PortNo) (vid : Vid) : Match :=
  .ofFields [metadataField (getEgressMetadata portNum vid) egressMetadataMask,
    ⟨6, vid + 0x1000, none⟩]

/-- The actions of the rule for a port. -/
def egressActions (port : Port) (popsVlan : Bool) : List Act :=
  port.mirrorActions ++ (if popsVlan then [popVlan] else []) ++ [.output port.number]

namespace Dp

variable (dp : Dp)

/-- The flow of a port in a VLAN. -/
def egressFlowId (portNum : PortNo) (vid : Vid) : FlowId where
  tableId := dp.egressTable
  priority := dp.highPriority
  matchFields := egressMatch portNum vid

/-- `_add_egress_table_rule` -/
def addEgressTableRule (port : Port) (vid : Vid) (popsVlan : Bool) : FlowMod where
  command := .add
  tableId := dp.egressTable
  priority := dp.highPriority
  cookie := dp.flowCookie
  outPort := some 0
  matchFields := egressMatch port.number vid
  instructions := [.applyActions (egressActions port popsVlan)]
  hardTimeout := 0
  idleTimeout := 0
  flags := 0

/-- `ValvePipeline.add_port` -/
def addPort (port : Port) : List FlowMod :=
  port.taggedVlans.map (dp.addEgressTableRule port · false) ++
    port.nativeVlan.toList.map (dp.addEgressTableRule port · true)

/-- `ValvePipeline.del_port`; the priority of such a delete does not count. -/
def delPort (port : Port) : FlowMod where
  command := .delete
  tableId := dp.egressTable
  priority := 0
  cookie := dp.flowCookie
  outPort := none
  matchFields := .single (metadataField (port.number &&& portMetadataMask) portMetadataMask)
  instructions := []
  hardTimeout := 0
  idleTimeout := 0
  flags := 0

/-- The rule of the egress table of `_add_default_drop_flows`: a frame for no port goes on
to the flood table. -/
def defaultDrop : FlowMod where
  command := .add
  tableId := dp.egressTable
  priority := dp.lowestPriority
  cookie := dp.flowCookie
  outPort := some 0
  matchFields := .any
  instructions := [.gotoTable dp.floodTable]
  hardTimeout := 0
  idleTimeout := 0
  flags := 0

/-- The rules of the egress table that a cold start adds. -/
def coldStartMods (ports : List Port) : List FlowMod := dp.defaultDrop :: ports.flatMap dp.addPort

/-- A cold start after everything has been deleted, with the ports in this order, leaves
the switch like this. -/
def ColdStart (ports : List Port) (switch : Switch) : Prop :=
  ∃ (emptied : Switch) (shuffle : Shuffle) (useBarriers : Bool) (batch : List Ofmsg),
    (∀ flow, emptied.flows flow = none) ∧
    batch.filter (concernsTable dp.egressTable) = (dp.coldStartMods ports).map .flowMod ∧
    emptied.deliver shuffle useBarriers batch = some switch

/-- The port is deleted. -/
def Deletes (port : Port) (switch next : Switch) : Prop :=
  ∃ (shuffle : Shuffle) (useBarriers : Bool) (batch : List Ofmsg),
    batch.filter (concernsTable dp.egressTable) = [.flowMod (dp.delPort port)] ∧
    switch.deliver shuffle useBarriers batch = some next

end Dp

end Faucet.Egress
