import Faucet.Flooding.Ports
import Faucet.Library.KeyedChanges
import Faucet.Pipeline.Renumbering

/-!
# What a reload takes to be changed

When a datapath gets a new configuration, it is compared with the old one, and what has changed
decides between a cold start, a warm restart and none. The comparison looks at the settings as
they are in the file. A VLAN of a port is there as the key of a VLAN, and which VLAN that is
follows from the rest of the file, as do the ports that a port is mirrored to. So a port is also
reported to be changed when a VLAN that it is in is added or changed, and when its mirrors are
others.

The datapath is not in a stack. The settings are as the comparison sees them (`_str_conf`),
which sees nothing of floats and bytes. A change of a description alone does not count.
-/

set_option autoImplicit false

namespace Faucet.Reload

open OpenFlow
open Flooding (Vid)
open KeyedChanges

/-! ## Configurations -/

/-- The settings of a port that are compared; the VLANs are keys. -/
structure PortSettings (K R : Type) where
  description : Option String
  nativeVlan : Option K
  taggedVlans : List K
  dot1xAcl : Bool
  dot1xDynAcl : Bool
  rest : R
deriving DecidableEq

/-- The settings without the key that may be ignored. -/
def PortSettings.withoutDescription {K R : Type} (settings : PortSettings K R) :
    PortSettings K R :=
  { settings with description := none }

/-- A port of a configuration. -/
structure PortConf (K R : Type) where
  number : PortNo
  settings : PortSettings K R
  /-- The ports that it is mirrored to. -/
  mirror : List PortNo
  /-- The ids of the ACLs, none when there are no ACLs. -/
  aclsIn : List K

/-- The settings of a VLAN that are compared; the ACLs for outgoing packets are ids. -/
structure VlanSettings (K R : Type) where
  description : Option String
  aclsOut : List K
  rest : R
deriving DecidableEq

/-- The settings without the key that may be ignored. -/
def VlanSettings.withoutDescription {K R : Type} (settings : VlanSettings K R) :
    VlanSettings K R :=
  { settings with description := none }

/-- A VLAN of a configuration. -/
structure VlanConf (K R : Type) where
  vid : Vid
  settings : VlanSettings K R
  aclsIn : List K

/-- The settings of a datapath that are compared, with the ids of its ACLs. -/
structure DpSettings (K R : Type) where
  dpAcls : List K
  /-- `auth_acl` and `noauth_acl` of `dot1x`. -/
  dot1xAcls : List K
  rest : R
deriving DecidableEq

/-- `STATIC_TABLE_IDS` of the valve for the hardware. -/
def staticTableIds (hardware : String) : Bool := hardware == "NoviFlow"

/-- The configuration of a datapath. -/
structure Config (K R : Type) where
  settings : DpSettings K R
  routers : R
  hardware : String
  pipeline : Pipeline.Dp
  /-- What the text of the pipeline shows of a table besides its id and its name. -/
  shown : Pipeline.TableName → R
  ports : List (PortConf K R)
  vlans : List (VlanConf K R)
  /-- The ACLs with their ids. -/
  acls : List (K × R)
  meters : List (K × R)
  /-- The VLAN that a key stands for in the file. -/
  vlanByKey : K → Option Vid
  static : pipeline.staticTableIds = staticTableIds hardware
  numbers : (ports.map (·.number)).Nodup
  vids : (vlans.map (·.vid)).Nodup
  aclIds : (acls.map (·.1)).Nodup
  meterIds : (meters.map (·.1)).Nodup
  /-- The VLANs of the ports are there. -/
  keys : ∀ port ∈ ports, ∀ key ∈ port.settings.nativeVlan.toList ++ port.settings.taggedVlans,
    ∃ vlan ∈ vlans, vlanByKey key = some vlan.vid

section Comparison

variable {K R : Type} [DecidableEq K] [DecidableEq R]

namespace Config

variable (config : Config K R)

/-- The VLAN that a port is in without a tag. -/
def nativeVlan (port : PortConf K R) : Option Vid :=
  port.settings.nativeVlan.bind config.vlanByKey

/-- The VLANs that a port is in with a tag. -/
def taggedVlans (port : PortConf K R) : List Vid :=
  port.settings.taggedVlans.filterMap config.vlanByKey

/-- The VLANs of `vlans()` of a port. -/
def portVids (port : PortConf K R) : Finset Vid :=
  ((config.nativeVlan port).toList ++ config.taggedVlans port).toFinset

/-- The ports of `get_ports()` of a VLAN. -/
def vlanPorts (vid : Vid) : List (PortConf K R) :=
  (config.ports.filter fun port => vid ∈ config.taggedVlans port) ++
    config.ports.filter fun port => config.nativeVlan port = some vid

/-- The numbers of the ports in some of the VLANs. -/
def portsOf (vids : Finset Vid) : Finset PortNo :=
  ((config.vlans.filter fun vlan => vlan.vid ∈ vids).flatMap fun vlan =>
    (config.vlanPorts vlan.vid).map (·.number)).toFinset

/-- The port with this number. -/
def port? (number : PortNo) : Option (PortConf K R) :=
  config.ports.find? fun port => port.number = number

/-- The VLAN with this VID. -/
def vlan? (vid : Vid) : Option (VlanConf K R) := config.vlans.find? fun vlan => vlan.vid = vid

/-- The ACLs that a port may have by 802.1X: any one that is named for a login, or those of
`dot1x`. -/
def dot1xAcls (port : PortConf K R) : List K :=
  if port.settings.dot1xDynAcl then config.acls.map (·.1)
  else if port.settings.dot1xAcl then config.settings.dot1xAcls
  else []

end Config

/-! ## Changes -/

/-- `_acl_ref_changes` -/
def aclRefChanges (changedAcls : Finset K) (old new : List K) : Bool :=
  new.any (· ∈ changedAcls) || decide (old ≠ new)

/-- The changes of `get_config_changes`. -/
structure Changes (K : Type) where
  deletedPorts : Finset PortNo
  changedPorts : Finset PortNo
  addedPorts : Finset PortNo
  changedAclPorts : Finset PortNo
  addedVlans : Finset Vid
  deletedVlans : Finset Vid
  changedVlans : Finset Vid
  changedAclVlans : Finset Vid
  allPortsChanged : Bool
  allMetersChanged : Bool
  deletedMeters : Finset K
  addedMeters : Finset K
  changedMeters : Finset K
deriving DecidableEq

/-- How `_get_conf_changes` compares settings: when only the description is another one, they
are the same. -/
def alike {S : Type} [DecidableEq S] (withoutDescription : S → S) (settings settings' : S) :
    Bool :=
  decide (settings = settings' ∨ withoutDescription settings = withoutDescription settings')

variable (old new : Config K R)

/-- `_get_acl_config_changes` -/
def changedAcls : Finset K :=
  let changes := compare Prod.fst (fun acl acl' => decide (acl.2 = acl'.2)) old.acls new.acls
  changes.added ∪ changes.changed

/-- The comparison of VLANs, without their ACLs. -/
def vlanChanges : KeyedChanges.Changes Vid :=
  compare VlanConf.vid
    (fun vlan vlan' => alike VlanSettings.withoutDescription vlan.settings vlan'.settings)
    old.vlans new.vlans

/-- VLANs of which only ACLs have changed. -/
def changedAclVlans : Finset Vid :=
  (vlanChanges old new).same.filter fun vid =>
    aclRefChanges (changedAcls old new) ((old.vlan? vid).elim [] (·.aclsIn))
      ((new.vlan? vid).elim [] (·.aclsIn))

/-- The comparison of ports, without their ACLs. -/
def portChanges : KeyedChanges.Changes PortNo :=
  compare PortConf.number
    (fun port port' => alike PortSettings.withoutDescription port.settings port'.settings)
    old.ports new.ports

/-- No port is the same. -/
def allPortsChanged : Bool :=
  decide ((portChanges old new).same = ∅ ∨
    (portChanges old new).changed = (new.ports.map (·.number)).toFinset)

/-- Ports whose settings have changed, or the ACLs of one of their VLANs. -/
def directlyChanged : Finset PortNo :=
  (portChanges old new).changed ∪ new.portsOf (changedAclVlans old new)

/-- The VLANs of the ports with this number. -/
def Config.vidsOf (config : Config K R) (number : PortNo) : Finset Vid :=
  (config.port? number).elim ∅ config.portVids

/-- The VLANs that ports leave or join. Of a changed port these are the ones that it is in
before or after, but not both. -/
def touchedVlans : Finset Vid :=
  (((directlyChanged old new).filter fun number => (old.port? number).isSome).biUnion fun number =>
      symmDiff (old.vidsOf number) (new.vidsOf number)) ∪
    (portChanges old new).deleted.biUnion old.vidsOf ∪
    (portChanges old new).added.biUnion new.vidsOf

/-- Ports with the same settings whose mirrors have changed. -/
def remirrored : Finset PortNo :=
  (portChanges old new).same.filter fun number =>
    (old.port? number).map (·.mirror) ≠ (new.port? number).map (·.mirror)

/-- Ports of which only ACLs have changed. -/
def changedAclPorts : Finset PortNo :=
  (portChanges old new).same.filter fun number =>
    aclRefChanges (changedAcls old new) ((old.port? number).elim [] (·.aclsIn))
      ((new.port? number).elim [] (·.aclsIn))

/-- `_get_meter_config_changes` -/
def meterChanges : KeyedChanges.Changes K :=
  compare Prod.fst (fun meter meter' => decide (meter.2 = meter'.2)) old.meters new.meters

/-- The changes that make for a cold start. -/
def coldChanges : Changes K where
  deletedPorts := ∅
  changedPorts := ∅
  addedPorts := ∅
  changedAclPorts := ∅
  addedVlans := ∅
  deletedVlans := ∅
  changedVlans := ∅
  changedAclVlans := ∅
  allPortsChanged := true
  allMetersChanged := true
  deletedMeters := ∅
  addedMeters := ∅
  changedMeters := ∅

/-- `get_config_changes`, with `_get_port_config_changes`. -/
def getConfigChanges : Changes K :=
  let vlans := vlanChanges old new
  let ports := portChanges old new
  let meters := meterChanges old new
  if new.routers ≠ old.routers ∨ old.settings ≠ new.settings then coldChanges
  else
    { deletedPorts := ports.deleted
      changedPorts :=
        if allPortsChanged old new then ports.changed
        else directlyChanged old new ∪ remirrored old new ∪
          new.portsOf (vlans.added ∪ vlans.changed)
      addedPorts := ports.added
      changedAclPorts := if allPortsChanged old new then ∅ else changedAclPorts old new
      addedVlans := vlans.added
      deletedVlans := vlans.deleted
      changedVlans :=
        ((if allPortsChanged old new then vlans.changed else vlans.changed ∪ touchedVlans old new) \
          vlans.added) \ vlans.deleted
      changedAclVlans := changedAclVlans old new
      allPortsChanged := allPortsChanged old new
      allMetersChanged := decide (meters.deleted ∪ meters.added ∪ meters.changed ≠ ∅)
      deletedMeters := meters.deleted
      addedMeters := meters.added
      changedMeters := meters.changed }

/-! ## Restarts -/

/-- How a datapath is restarted. -/
inductive RestartType where
  | cold
  | warm
deriving DecidableEq, Repr

omit [DecidableEq K] in
/-- The lines of `pipeline_str`. They are sorted, so that the text is as good as their set. -/
def Config.pipelineStr (config : Config K R) : Finset (ℕ × Pipeline.TableName × R) :=
  (config.pipeline.tables.map fun table =>
    (table.tableId, table.name, config.shown table.name)).toFinset

variable (tfm : Bool)

/-- `_pipeline_change` of `Valve`, or of `TfmValve`. -/
def pipelineChange : Bool :=
  if tfm then decide (old.pipelineStr ≠ new.pipelineStr)
  else decide (old.hardware ≠ new.hardware ∨
    old.pipeline.pipelineTableids ≠ new.pipeline.pipelineTableids)

/-- Something is reported to be changed. -/
def Changes.any (changes : Changes K) : Bool :=
  decide (changes.deletedPorts ≠ ∅ ∨ changes.changedPorts ≠ ∅ ∨ changes.addedPorts ≠ ∅ ∨
    changes.changedAclPorts ≠ ∅ ∨ changes.addedVlans ≠ ∅ ∨ changes.deletedVlans ≠ ∅ ∨
    changes.changedVlans ≠ ∅ ∨ changes.changedAclVlans ≠ ∅ ∨ changes.allPortsChanged = true ∨
    changes.allMetersChanged = true ∨ changes.deletedMeters ≠ ∅ ∨ changes.addedMeters ≠ ∅ ∨
    changes.changedMeters ≠ ∅)

/-- The restart of `_apply_config_changes`; the valve may be a `TfmValve`. -/
def restartType : Option RestartType :=
  let changes := getConfigChanges old new
  if pipelineChange old new tfm || changes.allPortsChanged then some .cold
  else if changes.any then some .warm
  else none

end Comparison

end Faucet.Reload
