import Faucet.Acl.Rules
import Faucet.Egress.Metadata

/-!
# The tables of the pipeline

The pipeline has a table for each of its stages, and a datapath gets those that it needs:
some always, the others when there are ACLs, routing, hairpinning and so on. Each table
names the tables where its flows may go on, and the one where its packets go when no
flow matches. `_configure_tables` leaves out the tables that are not there, numbers the
others, and has the numbers of the next tables looked up.
-/

set_option autoImplicit false

namespace Faucet.Pipeline

open Acl (inPort vlanVid)
open Egress (egressMetadataMask)

/-! ## Fields -/

/-- `metadata`. -/
def metadata : ℕ := 2
/-- `eth_dst`. -/
def ethDst : ℕ := 3
/-- `eth_src`. -/
def ethSrc : ℕ := 4
/-- `eth_type`. -/
def ethType : ℕ := 5
/-- `vlan_pcp`. -/
def vlanPcp : ℕ := 7
/-- `ip_proto`. -/
def ipProto : ℕ := 10
/-- `ipv4_dst`. -/
def ipv4Dst : ℕ := 12
/-- `arp_tpa`. -/
def arpTpa : ℕ := 23
/-- `ipv6_dst`. -/
def ipv6Dst : ℕ := 27
/-- `icmpv6_type`. -/
def icmpv6Type : ℕ := 29

/-- `EXTERNAL_FORWARDING_FIELD`. -/
def externalForwardingField : ℕ := vlanPcp

/-! ## Configurations of tables -/

/-- The names of the tables. -/
inductive TableName where
  | portAcl
  | vlan
  | copro
  | vlanAcl
  | classification
  | ethSrc
  | ipv4Fib
  | ipv6Fib
  | vip
  | ethDstHairpin
  | ethDst
  | egressAcl
  | egress
  | flood
deriving DecidableEq, Repr

/-- The version of a VIP of a VLAN. -/
inductive Ipv where
  | four
  | six
deriving DecidableEq, Repr

/-- A table as it is configured; the types of its matches come with whether they may
have masks. No types or no fields may also stand for `None`. -/
structure ValveTableConfig where
  name : TableName
  tableId : ℕ
  exactMatch : Bool
  meter : Bool
  output : Bool
  missGoto : Option TableName
  matchTypes : List (ℕ × Bool)
  setFields : List ℕ
  decTtl : Bool
  nextTables : List TableName
  metadataMatch : ℕ
  metadataWrite : ℕ
deriving DecidableEq, Repr

/-- The defaults of the arguments. -/
def valveTableConfig (name : TableName) (tableId : ℕ) : ValveTableConfig where
  name
  tableId
  exactMatch := false
  meter := false
  output := true
  missGoto := none
  matchTypes := []
  setFields := []
  decTtl := false
  nextTables := []
  metadataMatch := 0
  metadataWrite := 0

/-- `_NEXT_ETH`. -/
def nextEth : List TableName := [.ethDstHairpin, .ethDst, .flood]

/-- `_NEXT_VIP`. -/
def nextVip : List TableName := .vip :: nextEth

/-- The FIB of the version. -/
def Ipv.fibName : Ipv → TableName
  | four => .ipv4Fib
  | six => .ipv6Fib

/-- The destination field of the version. -/
def Ipv.dstField : Ipv → ℕ
  | four => ipv4Dst
  | six => ipv6Dst

/-- `_fib_table`. -/
def fibTable (ipv : Ipv) (tableId : ℕ) : ValveTableConfig :=
  { valveTableConfig ipv.fibName tableId with
    matchTypes := [(ethType, false), (ipv.dstField, true), (vlanVid, false)]
    setFields := [ethDst, ethSrc, vlanVid]
    decTtl := true
    nextTables := nextVip }

/-- `PORT_ACL_DEFAULT_CONFIG` -/
def portAclDefaultConfig : ValveTableConfig :=
  { valveTableConfig .portAcl 0 with
    matchTypes := [(inPort, false)]
    nextTables := .vlan :: nextVip }

/-- `VLAN_DEFAULT_CONFIG` -/
def vlanDefaultConfig : ValveTableConfig :=
  { valveTableConfig .vlan (portAclDefaultConfig.tableId + 1) with
    matchTypes := [(ethDst, true), (ethType, false), (inPort, false), (vlanVid, false)]
    setFields := [vlanVid]
    nextTables := [.copro, .vlanAcl, .classification, .ethSrc] }

/-- `COPRO_DEFAULT_CONFIG` -/
def coproDefaultConfig : ValveTableConfig :=
  { valveTableConfig .copro (vlanDefaultConfig.tableId + 1) with
    matchTypes := [(inPort, false), (ethType, false), (vlanVid, false)]
    missGoto := some .ethDst
    nextTables := [.ethDst] }

/-- `VLAN_ACL_DEFAULT_CONFIG` -/
def vlanAclDefaultConfig : ValveTableConfig :=
  { valveTableConfig .vlanAcl (vlanDefaultConfig.tableId + 1) with
    nextTables := [.classification, .ethSrc] ++ nextEth }

/-- `CLASSIFICATION_DEFAULT_CONFIG` -/
def classificationDefaultConfig : ValveTableConfig :=
  { valveTableConfig .classification (vlanAclDefaultConfig.tableId + 1) with
    missGoto := some .ethSrc
    nextTables := [.ethSrc, .ipv4Fib, .ipv6Fib] ++ nextVip }

/-- `ETH_SRC_DEFAULT_CONFIG` -/
def ethSrcDefaultConfig : ValveTableConfig :=
  { valveTableConfig .ethSrc (classificationDefaultConfig.tableId + 1) with
    missGoto := some .ethDst
    nextTables := [.ipv4Fib, .ipv6Fib] ++ nextVip
    matchTypes := [(ethDst, true), (ethSrc, false), (ethType, false), (inPort, false),
      (vlanVid, false)]
    setFields := [vlanVid, ethDst] }

/-- `IPV4_FIB_DEFAULT_CONFIG` -/
def ipv4FibDefaultConfig : ValveTableConfig :=
  fibTable .four (ethSrcDefaultConfig.tableId + 1)

/-- `IPV6_FIB_DEFAULT_CONFIG` -/
def ipv6FibDefaultConfig : ValveTableConfig :=
  fibTable .six (ipv4FibDefaultConfig.tableId + 1)

/-- `VIP_DEFAULT_CONFIG` -/
def vipDefaultConfig : ValveTableConfig :=
  { valveTableConfig .vip (ipv6FibDefaultConfig.tableId + 1) with
    matchTypes := [(arpTpa, false), (ethDst, false), (ethType, false), (icmpv6Type, false),
      (ipProto, false)]
    nextTables := nextEth }

/-- `ETH_DST_HAIRPIN_DEFAULT_CONFIG` -/
def ethDstHairpinDefaultConfig : ValveTableConfig :=
  { valveTableConfig .ethDstHairpin (vipDefaultConfig.tableId + 1) with
    matchTypes := [(inPort, false), (ethDst, false), (vlanVid, false)]
    missGoto := some .ethDst
    exactMatch := true }

/-- `ETH_DST_DEFAULT_CONFIG` -/
def ethDstDefaultConfig : ValveTableConfig :=
  { valveTableConfig .ethDst (ethDstHairpinDefaultConfig.tableId + 1) with
    exactMatch := true
    missGoto := some .flood
    matchTypes := [(ethDst, false), (vlanVid, false)]
    nextTables := [.egress, .egressAcl]
    metadataWrite := egressMetadataMask }

/-- `EGRESS_ACL_DEFAULT_CONFIG` -/
def egressAclDefaultConfig : ValveTableConfig :=
  { valveTableConfig .egressAcl (ethDstDefaultConfig.tableId + 1) with
    nextTables := [.egress] }

/-- `EGRESS_DEFAULT_CONFIG` -/
def egressDefaultConfig : ValveTableConfig :=
  { valveTableConfig .egress (egressAclDefaultConfig.tableId + 1) with
    matchTypes := [(metadata, true), (vlanVid, false)]
    nextTables := [.flood]
    missGoto := some .flood
    metadataMatch := egressMetadataMask }

/-- `FLOOD_DEFAULT_CONFIG` -/
def floodDefaultConfig : ValveTableConfig :=
  { valveTableConfig .flood (egressDefaultConfig.tableId + 1) with
    matchTypes := [(ethDst, true), (inPort, false), (vlanVid, false)] }

/-- `MINIMUM_FAUCET_PIPELINE_TABLES`. -/
def minimumFaucetPipelineTables : List TableName := [.vlan, .ethSrc, .ethDst, .flood]

/-- `FAUCET_PIPELINE`. -/
def faucetPipeline : List ValveTableConfig :=
  [portAclDefaultConfig, vlanDefaultConfig, coproDefaultConfig, vlanAclDefaultConfig,
    classificationDefaultConfig, ethSrcDefaultConfig, ipv4FibDefaultConfig, ipv6FibDefaultConfig,
    vipDefaultConfig, ethDstHairpinDefaultConfig, ethDstDefaultConfig, egressAclDefaultConfig,
    egressDefaultConfig, floodDefaultConfig]

/-! ## Datapaths -/

/-- What of an ACL table comes from the ACLs. -/
structure AclContents where
  exactMatch : Bool
  meter : Bool
  matchTypes : List (ℕ × Bool)
  setFields : List ℕ
deriving DecidableEq, Repr

/-- What `_generate_acl_tables` returns. -/
structure AclTables where
  portAcl : Option AclContents
  vlanAcl : Option AclContents
  egressAcl : Option AclContents
deriving DecidableEq, Repr

/-- What the ACLs need of a table. -/
def AclTables.get (tables : AclTables) : TableName → Option AclContents
  | .portAcl => tables.portAcl
  | .vlanAcl => tables.vlanAcl
  | .egressAcl => tables.egressAcl
  | _ => none

/-- What the pipeline of a datapath depends on. -/
structure Dp where
  /-- `STATIC_TABLE_IDS` of the hardware. -/
  staticTableIds : Bool
  aclTables : AclTables
  /-- The versions of the VIPs of all VLANs. -/
  ipvs : List Ipv
  hairpinPorts : Bool
  useClassification : Bool
  /-- The option `egress_pipeline`. -/
  egressOption : Bool
  coprocessorPorts : Bool
  hasExternals : Bool
  restrictedBcastArpnd : Bool
deriving DecidableEq, Repr

/-- `ValveTable`, with its configuration. -/
structure ValveTable where
  config : ValveTableConfig
  /-- The ids of the next tables. -/
  nextTables : List ℕ
deriving DecidableEq, Repr

namespace ValveTable

variable (table : ValveTable)

/-- `table.name` -/
def name : TableName := table.config.name

/-- `table.table_id` -/
def tableId : ℕ := table.config.tableId

end ValveTable

namespace Dp

variable (dp : Dp)

/-- The egress pipeline is used for ACLs of outgoing packets, also without the option. -/
def egressPipeline : Bool := dp.egressOption || dp.aclTables.egressAcl.isSome

/-- The tables that are there. -/
def included (name : TableName) : Bool :=
  minimumFaucetPipelineTables.contains name || (dp.aclTables.get name).isSome ||
    dp.ipvs.any (fun ipv => ipv.fibName == name || name == .vip) ||
    (dp.staticTableIds && name == .portAcl) ||
    (dp.hairpinPorts && name == .ethDstHairpin) ||
    (dp.useClassification && name == .classification) ||
    (dp.egressPipeline && name == .egress) ||
    (dp.coprocessorPorts && name == .copro)

/-- The tables of `FAUCET_PIPELINE` that the datapath has. -/
def canonicalConfigs : List ValveTableConfig :=
  faucetPipeline.filter fun config => dp.included config.name

/-- An ACL table has the id and the next tables of its default. -/
def aclTableConfig (default : ValveTableConfig) (contents : AclContents) : ValveTableConfig :=
  { valveTableConfig default.name default.tableId with
    exactMatch := contents.exactMatch
    meter := contents.meter
    matchTypes := contents.matchTypes
    setFields := contents.setFields
    nextTables := default.nextTables }

/-- The default of a table, or what there is for the ACLs in its place. -/
def ownConfig (default : ValveTableConfig) : ValveTableConfig :=
  match dp.aclTables.get default.name with
  | some contents => aclTableConfig default contents
  | none => default

/-- The tables use metadata with the egress pipeline alone. -/
def withMetadata (config : ValveTableConfig) : ValveTableConfig :=
  if dp.egressPipeline then config else { config with metadataMatch := 0, metadataWrite := 0 }

/-- A table gets its number. -/
def withTableId (relativeTableId : ℕ) (config : ValveTableConfig) : ValveTableConfig :=
  if dp.staticTableIds then config else { config with tableId := relativeTableId }

/-- Stacking with external ports needs a field for requests of external forwarding. -/
def withExternals (config : ValveTableConfig) : ValveTableConfig :=
  if dp.hasExternals && [.vlan, .ethDst, .flood].contains config.name then
    { config with
      matchTypes := config.matchTypes ++ [(externalForwardingField, false)]
      setFields := config.setFields ++ [externalForwardingField] }
  else config

/-- The flood table matches the type of a frame when broadcasts are restricted. -/
def withRestrictedBcast (config : ValveTableConfig) : ValveTableConfig :=
  if dp.restrictedBcastArpnd && config.name == .flood then
    { config with matchTypes := config.matchTypes ++ [(ethType, false)] }
  else config

/-- With egress ACLs the destination table leads to theirs. -/
def withEgressAcl (config : ValveTableConfig) : ValveTableConfig :=
  if dp.included .egressAcl && config.name == .ethDst then
    { config with missGoto := some .egressAcl }
  else config

/-- Next tables that are not there are left out. -/
def withNextTables (config : ValveTableConfig) : ValveTableConfig :=
  { config with nextTables := config.nextTables.filter dp.included }

/-- What is made of a default, which is the table with this number among those there are. -/
def tableConfig (default : ValveTableConfig) (relativeTableId : ℕ) : ValveTableConfig :=
  dp.withNextTables <| dp.withEgressAcl <| dp.withRestrictedBcast <| dp.withExternals <|
    dp.withTableId relativeTableId <| dp.withMetadata <| dp.ownConfig default

/-- The tables with their numbers. -/
def tableConfigs : List ValveTableConfig :=
  dp.canonicalConfigs.zipIdx.map fun (default, relativeTableId) =>
    dp.tableConfig default relativeTableId

/-- The table of a name. -/
def config? (name : TableName) : Option ValveTableConfig :=
  dp.tableConfigs.find? (·.name == name)

/-- `_configure_tables`. -/
def tables : List ValveTable :=
  dp.tableConfigs.map fun config =>
    ⟨config, config.nextTables.filterMap fun name => (dp.config? name).map (·.tableId)⟩

/-- The table of this name. -/
def table? (name : TableName) : Option ValveTable := dp.tables.find? (·.name == name)

/-- `table_by_id`: the first table with the id. -/
def tableById (tableId : ℕ) : Option ValveTable := dp.tables.find? (·.tableId == tableId)

end Dp

end Faucet.Pipeline
