import Faucet.Acl.Placements
import Faucet.Library.OrderedDict
import Faucet.Pipeline.Tables

/-!
# The tables of access lists

Before there are tables, each ACL is built once for every place where it is applied, and
it remembers the fields that its flows match and set (`AccessList.build`). It remembers those of
the last build alone. The three ACL tables are made for what the ACLs applied there
remember (`DpConf.aclTables`), and a flow that does not fit its table is an error when
the datapath is started.
-/

set_option autoImplicit false

namespace Faucet.Acl

open OpenFlow

/-! ## Types of matches -/

/-- The fields that may be matched, and whether they may have masks. -/
abbrev MatchTypes := List (ℕ × Bool)

namespace MatchTypes

/-- A field is noted when it is new, or when it has a mask. -/
def note (types : MatchTypes) (field : ℕ × Bool) : MatchTypes :=
  if field.2 || !types.any (·.1 == field.1) then OrderedDict.assign Prod.fst types field
  else types

/-- All fields of a match are noted. -/
def noteAll (types : MatchTypes) (fields : List (ℕ × Bool)) : MatchTypes := fields.foldl note types

end MatchTypes

/-- The fields of a match, with whether each has a mask. -/
def matchTypesOf (fields : Match) : MatchTypes :=
  fields.items.map fun field => (field.field, field.mask.isSome)

/-! ## One ACL -/

namespace Inst

/-- The actions of `apply_actions`. -/
def acts : Inst → List Act
  | applyActions acts => acts
  | _ => []

/-- `is_meter` -/
def isMeter : Inst → Bool
  | meter _ => true
  | _ => false

end Inst

/-- What `_trim_inst` leaves of the actions of an instruction in the wildcard table, which
may set any field. -/
def trimAll (gotoPresent : Bool) (actions : List Act) : List Act :=
  if !gotoPresent && !actions.any Act.isCt then trimLoop [] [] actions else actions

/-- The fields that a flow with the instructions sets. -/
def fieldsSet (inst : List Inst) : List ℕ :=
  inst.flatMap fun instr => (trimAll (inst.any Inst.isGoto) instr.acts).filterMap Act.fieldSet

/-- What an ACL remembers of a build. -/
structure Built where
  matchTypes : MatchTypes
  setFields : List ℕ
  meter : Bool
deriving DecidableEq, Repr

/-- What is noted about a flow. -/
def Built.noteFlow (built : Built) (fields : Match) (inst : List Inst) : Built where
  matchTypes := built.matchTypes.noteAll (matchTypesOf fields)
  setFields := built.setFields ++ fieldsSet inst
  meter := built.meter || inst.any Inst.isMeter

/-- An ACL with the options that are not of its rules. -/
structure AccessList where
  conf : AclConf
  dot1xAssigned : Bool
  /-- `exit_instructions` of its tunnels. -/
  exits : List (List OutputAction)
deriving DecidableEq

/-- The output of the rule goes into a tunnel. -/
def Output.hasTunnel : Output → Bool
  | .dict conf => conf.tunnel.isSome
  | .ordered actions => actions.any fun
      | .tunnel _ => true
      | _ => false

namespace AccessList

variable (acl : AccessList)

/-- `is_tunnel_acl`. -/
def isTunnelAcl : Bool :=
  !acl.exits.isEmpty || acl.conf.rules.any fun rule =>
    rule.actions.any fun actions => actions.output.any Output.hasTunnel

/-- Where an ACL is built: packets that are allowed go on in the wildcard table. -/
def buildContext (meters : Meters) (vid : Option ℕ) (portNum : Option PortNo) : Context where
  meters
  allowTable := ofpttAll
  forcePortVlanTable := ofpttAll
  portNum
  vid
  tunnelRules := none

/-- The flows of the rules are built with decreasing priorities from the greatest one. -/
def noteRules (context : Context) : Built → List RuleConf → Option Built
  | built, [] => some built
  | built, rule :: rest => do
      let entry ← buildAclEntry rule context
      noteRules context (built.noteFlow entry.matchFields entry.inst) rest

/-- `PCP_TUNNEL_FLAG`. -/
def pcpTunnelFlag : ℕ := 3

/-- What a packet does at the end of a tunnel; `build_tunnel_ofmsgs`. -/
def noteExits : Built → List (List OutputAction) → Option Built
  | built, [] => some built
  | built, exit :: rest => do
      let output ← buildOrderedOutputActions noTunnel exit
      noteExits (built.noteFlow (.single ⟨Pipeline.vlanPcp, pcpTunnelFlag, none⟩)
        (output.inst ++ [.applyActions output.actions])) rest

/-- `build`; without it the configuration is not accepted. The priorities of an ACL that is
not for exact matches are counted down to zero. -/
def build (meters : Meters) (vid : Option ℕ) (portNum : Option PortNo) : Option Built :=
  if acl.conf.exactMatch || acl.conf.rules.length ≤ 65536 then do
    let built ← noteRules (buildContext meters vid portNum) ⟨[], [], false⟩ acl.conf.rules
    noteExits built acl.exits
  else none

end AccessList

/-- `verify_tunnel_rules`. -/
def Built.verifyTunnelRules (built : Built) : Built where
  matchTypes := built.matchTypes.noteAll
    [(Pipeline.ethType, false), (inPort, false), (vlanVid, false), (Pipeline.vlanPcp, false)]
  setFields := built.setFields ++ [vlanVid, Pipeline.vlanPcp]
  meter := built.meter

/-! ## A datapath -/

/-- A VLAN with the names of its ACLs. -/
structure VlanConf (ν : Type) where
  vid : ℕ
  aclsIn : List ν
  aclsOut : List ν

/-- A port with the names of its ACLs. -/
structure PortConf (ν : Type) where
  number : PortNo
  aclsIn : List ν
  outputOnly : Bool
  dot1x : Bool
  dot1xDynAcl : Bool
  dot1xAcl : Bool

/-- The options of 802.1X that name ACLs. -/
structure Dot1xConf (ν : Type) where
  authAcl : Option ν
  noauthAcl : Option ν

/-- A datapath whose ACLs have names; every name that is used is that of an ACL. -/
structure DpConf (ν : Type) where
  acl : ν → AccessList
  /-- The names in the order of `acls`. -/
  names : List ν
  vlans : List (VlanConf ν)
  ports : List (PortConf ν)
  dpAcls : List ν
  dot1x : Option (Dot1xConf ν)
  /-- The tunnel ACLs that `finalize_tunnel_acls` keeps. -/
  tunnelAcls : List ν
  meters : Meters

/-- An Ethernet address that stands for any one. -/
def someEthAddr : ℕ := 0x010203040506

/-- `PORT_ACL_8021X`. -/
def portAcl8021x : AclConf where
  rules :=
    [{ cookie := none
       description := none
       actions := some
         { allow := none
           forcePortVlan := none
           meter := none
           mirror := none
           output := some <| .dict
             { popVlans := none
               vlanVid := none
               swapVid := none
               vlanVids := none
               setFields := some [⟨Pipeline.ethSrc, someEthAddr⟩, ⟨Pipeline.ethDst, someEthAddr⟩]
               port := some 0xfffffffe
               ports := none
               failover := none
               tunnel := none
               goto := none }
           ct := none }
       matchFields := [(.field Pipeline.ethType, ⟨1, none⟩), (.field Pipeline.ethSrc, ⟨someEthAddr, none⟩)]
       keys := by decide }]
  exactMatch := false
  someRule := List.cons_ne_nil _ _

/-- `MAB_ACL_8021X`. -/
def mabAcl8021x : AclConf where
  rules :=
    [{ cookie := none
       description := none
       actions := some
         { allow := none
           forcePortVlan := none
           meter := none
           mirror := none
           output := some <| .dict
             { popVlans := none
               vlanVid := none
               swapVid := none
               vlanVids := none
               setFields := none
               port := some 0xfffffffe
               ports := none
               failover := none
               tunnel := none
               goto := none }
           ct := none }
       matchFields :=
         [(.field Pipeline.ethType, ⟨0x0800, none⟩), (.field Pipeline.ethSrc, ⟨someEthAddr, none⟩),
           (.field Pipeline.ipProto, ⟨17, none⟩), (.field 15, ⟨68, none⟩), (.field 16, ⟨67, none⟩)]
       keys := by decide }]
  exactMatch := false
  someRule := List.cons_ne_nil _ _

namespace DpConf

variable {ν : Type} [DecidableEq ν] (conf : DpConf ν)

/-! ### Builds -/

/-- A call of `resolve_acl`: the ACL, and the VLAN or the port that it is built for. -/
structure Call (ν : Type) where
  name : ν
  vid : Option ℕ
  portNum : Option PortNo

/-- The calls for the ACLs of a VLAN. -/
def vlanCalls (vlan : VlanConf ν) : List (Call ν) :=
  (vlan.aclsIn ++ vlan.aclsOut).map fun name => ⟨name, some vlan.vid, none⟩

/-- ACLs that 802.1X may assign are built for each port that takes them. -/
def portCalls (port : PortConf ν) : List (Call ν) :=
  let dynAcls := if port.dot1xDynAcl then conf.names.filter fun name => (conf.acl name).dot1xAssigned
    else []
  let authAcls := if port.dot1xAcl then
      conf.dot1x.toList.flatMap fun dot1x => dot1x.authAcl.toList ++ dot1x.noauthAcl.toList
    else []
  (port.aclsIn ++ dynAcls ++ authAcls).map fun name => ⟨name, none, some port.number⟩

/-- The calls after those for VLANs. -/
def laterCalls : List (Call ν) :=
  conf.ports.flatMap conf.portCalls ++
    (conf.dpAcls ++ conf.names.filter fun name => (conf.acl name).isTunnelAcl).map
      fun name => ⟨name, none, none⟩

/-- The calls that `resolve_acls` makes. -/
def calls : List (Call ν) := conf.vlans.flatMap vlanCalls ++ conf.laterCalls

/-- The last call for an ACL. -/
def lastCall (name : ν) : Option (Call ν) := (conf.calls.filter (·.name = name)).getLast?

/-- What the build for a call finds out. -/
def buildCall (call : Call ν) : Option Built :=
  (conf.acl call.name).build conf.meters call.vid call.portNum

/-- What an ACL remembers at the end. -/
def remembered (name : ν) : Built :=
  let built := ((conf.lastCall name).bind conf.buildCall).getD ⟨[], [], false⟩
  if (conf.acl name).isTunnelAcl then built.verifyTunnelRules else built

/-! ### Tables -/

/-- An ACL as it counts for its table. -/
structure Counted where
  built : Built
  exactMatch : Bool

/-- What is counted of an ACL. -/
def counted (name : ν) : Counted := ⟨conf.remembered name, (conf.acl name).conf.exactMatch⟩

/-- An ACL of 802.1X, which is built when the module is loaded. -/
def fixedAcl (acl : AclConf) : Counted :=
  ⟨((⟨acl, false, []⟩ : AccessList).build (fun _ => none) none (some 1)).getD ⟨[], [], false⟩,
    acl.exactMatch⟩

/-- The ACLs of the 802.1x ports: the two fixed ones and the configured ones. -/
def dot1xAcls (dot1x : Dot1xConf ν) : List Counted :=
  fixedAcl portAcl8021x :: fixedAcl mabAcl8021x ::
    (dot1x.authAcl.toList ++ dot1x.noauthAcl.toList ++
      conf.names.filter fun name => (conf.acl name).dot1xAssigned).map conf.counted

/-- The names of the ACLs that the datapath or its ports apply. -/
def appliedIn : List ν :=
  if conf.dpAcls = [] then conf.ports.flatMap (·.aclsIn) else conf.dpAcls

/-- The ACLs for `port_acl`. -/
def portAcls : List Counted :=
  conf.dot1x.toList.flatMap conf.dot1xAcls ++
    (conf.appliedIn ++ conf.tunnelAcls).map conf.counted

/-- The ACLs for `vlan_acl`. -/
def vlanAcls : List Counted := (conf.vlans.flatMap (·.aclsIn)).map conf.counted

/-- The ACLs for `egress_acl`. -/
def egressAcls : List Counted := (conf.vlans.flatMap (·.aclsOut)).map conf.counted

end DpConf

/-- The table for some ACLs: it is exact when the last of them is. -/
def tableContents (acls : List DpConf.Counted) : Option Pipeline.AclContents :=
  acls.getLast?.map fun last =>
    { exactMatch := last.exactMatch
      meter := acls.any (·.built.meter)
      matchTypes := MatchTypes.noteAll [] (acls.flatMap (·.built.matchTypes))
      setFields := acls.flatMap (·.built.setFields) }

namespace DpConf

variable {ν : Type} [DecidableEq ν] (conf : DpConf ν)

/-- `_generate_acl_tables`. -/
def aclTables : Pipeline.AclTables where
  portAcl := tableContents conf.portAcls
  vlanAcl := tableContents conf.vlanAcls
  egressAcl := tableContents conf.egressAcls

/-! ### The manager -/

/-- What of the datapath is not about ACLs. -/
structure Rest where
  /-- The needs of the datapath; the ACL tables are those of the ACLs. -/
  dp : Pipeline.Dp
  cookie : ℕ
  useIdleTimeout : Bool

variable (rest : Rest)

/-- The datapath with the ACL tables of this configuration. -/
def dp : Pipeline.Dp := { rest.dp with aclTables := conf.aclTables }

/-- A table of the pipeline, as the manager uses it. -/
def aclTable (table : Pipeline.ValveTable) : AclTable where
  tableId := Fin.ofNat 255 table.tableId
  matchTypes := table.config.matchTypes
  setFields := table.config.setFields
  exactMatch := table.config.exactMatch
  flowCookie := rest.cookie
  notifyFlowRemoved := rest.useIdleTimeout

/-- The number of a table, where the pipeline has it. -/
def tableId (name : Pipeline.TableName) : ℕ := (((conf.dp rest).table? name).map (·.tableId)).getD 0

/-- `classification_table` and `output_table` are those of the first stage that is there. -/
def pipeline : Pipeline where
  vlanTable := conf.tableId rest .vlan
  classificationTable :=
    conf.tableId rest (if rest.dp.useClassification then .classification else .ethSrc)
  outputTable := conf.tableId rest (if rest.dp.hairpinPorts then .ethDstHairpin else .ethDst)
  egressTable := conf.tableId rest .egress

/-- The ACL manager of the datapath. -/
def manager : AclManager where
  dpAcls := conf.dpAcls.map fun name => (conf.acl name).conf
  portAclTable := ((conf.dp rest).table? .portAcl).map (aclTable rest)
  vlanAclTable := ((conf.dp rest).table? .vlanAcl).map (aclTable rest)
  egressAclTable := ((conf.dp rest).table? .egressAcl).map (aclTable rest)
  pipeline := conf.pipeline rest
  meters := conf.meters

/-- A port with its ACLs looked up. -/
def port (port : PortConf ν) : Port where
  number := port.number
  aclsIn := port.aclsIn.map fun name => (conf.acl name).conf
  dot1x := port.dot1x
  outputOnly := port.outputOnly

/-- A VLAN with its ACLs looked up. -/
def vlan (vlan : VlanConf ν) : Vlan where
  vid := vlan.vid
  aclsIn := vlan.aclsIn.map fun name => (conf.acl name).conf
  aclsOut := vlan.aclsOut.map fun name => (conf.acl name).conf

/-- The messages of the ACL manager when the datapath is started, or an error. -/
def start : Option (List Ofmsg) :=
  (conf.manager rest).messages (conf.ports.map conf.port) (conf.vlans.map conf.vlan)

end DpConf

end Faucet.Acl
