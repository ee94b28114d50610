import Faucet.Acl.Rules

/-!
# The flows of access lists

How the rules of ACLs become flows of a table: the instructions are trimmed, the table
checks the match and the priority, and the rules of all lists get priorities one after
the other. The ACL manager does that for the datapath, for ports and for VLANs.
-/

set_option autoImplicit false

namespace Faucet.Acl

open OpenFlow

/-! ## Tables -/

/-- A table as it is configured; the types of its matches come with whether they may
have masks. -/
structure AclTable where
  tableId : Fin 255
  matchTypes : List (ℕ × Bool)
  setFields : List ℕ
  exactMatch : Bool
  flowCookie : ℕ
  notifyFlowRemoved : Bool
deriving DecidableEq, Repr

/-- The loop of `_trim_actions`: what is kept so far, and what waits for an output. -/
def trimLoop : List Act → List Act → List Act → List Act
  | newActions, _, [] => newActions
  | newActions, pendingActions, action :: rest =>
      if action.outputs then trimLoop (newActions ++ pendingActions ++ [action]) [] rest
      else trimLoop newActions (pendingActions ++ [action]) rest

/-- `OFPFF_SEND_FLOW_REM`. -/
def ofpffSendFlowRem : ℕ := 1

namespace AclTable

variable (table : AclTable)

/-- `none` when a field is set that is not configured for the table. -/
def trimActions (actions : List Act) : Option (List Act) :=
  let newActions := trimLoop [] [] actions
  if (newActions.filterMap Act.fieldSet).all table.setFields.contains then some newActions
  else none

/-- Without a goto or connection tracking these are the last actions that can take place. -/
def trimApply (gotoPresent : Bool) (actions : List Act) : Option (List Act) :=
  if !gotoPresent && !actions.any Act.isCt then table.trimActions actions else some actions

/-- The loop of `_trim_inst`. -/
def trimEach (gotoPresent : Bool) : List Inst → Option (List Inst)
  | [] => some []
  | .applyActions actions :: rest => do
      let actions ← table.trimApply gotoPresent actions
      let rest ← trimEach gotoPresent rest
      some (if actions.isEmpty then rest else .applyActions actions :: rest)
  | instr :: rest => do
      let rest ← trimEach gotoPresent rest
      some (instr :: rest)

/-- `_trim_inst`, on instructions that are not shared with other flows. -/
def trimInst (inst : List Inst) : Option (List Inst) :=
  if inst.any Inst.isApply then table.trimEach (inst.any Inst.isGoto) inst else some inst

/-- The fields of the match are configured for the table. -/
def configures (fields : Match) : Bool :=
  fields.items.all fun field => table.matchTypes.any fun (type, mask) =>
    type == field.field && (mask || field.mask.isNone)

/-- What `_verify_flowmod` asserts of an add, apart from its priority. -/
def verifies (fields : Match) : Bool :=
  table.configures fields &&
    (!table.exactMatch || fields.items.isEmpty ||
      table.matchTypes.length == fields.items.length)

/-- An add of `flowmod`. It is `none` when an assertion fails, or the priority does not
fit into the message. -/
def flowmod (fields : Match) (priority : ℤ) (inst : List Inst) (cookie : Option ℕ) :
    Option FlowMod := do
  let inst ← table.trimInst inst
  if table.verifies fields && !(priority == 0 && !fields.items.isEmpty) &&
      0 ≤ priority && priority ≤ 65535 then
    some
      { command := .add
        tableId := table.tableId
        priority := priority.toNat
        cookie := cookie.getD table.flowCookie
        outPort := some 0
        matchFields := fields
        instructions := inst.map Inst.wire
        hardTimeout := 0
        idleTimeout := 0
        flags := if table.notifyFlowRemoved then ofpffSendFlowRem else 0 }
  else none

/-- `flowdel`; the types of the match are checked, but not the masks. -/
def flowdel (fields : Match) (priority : ℤ) : Option FlowMod :=
  if (fields.items.all fun field => table.matchTypes.any fun (type, _) => type == field.field) &&
      0 ≤ priority && priority ≤ 65535 then
    some
      { command := .delete
        tableId := table.tableId
        priority := priority.toNat
        cookie := table.flowCookie
        outPort := none
        matchFields := fields
        instructions := []
        hardTimeout := 0
        idleTimeout := 0
        flags := if table.notifyFlowRemoved then ofpffSendFlowRem else 0 }
  else none

/-- The delete that goes before an add, if one is wanted. -/
def deleteBefore (flowdel : Bool) (fields : Match) (priority : ℤ) : Option (List FlowMod) :=
  if flowdel then (table.flowdel fields priority).map ([·]) else some []

/-- `flowdrop` at the lowest priority, the default of an ACL table. -/
def defaultDrop (lowestPriority : ℕ) : FlowMod where
  command := .add
  tableId := table.tableId
  priority := lowestPriority
  cookie := table.flowCookie
  outPort := some 0
  matchFields := .any
  instructions := []
  hardTimeout := 0
  idleTimeout := 0
  flags := if table.notifyFlowRemoved then ofpffSendFlowRem else 0

end AclTable

/-! ## Lists of rules -/

/-- An ACL; `check_config` wants a rule. -/
structure AclConf where
  rules : List RuleConf
  exactMatch : Bool
  someRule : rules ≠ []
deriving DecidableEq

/-- `build_rule_ofmsgs`. -/
def buildRuleOfmsgs (table : AclTable) (context : Context) (highestPriority : ℤ)
    (exactMatch flowdel : Bool) (aclRulePriority : ℤ) (rule : RuleConf) :
    Option (List Ofmsg) := do
  let entry ← buildAclEntry rule context
  let priority := if exactMatch then highestPriority else aclRulePriority
  let mod ← table.flowmod entry.matchFields priority entry.inst entry.cookie
  let del ← table.deleteBefore flowdel entry.matchFields priority
  some (entry.ofmsgs ++ (del ++ [mod]).map .flowMod)

/-- The rules one after the other, with their priorities counted down. -/
def buildRulesOfmsgs (table : AclTable) (context : Context) (highestPriority : ℤ)
    (exactMatch flowdel : Bool) : ℤ → List RuleConf → Option (List Ofmsg)
  | _, [] => some []
  | aclRulePriority, rule :: rest => do
      let first ← buildRuleOfmsgs table context highestPriority exactMatch flowdel
        aclRulePriority rule
      let later ← buildRulesOfmsgs table context highestPriority exactMatch flowdel
        (aclRulePriority - 1) rest
      some (first ++ later)

/-- `build_acl_ofmsgs`: the rules of all lists are counted together. -/
def buildAclOfmsgs (acls : List AclConf) (table : AclTable) (context : Context) (highestPriority : ℤ)
    (exactMatch flowdel : Bool) : Option (List Ofmsg) :=
  buildRulesOfmsgs table context highestPriority exactMatch flowdel highestPriority
    (acls.flatMap (·.rules))

/-! ## The manager -/

/-- `_FILTER_PRIORITY`. -/
def aclPriority : ℤ := 0x5000

/-- The options of a port that the ACL manager reads. -/
structure Port where
  number : PortNo
  aclsIn : List AclConf
  dot1x : Bool
  outputOnly : Bool
deriving DecidableEq

/-- The ACLs of a VLAN. -/
structure Vlan where
  vid : ℕ
  aclsIn : List AclConf
  aclsOut : List AclConf
deriving DecidableEq

/-- The tables where the pipeline goes on. -/
structure Pipeline where
  vlanTable : ℕ
  classificationTable : ℕ
  outputTable : ℕ
  egressTable : ℕ
deriving DecidableEq, Repr

/-- `ValveAclManager` -/
structure AclManager where
  dpAcls : List AclConf
  portAclTable : Option AclTable
  vlanAclTable : Option AclTable
  egressAclTable : Option AclTable
  pipeline : Pipeline
  meters : Meters

namespace AclManager

variable (manager : AclManager)

/-- Where ACLs of the datapath and of ports are applied. -/
def portContext (portNum : Option PortNo) : Context where
  meters := manager.meters
  allowTable := manager.pipeline.vlanTable
  forcePortVlanTable := manager.pipeline.outputTable
  portNum
  vid := none
  tunnelRules := none

/-- The context of the ACLs for packets that come into the VLAN. -/
def vlanInContext (vid : ℕ) : Context where
  meters := manager.meters
  allowTable := manager.pipeline.classificationTable
  forcePortVlanTable := manager.pipeline.outputTable
  portNum := none
  vid := some vid
  tunnelRules := none

/-- The context of the ACLs for packets that leave the VLAN. -/
def vlanOutContext (vid : ℕ) : Context where
  meters := manager.meters
  allowTable := manager.pipeline.egressTable
  forcePortVlanTable := manager.pipeline.egressTable
  portNum := none
  vid := some vid
  tunnelRules := none

/-- The exactness of the first list, which the configuration wants of all of them. -/
def exactMatch (acls : List AclConf) : Bool := acls.head?.any (·.exactMatch)

/-- `initialise_tables`; there is a table when there are ACLs. -/
def initialiseTables : Option (List Ofmsg) :=
  match manager.dpAcls, manager.portAclTable with
  | [], _ => some []
  | _, none => none
  | acls, some table =>
      buildAclOfmsgs acls table (manager.portContext none) aclPriority false false

/-- `_port_acls_allowed`, with the table. -/
def portAclsAllowed (port : Port) : Option AclTable :=
  if manager.dpAcls.isEmpty && !port.outputOnly then manager.portAclTable else none

/-- An allow without another condition. -/
def allow (table : AclTable) (fields : Match) (target : ℕ) : Option (List Ofmsg) :=
  (table.flowmod fields aclPriority [.gotoTable target] none).map fun mod => [.flowMod mod]

/-- `add_port` -/
def addPort (port : Port) : Option (List Ofmsg) :=
  match manager.portAclsAllowed port with
  | none => some []
  | some table =>
      if port.aclsIn ≠ [] then
        buildAclOfmsgs port.aclsIn table (manager.portContext (some port.number)) aclPriority
          (exactMatch port.aclsIn) false
      else if !port.dot1x then
        allow table (.single ⟨inPort, port.number, none⟩) manager.pipeline.vlanTable
      else some []

/-- What `add_vlan` puts into the table of incoming ACLs; there is one when there are ACLs. -/
def addVlanIn (vlan : Vlan) : Option (List Ofmsg) :=
  match vlan.aclsIn, manager.vlanAclTable with
  | [], _ => some []
  | _, none => none
  | acls, some table =>
      buildAclOfmsgs acls table (manager.vlanInContext vlan.vid) aclPriority (exactMatch acls) false

/-- What `add_vlan` puts into the table of outgoing ACLs. -/
def addVlanOut (vlan : Vlan) : Option (List Ofmsg) :=
  match manager.egressAclTable with
  | none => some []
  | some table =>
      if vlan.aclsOut ≠ [] then
        buildAclOfmsgs vlan.aclsOut table (manager.vlanOutContext vlan.vid) aclPriority
          (exactMatch vlan.aclsOut) false
      else allow table (.single ⟨vlanVid, vidPresent vlan.vid, none⟩) manager.pipeline.egressTable

/-- `add_vlan` -/
def addVlan (vlan : Vlan) : Option (List Ofmsg) := do
  let incoming ← manager.addVlanIn vlan
  let outgoing ← manager.addVlanOut vlan
  some (incoming ++ outgoing)

end AclManager

end Faucet.Acl
