import Faucet.OpenFlow.Switch

/-!
# The rules of access lists

The rules of an ACL as they are when the configuration has been resolved, and what the
builders of `valve_acl` make of them: a match, instructions and the messages that go
with them. The output actions are a dict or, in the ordered form, a list of dicts with
one key each.

Fields are numbered by their places in `MATCH_FIELDS`, and their values are what the
functions of that table make of the configured ones.
-/

set_option autoImplicit false

namespace Faucet.Acl

open OpenFlow

/-! ## Fields -/

/-- `in_port`. -/
def inPort : ℕ := 0
/-- `vlan_vid`. -/
def vlanVid : ℕ := 6
/-- `ct_mark`. -/
def ctMark : ℕ := 45
/-- `ct_label`. -/
def ctLabel : ℕ := 46

/-- `vid_present`. -/
def vidPresent (vid : ℕ) : ℕ := vid ||| 0x1000

/-- A keyword argument of `set_field`. -/
structure SetField where
  field : ℕ
  value : ℕ
deriving DecidableEq, Repr, Encodable

/-- A key of a match: a field, or one of `OLD_MATCH_FIELDS`. -/
inductive MatchKey where
  | field (number : ℕ)
  | dlDst
  | dlSrc
  | dlType
  | dlVlan
  | nwProto
  | nwSrc
  | nwDst
deriving DecidableEq, Repr

/-- The OXM field of the key. -/
def MatchKey.number : MatchKey → ℕ
  | field number => number
  | dlDst => 3
  | dlSrc => 4
  | dlType => 5
  | dlVlan => vlanVid
  | nwProto => 10
  | nwSrc => 11
  | nwDst => 12

/-- A value, or a value with its mask. -/
structure FieldValue where
  value : ℕ
  mask : Option ℕ
deriving DecidableEq, Repr

/-! ## Actions and instructions -/

/-- The arguments of `ct_nat`; an address is `none` for the empty text. -/
structure CtNat where
  flags : ℕ
  rangeIpv4Min : Option ℕ
  rangeIpv4Max : Option ℕ
  rangeIpv6Min : Option ℕ
  rangeIpv6Max : Option ℕ
  rangeProtoMin : Option ℕ
  rangeProtoMax : Option ℕ
deriving DecidableEq, Repr, Encodable

/-- An action that `ct` nests. -/
inductive CtAct where
  | nat (args : CtNat)
  | setField (field : SetField)
deriving DecidableEq, Repr, Encodable

/-- The actions of a flow, as they are built. -/
inductive Act where
  | output (port : PortNo)
  | group (groupId : ℕ)
  | setField (field : SetField)
  | pushVlan (ethType : ℕ)
  | popVlan
  | ct (flags : ℕ) (actions : List CtAct) (alg : ℕ) (recircTable zoneOfsNbits zoneSrc : Option ℕ)
  | ctClear
deriving DecidableEq, Repr, Encodable

/-- The instructions of a flow, as they are built. -/
inductive Inst where
  | meter (meterId : ℕ)
  | gotoTable (tableId : ℕ)
  | applyActions (actions : List Act)
deriving DecidableEq, Repr

namespace Act

/-- `OFPAT_OUTPUT` or `OFPAT_GROUP`. -/
def outputs : Act → Bool
  | output _ | group _ => true
  | _ => false

/-- `NXActionCT`, which has a `recirc_table`. -/
def isCt : Act → Bool
  | ct .. => true
  | _ => false

/-- The field of a set field action. -/
def fieldSet : Act → Option ℕ
  | setField field => some field.field
  | _ => none

/-- The action as it is sent. -/
def wire : Act → OpenFlow.Act
  | output port => .output port
  | group groupId => .group groupId
  | act => .other (Encodable.encode act)

end Act

namespace Inst

/-- `is_apply_actions` -/
def isApply : Inst → Bool
  | applyActions _ => true
  | _ => false

/-- The instruction is a `goto_table`. -/
def isGoto : Inst → Bool
  | gotoTable _ => true
  | _ => false

/-- The instruction as it is sent. -/
def wire : Inst → Instruction
  | meter meterId => .meter meterId
  | gotoTable tableId => .gotoTable tableId
  | applyActions actions => .applyActions (actions.map Act.wire)

end Inst

/-! ## Configuration -/

/-- A VLAN to push: a VID, or a dict with an optional Ethernet type. -/
structure PushedVlan where
  vid : ℕ
  ethType : Option ℕ
deriving DecidableEq, Repr

/-- `failover`: the ports of a fast failover group. -/
structure Failover where
  groupId : ℕ
  ports : List PortNo
deriving DecidableEq, Repr

/-- An output action, with the value of its key. -/
inductive OutputAction where
  | popVlans (count : ℕ)
  | vlanVid (vlan : PushedVlan)
  | swapVid (vid : ℕ)
  | vlanVids (vlans : List PushedVlan)
  | setFields (fields : List SetField)
  | port (number : PortNo)
  | ports (numbers : List PortNo)
  | failover (conf : Failover)
  | tunnel (id : ℕ)
  | goto (tableId : ℕ)
deriving DecidableEq, Repr

/-- Output actions as a dict. -/
structure OutputDict where
  popVlans : Option ℕ
  vlanVid : Option PushedVlan
  swapVid : Option ℕ
  vlanVids : Option (List PushedVlan)
  setFields : Option (List SetField)
  port : Option PortNo
  ports : Option (List PortNo)
  failover : Option Failover
  tunnel : Option ℕ
  goto : Option ℕ
deriving DecidableEq, Repr

/-- The two forms of `output`: a dictionary, and a list of actions in order. -/
inductive Output where
  | dict (conf : OutputDict)
  | ordered (actions : List OutputAction)
deriving DecidableEq, Repr

/-- The `ct` action; `clear` is whether it is set and true. -/
structure Ct where
  clear : Bool
  flags : Option ℕ
  alg : Option ℕ
  table : Option ℕ
  zone : Option ℕ
  zoneSrc : Option ℕ
  /-- With the defaults of its arguments. -/
  nat : Option CtNat
  mark : Option ℕ
  label : Option ℕ
deriving DecidableEq, Repr

/-- The actions of a rule. -/
structure Actions where
  allow : Option ℤ
  forcePortVlan : Option ℤ
  meter : Option String
  mirror : Option PortNo
  output : Option Output
  ct : Option Ct
deriving DecidableEq, Repr

/-- A rule; the fields that it matches stand in the order of the dict. -/
structure RuleConf where
  cookie : Option ℕ
  description : Option String
  actions : Option Actions
  matchFields : List (MatchKey × FieldValue)
  keys : (matchFields.map Prod.fst).Nodup
deriving DecidableEq

/-- A rule may have no fields. -/
theorem RuleConf.keys_nil : (([] : List (MatchKey × FieldValue)).map Prod.fst).Nodup := .nil

/-! ## Output actions -/

/-- What `build_output_actions` returns; the ports are `none` for the port `None`. -/
@[ext] structure OutputResult where
  ports : Option (List PortNo)
  actions : List Act
  ofmsgs : List Ofmsg
  inst : List Inst
deriving DecidableEq

/-- `ETH_TYPE_8021Q`. -/
def ethType8021Q : ℕ := 0x8100

/-- `set_vlan_vid` -/
def setVlanVid (vid : ℕ) : Act := .setField ⟨vlanVid, vidPresent vid⟩

/-- `push_vlan` with `push_vlan_act`. -/
def pushVlan (vlan : PushedVlan) : List Act :=
  [.pushVlan (vlan.ethType.getD ethType8021Q), setVlanVid vlan.vid]

/-- `OFPGT_FF`. -/
def ofpgtFf : ℕ := 3
/-- `OFPG_ANY`. -/
def ofpgAny : ℕ := 0xffffffff

/-- A bucket for each port, which watches it. -/
def Failover.buckets (failover : Failover) : List Bucket :=
  failover.ports.map fun port => ⟨0, port, ofpgAny, [.output port]⟩

/-- `groupadd_ff`. -/
def Failover.groupadd (failover : Failover) : List Ofmsg :=
  [.groupMod (.delete failover.groupId),
    .groupMod (.add failover.groupId ⟨ofpgtFf, failover.buckets⟩)]

/-- What an action of the ordered form adds; `tunnel` is what a tunnel does, which is
nothing without the rules of the tunnels or without a source. -/
def OutputAction.build (tunnel : ℕ → Option OutputResult) : OutputAction → Option OutputResult
  | .popVlans count => some ⟨some [], List.replicate count .popVlan, [], []⟩
  | .vlanVid vlan => some ⟨some [], pushVlan vlan, [], []⟩
  | .swapVid vid => some ⟨some [], [setVlanVid vid], [], []⟩
  | .vlanVids vlans => some ⟨some [], vlans.flatMap pushVlan, [], []⟩
  | .setFields fields => some ⟨some [], fields.map .setField, [], []⟩
  | .port number => some ⟨some [number], [.output number], [], []⟩
  | .ports numbers => some ⟨some numbers, numbers.map .output, [], []⟩
  | .failover conf => some ⟨some [], [.group conf.groupId], conf.groupadd, []⟩
  | .tunnel id => (tunnel id).map fun result => { result with ports := some [] }
  | .goto tableId => some ⟨some [], [], [], [.gotoTable tableId]⟩

namespace OutputResult

/-- Nothing; the list of ports is a list, also when it is empty. -/
def nothing : OutputResult := ⟨some [], [], [], []⟩

/-- The results of an action and of those after it. -/
def append (first second : OutputResult) : OutputResult where
  ports := some (first.ports.getD [] ++ second.ports.getD [])
  actions := first.actions ++ second.actions
  ofmsgs := first.ofmsgs ++ second.ofmsgs
  inst := first.inst ++ second.inst

end OutputResult

/-- `build_ordered_output_actions`; `none` when a tunnel has no rules. -/
def buildOrderedOutputActions (tunnel : ℕ → Option OutputResult) :
    List OutputAction → Option OutputResult
  | [] => some .nothing
  | action :: rest => do
      let first ← action.build tunnel
      let later ← buildOrderedOutputActions tunnel rest
      some (first.append later)

/-- The first of the ways to write a VLAN stands. -/
def rewriteVlan (conf : OutputDict) : List Act :=
  List.replicate (conf.popVlans.getD 0) .popVlan ++
    match conf.vlanVid, conf.swapVid, conf.vlanVids with
    | some vlan, _, _ => pushVlan vlan
    | none, some vid, _ => [setVlanVid vid]
    | none, none, some vlans => vlans.flatMap pushVlan
    | none, none, none => []

/-- The port that is output to last. -/
def OutputDict.outputPort (conf : OutputDict) : Option PortNo :=
  (conf.ports.bind List.getLast?).or conf.port

/-- What the tunnel of a dict does. -/
def OutputDict.viaTunnel (tunnel : ℕ → Option OutputResult) (conf : OutputDict) :
    Option OutputResult :=
  match conf.tunnel with
  | none => some .nothing
  | some id => tunnel id

/-- `build_output_actions` for a dict. The messages of the tunnel are added to
themselves, and so they are lost. -/
def buildDictOutputActions (tunnel : ℕ → Option OutputResult) (conf : OutputDict) :
    Option OutputResult :=
  (conf.viaTunnel tunnel).map fun viaTunnel =>
    { ports := conf.outputPort.map fun port => [port]
      actions := rewriteVlan conf ++ (conf.setFields.getD []).map .setField ++
        conf.port.toList.map .output ++ (conf.ports.getD []).map .output ++
        conf.failover.toList.map (fun failover => .group failover.groupId) ++ viaTunnel.actions
      ofmsgs := conf.failover.toList.flatMap Failover.groupadd
      inst := viaTunnel.inst ++ conf.goto.toList.map .gotoTable }

/-- `build_output_actions`, given what a tunnel does. -/
def buildOutputActions (tunnel : ℕ → Option OutputResult) : Output → Option OutputResult
  | .dict conf => buildDictOutputActions tunnel conf
  | .ordered actions => buildOrderedOutputActions tunnel actions

/-- A tunnel when there are no rules of the tunnels, or there is no source. -/
def noTunnel : ℕ → Option OutputResult := fun _ => some .nothing

/-- The rules of the tunnels for a source; without them tunnels do nothing, and
`none` within is a `KeyError`. -/
abbrev TunnelRules := Option (ℕ → Option Output)

/-- What a tunnel does: its rule is built without other tunnels. -/
def tunnelActions (tunnelRules : TunnelRules) (id : ℕ) : Option OutputResult :=
  match tunnelRules with
  | none => noTunnel id
  | some sourceRule => (sourceRule id).bind (buildOutputActions noTunnel)

/-! ## Rules -/

/-- `build_ct_actions` -/
def buildCtActions (ct : Ct) : Act :=
  if ct.clear then .ctClear
  else
    let nat := ct.nat.toList.map .nat
    let mark := ct.mark.toList.map fun value => .setField ⟨ctMark, value⟩
    let label := ct.label.toList.map fun value => .setField ⟨ctLabel, value⟩
    .ct (ct.flags.getD 0) (nat ++ mark ++ label) (ct.alg.getD 0) ct.table ct.zone ct.zoneSrc

/-- The meter ids by their names. -/
abbrev Meters := String → Option ℕ

/-- What is the same for the rules of an ACL at the place where it is applied; a packet
that is allowed goes on in one of the tables. -/
structure Context where
  meters : Meters
  allowTable : ℕ
  forcePortVlanTable : ℕ
  portNum : Option PortNo
  vid : Option ℕ
  tunnelRules : TunnelRules

namespace Actions

variable (actions : Actions)

/-- The packet is allowed; with a mirror that is the default. -/
def allowed : Bool :=
  match actions.allow with
  | some allow => allow == 1
  | none => actions.mirror.isSome

/-- The `goto_table` of a rule that allows. -/
def allowInst (context : Context) : List Inst :=
  [.gotoTable
    (if actions.forcePortVlan == some 1 then context.forcePortVlanTable else context.allowTable)]

/-- `apply_meter`. -/
def meterInst (context : Context) : Option (List Inst) :=
  match actions.meter with
  | none => some []
  | some name => (context.meters name).map fun meterId => [.meter meterId]

/-- What `output` makes of the rule. -/
def outputResult (context : Context) : Option OutputResult :=
  match actions.output with
  | none => some ⟨none, [], [], []⟩
  | some conf => buildOutputActions (tunnelActions context.tunnelRules) conf

/-- What a rule does, before its actions become an instruction; with an output port the
packet is output now, unless it is allowed. -/
def build (context : Context) : Option (List Inst × List Act × List Ofmsg) := do
  let meter ← actions.meterInst context
  let mirror := actions.mirror.toList.map .output
  let output ← actions.outputResult context
  if !actions.allowed && output.ports.isSome then
    some (meter ++ output.inst, mirror ++ output.actions, output.ofmsgs)
  else
    some (meter ++ output.inst ++ (if actions.allowed then actions.allowInst context else []),
      mirror ++ output.actions ++ actions.ct.toList.map buildCtActions, output.ofmsgs)

end Actions

/-- A dict with the value of a key, which keeps its place. -/
def setKey (key : MatchKey) (value : FieldValue) :
    List (MatchKey × FieldValue) → List (MatchKey × FieldValue)
  | [] => [(key, value)]
  | entry :: rest => if entry.1 = key then (key, value) :: rest else entry :: setKey key value rest

/-- An entry of the match as it is sent. -/
def oxmField (entry : MatchKey × FieldValue) : OxmField :=
  ⟨entry.1.number, entry.2.value, entry.2.mask⟩

/-- `match_from_dict`. -/
def matchFromDict (fields : List (MatchKey × FieldValue)) : Match :=
  Match.ofFields (fields.map oxmField)

/-- A port is written over the one of the rule. -/
def portDict (portNum : Option PortNo) (fields : List (MatchKey × FieldValue)) :
    List (MatchKey × FieldValue) :=
  match portNum with
  | none => fields
  | some port => setKey (.field inPort) ⟨port, none⟩ fields

/-- A VLAN is written over the one of the rule. -/
def vlanDict (vid : Option ℕ) (fields : List (MatchKey × FieldValue)) :
    List (MatchKey × FieldValue) :=
  match vid with
  | none => fields
  | some vid => setKey (.field vlanVid) ⟨vidPresent vid, none⟩ fields

/-- The fields of a rule, with the port and the VLAN that it is applied to. -/
def RuleConf.matchDict (rule : RuleConf) (context : Context) : List (MatchKey × FieldValue) :=
  vlanDict context.vid (portDict context.portNum rule.matchFields)

/-- What `build_acl_entry` returns. -/
structure AclEntry where
  matchFields : Match
  inst : List Inst
  cookie : Option ℕ
  ofmsgs : List Ofmsg
deriving DecidableEq

/-- What the actions of a rule are. -/
def RuleConf.build (rule : RuleConf) (context : Context) :
    Option (List Inst × List Act × List Ofmsg) :=
  match rule.actions with
  | none => some ([], [], [])
  | some actions => actions.build context

/-- `build_acl_entry`; `none` is a `KeyError`, for a meter or the rule of a tunnel. -/
def buildAclEntry (rule : RuleConf) (context : Context) : Option AclEntry :=
  (rule.build context).map fun (inst, acts, ofmsgs) =>
    { matchFields := matchFromDict (rule.matchDict context)
      inst := inst ++ if acts.isEmpty then [] else [.applyActions acts]
      cookie := rule.cookie
      ofmsgs }

end Faucet.Acl
