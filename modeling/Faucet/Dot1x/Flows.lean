import Faucet.OpenFlow.TableBatch

/-!
# The flows of 802.1x ports

What `FaucetDot1x` and the ACL manager emit when an 802.1x port goes up or down and
when a host logs in, logs off or fails to log in, as far as the port ACL table is
concerned. The session of a host is nothing but its flows in that table.

A rule of an ACL is taken with the match and the instructions that `build_acl_entry`
makes of it: they depend on neither the port nor the MAC address.
-/

set_option autoImplicit false

namespace Faucet.Dot1x

open OpenFlow

/-- A MAC address, as a number. -/
abbrev Mac := Nat

/-! ## Fields -/

/-- `in_port` -/
def inPort (port : PortNo) : OxmField := ⟨0, port, none⟩

/-- `eth_src` -/
def ethSrc (mac : Mac) : OxmField := ⟨4, mac, none⟩

/-- `eth_type` -/
def ethType (type : Nat) : OxmField := ⟨5, type, none⟩

/-- `nw_proto` -/
def nwProto (proto : Nat) : OxmField := ⟨10, proto, none⟩

/-- `udp_src` -/
def udpSrc (port : Nat) : OxmField := ⟨15, port, none⟩

/-- `udp_dst` -/
def udpDst (port : Nat) : OxmField := ⟨16, port, none⟩

/-- `ETH_EAPOL`. -/
def ethEapol : Nat := 0x888e
/-- `ETH_TYPE_IP`. -/
def ethTypeIp : Nat := 0x0800
/-- `IPPROTO_UDP`. -/
def ipprotoUdp : Nat := 17
/-- `EAPOL_ETH_DST`. -/
def eapolEthDst : Mac := 0x0180c2000003

/-- The action that sets a field; 3 is the destination and 4 the source MAC address. -/
def setField (field value : Nat) : Act := .other (value * 2 ^ 8 + field)

/-! ## Priorities -/

/-- `_HIGH_PRIORITY`, the priority of the first rule of an ACL. -/
def authPriority : Nat := 0x4000

/-- The priority of the flow for MAC authentication bypass. -/
def lowPriority : Nat := authPriority - 1
/-- One more than `_FILTER_PRIORITY`. -/
def overridePriority : Nat := 0x5001

/-! ## Configuration -/

/-- A rule of an ACL as it is built for the port ACL table. -/
structure AclRule where
  matchFields : Match
  instructions : List Instruction
  cookie : Option Nat
  /-- The groups that its failover outputs add. -/
  groups : List (EntryMod Group)
  /-- `build_acl_entry` and the checks of the table return. -/
  builds : Bool
deriving DecidableEq

/-- An ACL with its rules in order. -/
structure Acl where
  rules : List AclRule
  exactMatch : Bool
  /-- `check_config`. -/
  someRule : rules ≠ []
deriving DecidableEq

/-- A port with 802.1x. -/
structure Port where
  number : PortNo
  dot1xAcl : Bool
  dot1xMab : Bool
  dot1xDynAcl : Bool
  lacp : Bool
  outputOnly : Bool
  enabled : Bool
  /-- `check_config`. -/
  dynAlone : dot1xDynAcl = true → dot1xAcl = false ∧ dot1xMab = false
deriving DecidableEq

/-- The port ACL table. -/
structure AclTable where
  tableId : Fin 255
  flowCookie : Nat
deriving DecidableEq

/-- What the 802.1x manager reads of a datapath. -/
structure Dp where
  valveIndex : Nat
  portAclTable : AclTable
  /-- `accept_to_vlan` of the pipeline. -/
  acceptToVlan : List Instruction
  acls : List (String × Acl)
  authAclName : Option String
  noauthAclName : Option String
  nfvSwPort : PortNo
  ports : List Port
  useBarriers : Bool
  /-- `match_from_dict` takes the fields of this match back. -/
  encodes : Match → Bool
  /-- The keys of a dict differ. -/
  distinct : (ports.map Port.number).Nodup
  /-- The NFV port is output only, and such a port has no 802.1x. -/
  nfvApart : ∀ port ∈ ports, port.number ≠ nfvSwPort

namespace AclTable

variable (table : AclTable)

/-- `ValveTable.flowmod` for this table. -/
def flowmod (fields : Match) (priority : Nat) (instructions : List Instruction)
    (cookie : Option Nat) : FlowMod where
  command := .add
  tableId := table.tableId
  priority := priority
  cookie := cookie.getD table.flowCookie
  outPort := some 0
  matchFields := fields
  instructions := instructions
  hardTimeout := 0
  idleTimeout := 0
  flags := 0

/-- `ValveTable.flowdel` for this table. -/
def flowdel (fields : Match) (priority : Nat) (strict : Bool) : FlowMod where
  command := if strict then .deleteStrict else .delete
  tableId := table.tableId
  priority := priority
  cookie := table.flowCookie
  outPort := none
  matchFields := fields
  instructions := []
  hardTimeout := 0
  idleTimeout := 0
  flags := 0

/-! ## ACLs -/

/-- `none` also where the priority is negative, which the message cannot hold. -/
def buildRuleOfmsgs (rule : AclRule) (highestPriority index : Nat) (exactMatch : Bool)
    (portNum : PortNo) : Option (List Ofmsg) :=
  let priority := if exactMatch then highestPriority else highestPriority - index
  if rule.builds && (exactMatch || index ≤ highestPriority) then
    some (rule.groups.map .groupMod ++
      [.flowMod (table.flowmod (rule.matchFields.set (inPort portNum)) priority
        rule.instructions rule.cookie)])
  else none

/-- The messages for the rules, from this index on. -/
def buildRulesOfmsgs (highestPriority : Nat) (exactMatch : Bool) (portNum : PortNo) :
    List AclRule → Nat → Option (List Ofmsg)
  | [], _ => some []
  | rule :: rest, index => do
      let first ← table.buildRuleOfmsgs rule highestPriority index exactMatch portNum
      let others ← buildRulesOfmsgs highestPriority exactMatch portNum rest (index + 1)
      some (first ++ others)

/-- `build_acl_port_of_msgs` -/
def buildAclPortOfMsgs (acl : Acl) (portNum : PortNo) (priority : Nat) : Option (List Ofmsg) :=
  table.buildRulesOfmsgs priority acl.exactMatch portNum acl.rules 0

end AclTable

namespace Dp

variable (dp : Dp)

/-- `add_mac_address_to_match`; `none` when the match cannot be encoded. -/
def addMacAddressToMatch (fields : Match) : Option Mac → Option Match
  | none => some fields
  | some mac => if dp.encodes fields then some (fields.set (ethSrc mac)) else none

/-- A message with the MAC address in its match; the message of a group has no match. -/
def withMac (mac : Option Mac) : Ofmsg → Option FlowMod
  | .flowMod mod => (dp.addMacAddressToMatch mod.matchFields mac).map fun fields =>
      { mod with matchFields := fields }
  | _ => none

/-! ## The ACL manager -/

/-- `add_port_acl` -/
def addPortAcl (acl : Acl) (portNum : PortNo) (mac : Option Mac) : Option (List FlowMod) :=
  (dp.portAclTable.buildAclPortOfMsgs acl portNum authPriority).bind
    fun flowmods => flowmods.mapM (dp.withMac mac)

/-- `del_port_acl` -/
def delPortAcl (acl : Acl) (portNum : PortNo) (mac : Option Mac) : Option (List FlowMod) :=
  (dp.addPortAcl acl portNum mac).map fun flowmods =>
    flowmods.map fun flow => dp.portAclTable.flowdel flow.matchFields flow.priority false

/-- The match of the flow of a host without an ACL. -/
def authedMacMatch (portNum : PortNo) (mac : Mac) : Match :=
  .ofFields [inPort portNum, ethSrc mac]

/-- `add_authed_mac` -/
def addAuthedMac (portNum : PortNo) (mac : Mac) : List FlowMod :=
  [dp.portAclTable.flowmod (authedMacMatch portNum mac) authPriority dp.acceptToVlan none]

/-- `del_authed_mac` -/
def delAuthedMac (portNum : PortNo) (mac : Mac) (strict : Bool) : List FlowMod :=
  [dp.portAclTable.flowdel (authedMacMatch portNum mac) authPriority strict]

/-- `del_port` of the ACL manager. -/
def delPort (port : Port) : List FlowMod :=
  if port.outputOnly then []
  else [dp.portAclTable.flowdel (.ofFields [inPort port.number]) 0 false]

/-- The MAC address `00:00:00:` of the index and the port number. -/
def getMacStr (portNum : PortNo) : Mac := dp.valveIndex * 2 ^ 16 + portNum

/-- EAPOL frames of the port. -/
def eapolMatch (portNum : PortNo) : Match := .ofFields [inPort portNum, ethType ethEapol]

/-- EAPOL frames that come back from the NFV port. -/
def nfvEapolMatch (mac : Mac) : Match :=
  .ofFields [inPort dp.nfvSwPort, ethType ethEapol, ethSrc mac]

/-- `create_dot1x_flow_pair` -/
def createDot1xFlowPair (portNum : PortNo) : List FlowMod :=
  let mac := dp.getMacStr portNum
  [dp.portAclTable.flowmod (eapolMatch portNum) overridePriority
      [.applyActions [setField 3 mac, .output dp.nfvSwPort]] none,
    dp.portAclTable.flowmod (dp.nfvEapolMatch mac) overridePriority
      [.applyActions [setField 4 eapolEthDst, .output portNum]] none]

/-- `del_dot1x_flow_pair` -/
def delDot1xFlowPair (portNum : PortNo) : List FlowMod :=
  [dp.portAclTable.flowdel (dp.nfvEapolMatch (dp.getMacStr portNum)) overridePriority false,
    dp.portAclTable.flowdel (eapolMatch portNum) overridePriority false]

/-- DHCP requests of the port. -/
def mabMatch (portNum : PortNo) : Match :=
  .ofFields [inPort portNum, ethType ethTypeIp, nwProto ipprotoUdp, udpSrc 68, udpDst 67]

/-- `create_mab_flow` -/
def createMabFlow (portNum : PortNo) : FlowMod :=
  dp.portAclTable.flowmod (mabMatch portNum) lowPriority
    [.applyActions [setField 3 (dp.getMacStr portNum), .output dp.nfvSwPort]] none

/-- `del_mab_flow` -/
def delMabFlow (portNum : PortNo) : List FlowMod :=
  [dp.portAclTable.flowdel (mabMatch portNum) lowPriority true]

/-! ## 802.1x -/

/-- `_get_acls`. -/
def getAcl (name : Option String) : Option Acl := name.bind fun name => dp.acls.lookup name

/-- `_add_authenticated_flowmod` -/
def addAuthenticatedFlowmod (port : Port) (mac : Mac) (aclName : Option String) :
    Option (List FlowMod) :=
  match port.dot1xDynAcl, dp.getAcl aclName with
  | true, some acl => dp.addPortAcl acl port.number (some mac)
  | _, _ =>
      if port.dot1xAcl then
        (dp.getAcl dp.authAclName).bind fun acl => dp.addPortAcl acl port.number (some mac)
      else some (dp.addAuthedMac port.number mac)

/-- `_del_authenticated_flowmod` -/
def delAuthenticatedFlowmod (port : Port) (mac : Mac) : Option (List FlowMod) :=
  if port.dot1xAcl then
    (dp.getAcl dp.authAclName).bind fun acl => dp.delPortAcl acl port.number (some mac)
  else some (dp.delAuthedMac port.number mac (!port.dot1xDynAcl))

/-- `_add_unauthenticated_flowmod` -/
def addUnauthenticatedFlowmod (port : Port) : Option (List FlowMod) :=
  if port.dot1xAcl then
    (dp.getAcl dp.noauthAclName).bind fun acl => dp.addPortAcl acl port.number none
  else some []

/-- `_del_unauthenticated_flowmod` -/
def delUnauthenticatedFlowmod (port : Port) : Option (List FlowMod) :=
  if port.dot1xAcl then
    (dp.getAcl dp.noauthAclName).bind fun acl => dp.delPortAcl acl port.number none
  else some []

/-- `_get_login_flowmod` -/
def getLoginFlowmod (port : Port) (mac : Mac) (aclName : Option String) :
    Option (List FlowMod) := do
  let unauthenticated ← dp.delUnauthenticatedFlowmod port
  let authenticated ← dp.addAuthenticatedFlowmod port mac aclName
  some (unauthenticated ++ authenticated)

/-- `_get_logoff_flowmod` -/
def getLogoffFlowmod (port : Port) (mac : Mac) : Option (List FlowMod) := do
  let authenticated ← dp.delAuthenticatedFlowmod port mac
  let unauthenticated ← dp.addUnauthenticatedFlowmod port
  some (authenticated ++ unauthenticated)

/-- The flows of a port that comes up, when it is enabled. -/
def portUp (port : Port) : Option (List FlowMod) :=
  if port.enabled then do
    let unauthenticated ← dp.addUnauthenticatedFlowmod port
    some (dp.createDot1xFlowPair port.number ++ unauthenticated ++
      if port.dot1xMab then [dp.createMabFlow port.number] else [])
  else some []

/-- `port_down`, after `del_port` of the ACL manager; for a port of a LACP bundle
`ports_delete` calls neither. -/
def portDown (port : Port) : Option (List FlowMod) :=
  if port.lacp then some []
  else do
    let authenticated ← dp.delAuthenticatedFlowmod port (dp.getMacStr port.number)
    let unauthenticated ← dp.delUnauthenticatedFlowmod port
    some (dp.delPort port ++ authenticated ++ unauthenticated ++ delMabFlow dp port.number ++
      dp.delDot1xFlowPair port.number)

/-- The flow pairs of the ports that run. -/
def nfvSwPortUp (up : PortNo → Bool) : List FlowMod :=
  (dp.ports.filter fun port => port.enabled && up port.number).flatMap fun port =>
    dp.createDot1xFlowPair port.number

end Dp

/-! ## Runs -/

/-- Something that happens at an 802.1x port, or the NFV port comes up. MAC
authentication bypass succeeds as a login and fails as a failure. -/
inductive Signal where
  | portUp (port : Port)
  | portDown (port : Port)
  | nfvSwPortUp
  | login (port : Port) (mac : Mac) (aclName : Option String)
  | logoff (port : Port) (mac : Mac)
  | failure (port : Port) (mac : Mac)
deriving DecidableEq

/-- The host that the signal is about. -/
def Signal.host : Signal → Option (Port × Mac)
  | login port mac _ | logoff port mac | failure port mac => some (port, mac)
  | _ => none

/-- The 802.1x port that the signal is about. -/
def Signal.port : Signal → Option Port
  | portUp port | portDown port | login port _ _ | logoff port _ | failure port _ => some port
  | nfvSwPortUp => none

/-- A message that is not about the flows of this table. -/
def Elsewhere (table : AclTable) (ofmsg : Ofmsg) : Prop :=
  ∀ mod, ofmsg = .flowMod mod → mod.tableId ≠ table.tableId ∧ mod.tableId ≠ ofpttAll

/-- A signal, with the messages that other managers emit for it. -/
structure Event (dp : Dp) where
  signal : Signal
  elsewhere : List {ofmsg : Ofmsg // Elsewhere dp.portAclTable ofmsg}
  shuffle : Shuffle

/-- The switch, the ports that are up, and the login flows of the hosts. -/
structure State where
  switch : Switch
  /-- `dyn_phys_up` of the ports. -/
  up : PortNo → Bool
  /-- The flows that the logins of a MAC address on a port have installed since it was
  last logged off or the port was last down. -/
  session : PortNo → Mac → FlowId → Option FlowEntry

namespace Dp

variable (dp : Dp)

/-- The messages for the port ACL table; `none` when a handler raises. -/
def messages (state : State) : Signal → Option (List FlowMod)
  | .portUp port => if state.up port.number then some [] else dp.portUp port
  | .portDown port => if state.up port.number then dp.portDown port else some []
  | .nfvSwPortUp => some (dp.nfvSwPortUp state.up)
  | .login port mac aclName => dp.getLoginFlowmod port mac aclName
  | .logoff port mac | .failure port mac => dp.getLogoffFlowmod port mac

/-- The ports that are up after a signal. -/
def upAfter (up : PortNo → Bool) : Signal → PortNo → Bool
  | .portUp port => Function.update up port.number true
  | .portDown port => Function.update up port.number false
  | _ => up

/-- The sessions after a signal whose messages have been handled. -/
def sessionAfter (state : State) (mods : List FlowMod) (switch : Switch) :
    Signal → PortNo → Mac → FlowId → Option FlowEntry
  | .portDown port, portNum, mac =>
      if portNum = port.number ∧ state.up portNum then fun _ => none
      else state.session portNum mac
  | .login port host _, portNum, mac =>
      if portNum = port.number ∧ mac = host then fun id =>
        if mods.any fun mod => mod.command = .add ∧ mod.names id then switch.flows id
        else state.session portNum mac id
      else state.session portNum mac
  | .logoff port host, portNum, mac | .failure port host, portNum, mac =>
      if portNum = port.number ∧ mac = host then fun _ => none else state.session portNum mac
  | _, portNum, mac => state.session portNum mac

/-- An event; `none` when a handler raises, and when the port is not one of the 802.1x
ports. -/
def step (state : State) (event : Event dp) : Option State := do
  guard (∀ port, event.signal.port = some port → port ∈ dp.ports)
  let mods ← dp.messages state event.signal
  let switch ← state.switch.send event.shuffle dp.useBarriers
    (mods.map .flowMod ++ event.elsewhere.map Subtype.val)
  some
    { switch
      up := upAfter state.up event.signal
      session := sessionAfter state mods switch event.signal }

end Dp

end Faucet.Dot1x
