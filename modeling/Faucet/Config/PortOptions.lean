import Faucet.Library.OrderedDict
import Faucet.Packet.PacketIn

/-!
# The options of a port

`Port` is made of a dictionary of options: they are checked against their types, the missing
ones get their defaults, and `check_config` checks them against each other. It also
writes into the values of two options, `lldp_beacon` and `coprocessor`, which are dictionaries that
belong to the configuration. These have fields of their own here, so that what is
written to them can be told apart from what the port sets on itself.
-/

set_option autoImplicit false

namespace Faucet.Config.Interfaces

open OrderedDict
open Packet (ignorePort)

/-! ## Values -/

/-- A value of the configuration; `other` is a scalar of another type, by its text. The keys of a
dictionary are given by their texts. -/
inductive Value where
  | null
  | bool (value : Bool)
  | int (value : ℤ)
  | str (text : String)
  | bytes (data : List UInt8)
  | bytearray (data : List UInt8)
  | list (values : List Value)
  | dict (entries : List (String × Value))
  | other (text : String) (holds : Bool)

/-- A dictionary with string keys. -/
abbrev Dict := List (String × Value)

namespace Value

/-- `bool(value)` -/
def truthy : Value → Bool
  | null => false
  | bool value => value
  | int value => value ≠ 0
  | str text => text ≠ ""
  | bytes data | bytearray data => !data.isEmpty
  | list values => !values.isEmpty
  | dict entries => !entries.isEmpty
  | other _ holds => holds

/-- `str` of a key. -/
def text : Value → String
  | null => "None"
  | bool value => if value then "True" else "False"
  | int value => toString value
  | str text => text
  | other text _ => text
  | _ => ""

/-- An `int`, which a `bool` is too. -/
def asInt : Value → Option ℤ
  | int value => some value
  | bool value => some (if value then 1 else 0)
  | _ => none

/-- The entries of a value that is a dictionary. -/
def entries : Value → Dict
  | dict entries => entries
  | _ => []

mutual

/-- `==` -/
def eq : Value → Value → Bool
  | null, null => true
  | bool value, bool value' => value == value'
  | bool value, int value' => value' == if value then 1 else 0
  | int value, bool value' => value == if value' then 1 else 0
  | int value, int value' => value == value'
  | str text, str text' => text == text'
  | bytes data, bytes data' => data == data'
  | bytes data, bytearray data' => data == data'
  | bytearray data, bytes data' => data == data'
  | bytearray data, bytearray data' => data == data'
  | list values, list values' => eqValues values values'
  | dict entries, dict entries' => entries.length == entries'.length && eqEntries entries entries'
  | other text _, other text' _ => text == text'
  | _, _ => false

/-- Lists are equal element by element. -/
def eqValues : List Value → List Value → Bool
  | [], [] => true
  | value :: rest, value' :: rest' => value.eq value' && eqValues rest rest'
  | _, _ => false

/-- Each key of the first dictionary has an equal value in the second one. -/
def eqEntries : Dict → Dict → Bool
  | [], _ => true
  | (key, value) :: rest, entries' =>
      (match entries'.lookup key with
        | some value' => value.eq value'
        | none => false) && eqEntries rest entries'

end

end Value

/-- The types that `_check_conf_types` knows. -/
inductive PyType where
  | int
  | str
  | bool
  | list
  | dict
  | bytearray
  deriving DecidableEq

/-- `isinstance` -/
def Value.isInstance : Value → PyType → Bool
  | bool _, .bool | bool _, .int | int _, .int | str _, .str | list _, .list | dict _, .dict
  | bytearray _, .bytearray => true
  | _, _ => false

/-! ## Errors -/

/-- An `InvalidConfigError`, with the format of its message, or another error. -/
inductive ConfigError where
  | invalid (message : String)
  | uncaught

/-- `test_config_condition` -/
def testConfigCondition (cond : Bool) (message : String) : Except ConfigError Unit :=
  if cond then .error (.invalid message) else .ok ()

/-- The loop of `_check_conf_types`. -/
def checkEntryTypes (confTypes : List (String × List PyType)) : Dict → Except ConfigError Unit
  | [] => .ok ()
  | (confKey, confValue) :: rest =>
      match confTypes.lookup confKey with
      | none => .error (.invalid "%s field unknown in %s (known types %s)")
      | some types =>
          match confValue with
          | .null => checkEntryTypes confTypes rest
          | value =>
              if types.any value.isInstance then checkEntryTypes confTypes rest
              else .error (.invalid "%s value %s must be %s not %s")

/-- `_check_conf_types` -/
def checkConfTypes (conf : Value) (confTypes : List (String × List PyType)) :
    Except ConfigError Unit :=
  match conf with
  | .dict entries => checkEntryTypes confTypes entries
  | _ => .error (.invalid "Conf object %s contents %s must be type %s not %s")

/-- `_set_unknown_conf` -/
def setUnknownConf (conf : Dict) (confTypes : List (String × List PyType)) : Dict :=
  confTypes.foldl (fun conf (confKey, confType) =>
    if (conf.lookup confKey).isSome then conf
    else conf ++ [(confKey, if confType = [.list] then .list [] else .null)]) conf

/-! ## Tables -/

/-- The defaults up to `lldp_beacon`. -/
def firstDefaults : Dict :=
  [("number", .null), ("name", .null), ("description", .null), ("enabled", .bool true),
    ("permanent_learn", .bool false), ("unicast_flood", .bool true), ("mirror", .null),
    ("native_vlan", .null), ("tagged_vlans", .null), ("acl_in", .null), ("acls_in", .null),
    ("stack", .null), ("max_hosts", .int 255), ("hairpin", .bool false),
    ("hairpin_unicast", .bool false), ("lacp", .int 0), ("lacp_active", .bool false),
    ("lacp_collect_and_distribute", .bool false), ("lacp_unselected", .bool false),
    ("lacp_selected", .bool false), ("lacp_standby", .bool false), ("lacp_passthrough", .null),
    ("lacp_resp_interval", .int 1), ("lacp_port_priority", .int 255), ("lacp_port_id", .int (-1)),
    ("loop_protect", .bool false), ("loop_protect_external", .bool false),
    ("output_only", .bool false)]

/-- The defaults after `lldp_beacon`. -/
def lastDefaults : Dict :=
  [("opstatus_reconf", .bool true), ("receive_lldp", .bool false), ("lldp_peer_mac", .null),
    ("max_lldp_lost", .int 3), ("dot1x", .bool false), ("dot1x_acl", .bool false),
    ("dot1x_mab", .bool false), ("dot1x_dyn_acl", .bool false),
    ("restricted_bcast_arpnd", .bool false), ("coprocessor", .dict []),
    ("count_untag_vlan_miss", .bool false)]

/-- `Port.defaults`, in which `lldp_beacon` is a dictionary that can be written to. -/
def defaults (lldpBeacon : Dict) : Dict :=
  firstDefaults ++ ("lldp_beacon", .dict lldpBeacon) :: lastDefaults

/-- `Port.defaults_types` -/
def defaultsTypes : List (String × List PyType) :=
  [("number", [.int]), ("name", [.str]), ("description", [.str]), ("enabled", [.bool]),
    ("permanent_learn", [.bool]), ("unicast_flood", [.bool]), ("mirror", [.list, .str, .int]),
    ("native_vlan", [.str, .int]), ("tagged_vlans", [.list]), ("acl_in", [.str, .int]),
    ("acls_in", [.list]), ("stack", [.dict]), ("max_hosts", [.int]), ("hairpin", [.bool]),
    ("hairpin_unicast", [.bool]), ("lacp", [.int]), ("lacp_active", [.bool]),
    ("lacp_collect_and_distribute", [.bool]), ("lacp_unselected", [.bool]),
    ("lacp_selected", [.bool]), ("lacp_standby", [.bool]), ("lacp_passthrough", [.list]),
    ("lacp_resp_interval", [.int]), ("lacp_port_priority", [.int]), ("lacp_port_id", [.int]),
    ("loop_protect", [.bool]), ("loop_protect_external", [.bool]), ("output_only", [.bool]),
    ("lldp_beacon", [.dict]), ("opstatus_reconf", [.bool]), ("receive_lldp", [.bool]),
    ("lldp_peer_mac", [.str]), ("dot1x", [.bool]), ("dot1x_acl", [.bool]), ("dot1x_mab", [.bool]),
    ("dot1x_dyn_acl", [.bool]), ("max_lldp_lost", [.int]), ("restricted_bcast_arpnd", [.bool]),
    ("coprocessor", [.dict]), ("count_untag_vlan_miss", [.bool])]

/-- `Port.stack_defaults_types` -/
def stackDefaultsTypes : List (String × List PyType) := [("dp", [.str]), ("port", [.str, .int])]

/-- `Port.lldp_beacon_defaults_types` -/
def lldpBeaconDefaultsTypes : List (String × List PyType) :=
  [("enable", [.bool]), ("org_tlvs", [.list]), ("system_name", [.str]), ("port_descr", [.str])]

/-- `Port.lldp_org_tlv_defaults_types` -/
def lldpOrgTlvDefaultsTypes : List (String × List PyType) :=
  [("oui", [.int, .bytearray]), ("subtype", [.int, .bytearray]), ("info", [.str, .bytearray])]

/-- `Port.coprocessor_defaults_types` -/
def coprocessorDefaultsTypes : List (String × List PyType) :=
  [("strategy", [.str]), ("vlan_vid_base", [.int])]

/-- The options that a port without VLANs may have as well. -/
def vlanAgnosticOptions : List String :=
  ["enabled", "number", "name", "description", "max_lldp_lost"]

/-! ## LLDP beacons -/

/-- The value of a hexadecimal digit. -/
def hexDigit (digit : Char) : Option ℕ :=
  if '0' ≤ digit ∧ digit ≤ '9' then some (digit.toNat - '0'.toNat)
  else if 'a' ≤ digit ∧ digit ≤ 'f' then some (digit.toNat - 'a'.toNat + 10)
  else if 'A' ≤ digit ∧ digit ≤ 'F' then some (digit.toNat - 'A'.toNat + 10)
  else none

/-- `bytearray.fromhex`; `none` is a `ValueError`. Blanks may stand between the bytes. -/
def fromhex : List Char → Option (List UInt8)
  | [] => some []
  | [digit] => if digit.toNat ∈ [9, 10, 11, 12, 13, 32] then some [] else none
  | high :: low :: rest =>
      if high.toNat ∈ [9, 10, 11, 12, 13, 32] then fromhex (low :: rest)
      else match hexDigit high, hexDigit low with
        | some high, some low => (fromhex rest).map (UInt8.ofNat (16 * high + low) :: ·)
        | _, _ => none

/-- `"%6.6x" % value` -/
def hexText (value : ℤ) : List Char :=
  let digits := Nat.toDigits 16 value.natAbs
  (if value < 0 then ['-'] else []) ++ List.replicate (6 - digits.length) '0' ++ digits

/-- `org_tlv["info"]`: text that is not hexadecimal becomes `bytes`, not a `bytearray`. -/
def infoBytes : Value → Except ConfigError Value
  | .str text =>
      match fromhex text.toList with
      | some data => .ok (.bytearray data)
      | none => .ok (.bytes text.toUTF8.toList)
  | _ => .error .uncaught

/-- `org_tlv["oui"]` -/
def ouiBytes (oui : Value) : Except ConfigError Value :=
  match oui.asInt.bind fun value => fromhex (hexText value) with
  | some data => .ok (.bytearray data)
  | none => .error .uncaught

/-- Write what is not a `bytearray` yet. -/
def convert (key : String) (toBytes : Value → Except ConfigError Value) (orgTlv : Dict) :
    Except ConfigError Dict :=
  match orgTlv.lookup key with
  | some (.bytearray _) => .ok orgTlv
  | value => (toBytes (value.getD .null)).map fun data => set orgTlv key data

/-- The loop over `org_tlvs`, for one of them. -/
def checkOrgTlv (orgTlv : Value) : Except ConfigError Value := do
  checkConfTypes orgTlv lldpOrgTlvDefaultsTypes
  testConfigCondition (orgTlv.entries.length ≠ lldpOrgTlvDefaultsTypes.length)
    "missing org_tlv config"
  let orgTlv ← convert "info" infoBytes orgTlv.entries
  (convert "oui" ouiBytes orgTlv).map .dict

/-- A `TypeError` where `org_tlvs` is null. -/
def checkOrgTlvs (lldpBeacon : Dict) : Except ConfigError (List Value) :=
  match lldpBeacon.lookup "org_tlvs" with
  | some (.list orgTlvs) => orgTlvs.mapM checkOrgTlv
  | _ => .error .uncaught

/-- `lldp_beacon_enabled` -/
def lldpBeaconEnabled (lldpBeacon : Dict) : Bool :=
  ((lldpBeacon.lookup "enable").getD (.bool false)).truthy

/-- The description stands for a port description that is not set. -/
def setPortDescr (description : Value) (lldpBeacon : Dict) : Dict :=
  match (lldpBeacon.lookup "port_descr").getD .null with
  | .null => set lldpBeacon "port_descr" description
  | _ => lldpBeacon

/-- What `check_config` does with `lldp_beacon`. -/
def checkLldpBeacon (description : Value) (lldpBeacon : Dict) : Except ConfigError Dict :=
  if lldpBeacon.isEmpty then .ok lldpBeacon
  else do
    checkConfTypes (.dict lldpBeacon) lldpBeaconDefaultsTypes
    let lldpBeacon := setUnknownConf lldpBeacon lldpBeaconDefaultsTypes
    if lldpBeaconEnabled lldpBeacon then
      let lldpBeacon := setPortDescr description lldpBeacon
      (checkOrgTlvs lldpBeacon).map fun orgTlvs => set lldpBeacon "org_tlvs" (.list orgTlvs)
    else .ok lldpBeacon

/-! ## Ports -/

/-- The attributes of a port. -/
structure Port where
  option : String → Value
  lldpBeacon : Dict
  coprocessor : Dict

namespace Port

/-- `getattr` -/
def get (port : Port) (name : String) : Value :=
  if name = "lldp_beacon" then .dict port.lldpBeacon
  else if name = "coprocessor" then .dict port.coprocessor
  else port.option name

/-- An option is set. -/
def setOption (port : Port) (name : String) (value : Value) : Port :=
  { port with option := Function.update port.option name value }

/-- The check of the port number. -/
def checkNumber (port : Port) : Except ConfigError Unit :=
  testConfigCondition (!(port.option "number").asInt.any fun number =>
    0 < number && !ignorePort number.toNat) "Port number invalid: %s"

/-- The options that keep VLANs off a port. -/
def nonVlanPortOptions (port : Port) : List String :=
  ["stack", "mirror", "coprocessor", "output_only"].filter fun name => (port.get name).truthy

/-- VLANs are not for ports with such an option. -/
def checkVlanOptions (port : Port) : Except ConfigError Unit := do
  let vlanPort := (port.option "tagged_vlans").truthy || (port.option "native_vlan").truthy
  testConfigCondition (vlanPort && !port.nonVlanPortOptions.isEmpty)
    "cannot have VLANs configured on non-VLAN ports: %s"
  if (port.option "output_only").truthy then
    testConfigCondition (!port.nonVlanPortOptions.all (· ∈ ["mirror", "output_only"]))
      "output_only can only coexist with mirror option on same port %s"
  else if (port.option "mirror").truthy then
    testConfigCondition (!port.nonVlanPortOptions.all (· ∈ ["mirror", "coprocessor"]))
      "coprocessor can only coexist with mirror option on same port %s"
  else
    testConfigCondition (1 < port.nonVlanPortOptions.length)
      "cannot have multiple non-VLAN port options %s on same port: %s"

/-- An option that a non-VLAN port must not have. -/
def misplaced (port : Port) (default : String × Value) : Bool :=
  !(default.1 ∈ vlanAgnosticOptions ++ port.nonVlanPortOptions) &&
    !("acl".toList.isPrefixOf default.1.toList &&
      ((port.option "stack").truthy || (port.get "coprocessor").truthy)) &&
    !(port.get default.1).eq default.2 && (port.get default.1).truthy

/-- VLAN options are not for ports with such an option. -/
def checkNonVlanOptions (defaultBeacon : Dict) (port : Port) : Except ConfigError Unit :=
  testConfigCondition (!port.nonVlanPortOptions.isEmpty &&
    (defaults defaultBeacon).any port.misplaced)
    "Cannot have VLAN option %s: %s on non-VLAN port %s"

/-- The two kinds of hairpin exclude each other. -/
def checkHairpin (port : Port) : Except ConfigError Unit :=
  testConfigCondition ((port.option "hairpin").truthy && (port.option "hairpin_unicast").truthy)
    "Cannot have both hairpin and hairpin_unicast enabled"

/-- The features are looked up in the defaults, not in the port. -/
def dot1xFeatures : List String :=
  ((firstDefaults ++ lastDefaults).filter fun default =>
    "dot1x_".toList.isPrefixOf default.1.toList && default.2.truthy).map Prod.fst

/-- The checks of the 802.1x options. -/
def checkDot1x (port : Port) : Except ConfigError Unit := do
  testConfigCondition (!dot1xFeatures.isEmpty && !(port.option "dot1x").truthy)
    "802.1x features %s require port to have dot1x enabled"
  if (port.option "dot1x").truthy then
    testConfigCondition ((port.option "number").asInt.any (65535 < ·))
      "802.1x not supported on ports > 65535"
    testConfigCondition ((port.option "dot1x_mab").truthy && (port.option "dot1x_dyn_acl").truthy)
      "802.1x_MAB cannot be used with 802.1x_DYN_ACL"
    testConfigCondition ((port.option "dot1x_dyn_acl").truthy && (port.option "dot1x_acl").truthy)
      "802.1x_DYN_ACL cannot be used with 802.1x_ACL"

/-- The checks of `coprocessor`. -/
def checkCoprocessor (coprocessor : Dict) : Except ConfigError Dict :=
  if coprocessor.isEmpty then .ok coprocessor
  else do
    checkConfTypes (.dict coprocessor) coprocessorDefaultsTypes
    testConfigCondition (!((coprocessor.lookup "strategy").getD .null).eq (.str "vlan_vid"))
      "coprocessor only supports vlan_vid strategy"
    .ok (set coprocessor "vlan_vid_base" ((coprocessor.lookup "vlan_vid_base").getD (.int 1000)))

/-- The checks of `stack`. -/
def checkStack (port : Port) : Except ConfigError Unit :=
  if (port.option "stack").truthy then do
    checkConfTypes (port.option "stack") stackDefaultsTypes
    testConfigCondition (stackDefaultsTypes.any fun stackConfig =>
      ((port.option "stack").entries.lookup stackConfig.1).isNone) "stack %s must be defined"
  else .ok ()

/-- LLDP is always enabled for stack ports. -/
def enableBeacon (port : Port) : Dict :=
  if (port.option "stack").truthy && !lldpBeaconEnabled port.lldpBeacon then
    set port.lldpBeacon "enable" (.bool true)
  else port.lldpBeacon

/-- Intervals below `0.3` are those that are not positive. -/
def checkLacp (validMac : String → Bool) (port : Port) : Except ConfigError Unit := do
  testConfigCondition ((port.option "lacp_resp_interval").asInt.any fun interval =>
    65535 < interval || interval ≤ 0) "interval must be at least 0.3 and less than 65536"
  testConfigCondition ((port.option "lacp_port_priority").asInt.any fun priority =>
    255 < priority || priority < 0) "lacp port priority must be at least 0 and less than 256"
  testConfigCondition ((port.option "lldp_peer_mac").truthy &&
    !validMac (port.option "lldp_peer_mac").text) "invalid MAC address %s"

/-- `acls_in`, of which `acl_in` is a short form. -/
def aclsIn (port : Port) : Value :=
  if (port.option "acl_in").truthy then .list [port.option "acl_in"] else port.option "acls_in"

/-- The checks of `acl_in` and `acls_in`. -/
def checkAcls (port : Port) : Except ConfigError Unit := do
  testConfigCondition ((port.option "acl_in").truthy && (port.option "acls_in").truthy)
    "Found both acl_in and acls_in, use only acls_in"
  testConfigCondition (match port.aclsIn with
    | .list acls => acls.any fun acl => !(acl.isInstance .int || acl.isInstance .str)
    | _ => false) "ACL names must be int or str"
  testConfigCondition (1 < ["lacp_selected", "lacp_unselected", "lacp_standby"].countP fun name =>
    (port.option name).eq (.bool true)) "Cannot force multiple LACP port selection states"

/-- What `check_config` and the constructor after it set on the port itself. -/
def settle (port : Port) : Port :=
  let port := if (port.option "stack").truthy then port.setOption "receive_lldp" (.bool true) else port
  let port :=
    if (port.option "acl_in").truthy then
      (port.setOption "acls_in" (.list [port.option "acl_in"])).setOption "acl_in" .null
    else port
  if (port.option "mirror").truthy && !(port.option "mirror").isInstance .list then
    port.setOption "mirror" (.list [port.option "mirror"])
  else port

/-- `check_config`, and the end of the constructor. -/
def checkConfig (validMac : String → Bool) (defaultBeacon : Dict) (port : Port) :
    Except ConfigError Port := do
  port.checkNumber
  port.checkVlanOptions
  port.checkNonVlanOptions defaultBeacon
  port.checkHairpin
  port.checkDot1x
  let coprocessor ← checkCoprocessor port.coprocessor
  port.checkStack
  port.checkLacp validMac
  let lldpBeacon ← checkLldpBeacon (port.option "description") port.enableBeacon
  port.checkAcls
  .ok { port.settle with lldpBeacon := lldpBeacon, coprocessor := coprocessor }

/-! ## Making a port -/

/-- What the constructor sets before the configuration. -/
def initial (name : String) : Value :=
  if name = "stack" then .dict [] else if name = "tagged_vlans" then .list [] else .null

/-- An attribute after `Conf.set_defaults`. -/
def withDefault (conf : Dict) (name : String) : Value :=
  match (conf.lookup name).getD (initial name) with
  | .null => ((firstDefaults ++ lastDefaults).lookup name).getD .null
  | value => value

/-- The name, or else the key. -/
def nameOf (key : Value) (conf : Dict) : Value :=
  match withDefault conf "name" with
  | .null => .str key.text
  | value => value

/-- The port after `update` and `set_defaults`. Where `lldp_beacon` is null it is the dictionary of
the defaults. -/
def start (defaultBeacon : Dict) (key : Value) (conf : Dict) : Port where
  option name :=
    if name = "lldp_beacon" ∨ name = "coprocessor" then .null
    else match withDefault conf name with
    | .null =>
        if name = "number" then key
        else if name = "name" then nameOf key conf
        else if name = "description" then nameOf key conf
        else if name = "tagged_vlans" then .list []
        else .null
    | value => value
  lldpBeacon :=
    match conf.lookup "lldp_beacon" with
    | none => []
    | some (.dict lldpBeacon) => lldpBeacon
    | some _ => defaultBeacon
  coprocessor :=
    match conf.lookup "coprocessor" with
    | some (.dict coprocessor) => coprocessor
    | _ => []

/-- `Port(port_key, dp_id, port_conf)` -/
def make (validMac : String → Bool) (defaultBeacon : Dict) (key : Value) (conf : Dict) :
    Except ConfigError Port := do
  testConfigCondition (conf.any fun option => ((defaults []).lookup option.1).isNone)
    "%s fields unknown in %s"
  checkConfTypes (.dict conf) defaultsTypes
  (start defaultBeacon key conf).checkConfig validMac defaultBeacon

end Port

end Faucet.Config.Interfaces
