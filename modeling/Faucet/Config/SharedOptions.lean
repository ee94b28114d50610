import Faucet.Config.Beacons
import Faucet.Config.PortRanges

/-!
# Ports with shared options

`_dp_add_ports` gives every port of a range the options of the range, and an individual interface
those that it lacks. They are the same objects: what `check_config` writes into the
`lldp_beacon` of one port is there for the ports that are parsed after it, and for those parsed
before. A null `lldp_beacon` is the one of the class.
-/

set_option autoImplicit false

namespace Faucet.Config.Interfaces

open OrderedDict Fallible

/-! ## Objects -/

section Model

variable {α V : Type}

/-- What the objects hold that are the values of an option. -/
abbrev Objects (α : Type) := String → α → Value

/-- The objects, and the `lldp_beacon` of `Port.defaults`. -/
structure Store (α : Type) where
  objects : Objects α
  defaultBeacon : Dict

/-- A port to parse, with the objects that are its options. -/
structure Entry (α : Type) where
  key : Value
  conf : List (String × α)

/-- The configuration of the port as it is now. -/
def Entry.load (objects : Objects α) (entry : Entry α) : Dict :=
  entry.conf.map fun option => (option.1, objects option.1 option.2)

/-- The dictionaries that are written to. -/
def nestedOptions : List String := ["lldp_beacon", "coprocessor"]

/-- The dictionary under one of the two options. -/
def Port.nested (port : Port) (name : String) : Dict :=
  if name = "lldp_beacon" then port.lldpBeacon else port.coprocessor

/-- What the port has written to one of its dictionaries. -/
def Entry.write [DecidableEq α] (entry : Entry α) (port : Port) (store : Store α) (name : String) :
    Store α :=
  match entry.conf.lookup name with
  | none => store
  | some object =>
      match store.objects name object with
      | .dict _ =>
          { store with
            objects := fun name' object' =>
              if name' = name ∧ object' = object then .dict (port.nested name)
              else store.objects name' object' }
      | _ => if name = "lldp_beacon" then { store with defaultBeacon := port.lldpBeacon } else store

/-- The dictionaries of a port are written back. -/
def Entry.store [DecidableEq α] (entry : Entry α) (port : Port) (store : Store α) : Store α :=
  nestedOptions.foldl (entry.write port) store

/-- What one of the dictionaries of the port holds in the end. -/
def Entry.nestedIn (entry : Entry α) (store : Store α) (port : Port) (name : String) : Dict :=
  match entry.conf.lookup name with
  | none => port.nested name
  | some object =>
      match store.objects name object with
      | .dict entries => entries
      | _ => if name = "lldp_beacon" then store.defaultBeacon else port.nested name

/-- A port with the dictionaries that are stored for it. -/
def Entry.view (entry : Entry α) (store : Store α) (port : Port) : Port :=
  { port with
    lldpBeacon := entry.nestedIn store port "lldp_beacon"
    coprocessor := entry.nestedIn store port "coprocessor" }

/-! ## Parsing -/

/-- `netaddr.valid_mac`, and `_get_vlan_by_key` with the VLANs that there are. -/
structure Env (V : Type) where
  validMac : String → Bool
  getVlanByKey : Value → Except ConfigError V

/-- A port with its VLANs. -/
structure ParsedPort (V : Type) where
  port : Port
  nativeVlan : Option V
  taggedVlans : List V

/-- The VLAN of `native_vlan`, if it is set. -/
def nativeVlanOf (env : Env V) (port : Port) : Except ConfigError (Option V) :=
  match port.option "native_vlan" with
  | .null => .ok none
  | vlan => (env.getVlanByKey vlan).map some

/-- The VLANs of `tagged_vlans`. -/
def taggedVlansOf (env : Env V) (port : Port) : Except ConfigError (List V) :=
  match port.option "tagged_vlans" with
  | .list vlans => vlans.mapM env.getVlanByKey
  | _ => .ok []

/-- `_dp_parse_port` -/
def dpParsePort (env : Env V) (defaultBeacon : Dict) (portKey : Value) (portConf : Dict) :
    Except ConfigError (ParsedPort V) := do
  let port ← Port.make env.validMac defaultBeacon portKey portConf
  testConfigCondition (!(portKey.text ∈ [(port.option "number").text, (port.option "name").text]))
    "Port key %s match port name or port number"
  let nativeVlan ← nativeVlanOf env port
  let taggedVlans ← taggedVlansOf env port
  .ok ⟨port, nativeVlan, taggedVlans⟩

/-- The ports, parsed one after the other; their dictionaries are read when all have been
parsed. -/
def parsePorts [DecidableEq α] (env : Env V) : Store α → List (Entry α) →
    Except ConfigError (List (ParsedPort V) × Store α)
  | store, [] => .ok ([], store)
  | store, entry :: rest => do
      let parsed ← dpParsePort env store.defaultBeacon entry.key (entry.load store.objects)
      let (ports, last) ← parsePorts env (entry.store parsed.port store) rest
      .ok ({ parsed with port := entry.view last parsed.port } :: ports, last)

/-! ## Interfaces and ranges -/

/-- The options of an interface or of a range, when these are a dictionary. -/
inductive PortConf (α : Type) where
  | options (options : List (String × α))
  | other

/-- A datapath's `interfaces` and `interface_ranges`, whose keys are given by their texts, when
these are dictionaries; and what the options hold. -/
structure DpConf (α : Type) where
  interfaces : Option (List (Value × PortConf α))
  interfaceRanges : Option (List (String × PortConf α))
  objects : Objects α

/-- A hashable value, of which an `int` and a `bool` can be the same. -/
inductive Key where
  | null
  | int (value : ℤ)
  | text (text : String)
  | bytes (data : List UInt8)
  | other (text : String)
  deriving DecidableEq

/-- The value as a key, where it is one. -/
def Value.key : Value → Option Key
  | .null => some .null
  | .bool value => some (.int (if value then 1 else 0))
  | .int value => some (.int value)
  | .str text => some (.text text)
  | .bytes data => some (.bytes data)
  | .other text _ => some (.other text)
  | .bytearray _ | .list _ | .dict _ => none

/-- `_map_port_num_to_port` -/
def mapPortNumToPort (objects : Objects α) :
    List (Value × PortConf α) → List (Key × Entry α) → Except ConfigError (List (Key × Entry α))
  | [], ports => .ok ports
  | (portKey, .options conf) :: rest, ports =>
      match (((conf.lookup "number").map (objects "number")).getD portKey).key with
      | some portNum => mapPortNumToPort objects rest (set ports portNum ⟨portKey, conf⟩)
      | none => .error (.invalid "Invalid syntax in port config")
  | (_, .other) :: _, _ => .error (.invalid "Invalid syntax in port config")

/-- `setdefault` for each option of the range. -/
def setDefaults (conf options : List (String × α)) : List (String × α) :=
  options.foldl (fun conf option =>
    if (conf.lookup option.1).isSome then conf else conf ++ [option]) conf

/-- The ports of one range, in the order in which they are taken. -/
def addRange (options : List (String × α)) (ports : List (Key × Entry α)) (portNum : ℕ) :
    List (Key × Entry α) :=
  match ports.lookup (.int portNum) with
  | some entry => set ports (.int portNum) { entry with conf := setDefaults entry.conf options }
  | none => set ports (.int portNum) ⟨.int portNum, options⟩

/-- `_parse_port_ranges`; `order` is the order of the elements of a set. -/
def parsePortRanges (order : Finset ℕ → List ℕ) :
    List (String × PortConf α) → Finset ℕ → List (Key × Entry α) →
      Except ConfigError (List (Key × Entry α))
  | [], _, ports => .ok ports
  | (portRange, .options conf) :: rest, allPortNums, ports =>
      match Config.portNums portRange.toList with
      | .error message => .error (.invalid message)
      | .ok portNums =>
          if portNums ∩ allPortNums = ∅ then
            parsePortRanges order rest (allPortNums ∪ portNums)
              ((order portNums).foldl (addRange (del conf "number")) ports)
          else .error (.invalid "interfaces-ranges cannot overlap")
  | (_, .other) :: _, _, _ => .error (.invalid "Invalid syntax in port config")

/-- The ports to parse, with their options. -/
def DpConf.entries (order : Finset ℕ → List ℕ) (conf : DpConf α) :
    Except ConfigError (List (Entry α)) :=
  match conf.interfaces, conf.interfaceRanges with
  | none, _ => .error (.invalid "Invalid syntax in interface config")
  | _, none => .error (.invalid "Invalid syntax in interface ranges config")
  | some interfaces, some interfaceRanges =>
      (mapPortNumToPort conf.objects interfaces [] >>= fun ports =>
        parsePortRanges order interfaceRanges ∅ ports).map fun ports => ports.map Prod.snd

/-- `_dp_add_ports`, with the beacon of the class as it is then. -/
def dpAddPorts [DecidableEq α] (env : Env V) (order : Finset ℕ → List ℕ) (defaultBeacon : Dict)
    (conf : DpConf α) : Except ConfigError (List (ParsedPort V) × Dict) :=
  conf.entries order >>= fun entries =>
    (parsePorts env ⟨conf.objects, defaultBeacon⟩ entries).map fun parsed =>
      (parsed.1, parsed.2.defaultBeacon)

/-! ## What is meant -/

/-- The port with copies of its own, by its place. -/
def Entry.own (place : ℕ) (entry : Entry α) : Entry (ℕ × α) :=
  ⟨entry.key, entry.conf.map fun option => (option.1, (place, option.2))⟩

/-- The configuration in which every port has copies of its own. -/
def writtenOut [DecidableEq α] (env : Env V) (order : Finset ℕ → List ℕ) (defaultBeacon : Dict)
    (conf : DpConf α) : Except ConfigError (List (ParsedPort V) × Dict) :=
  conf.entries order >>= fun entries =>
    (parsePorts env ⟨fun name object => conf.objects name object.2, defaultBeacon⟩
      (entries.mapIdx Entry.own)).map fun parsed => (parsed.1, parsed.2.defaultBeacon)

/-- The port on its own. -/
def Entry.alone (env : Env V) (objects : Objects α) (entry : Entry α) :
    Except ConfigError (ParsedPort V) :=
  dpParsePort env [] entry.key (entry.load objects)

/-- The ports are those of the configuration written out, and each one is as if it were alone. A
beacon that is left behind in the class would be one of other ports. -/
structure DpConf.Meant [DecidableEq α] (env : Env V) (order : Finset ℕ → List ℕ) (conf : DpConf α) :
    Prop where
  writtenOut : ∀ ports, dpAddPorts env order [] conf = .ok (ports, []) ↔
    writtenOut env order [] conf = .ok (ports, [])
  alone : ∀ ports, dpAddPorts env order [] conf = .ok (ports, []) ↔
    conf.entries order >>= (fun entries => entries.mapM (Entry.alone env conf.objects)) = .ok ports

/-! ## The condition -/

/-- The option of the port as it is configured. -/
def Entry.option (objects : Objects α) (entry : Entry α) (name : String) : Value :=
  (Port.start [] entry.key (entry.load objects)).option name

/-- Ports with the same beacon have no `stack`; and when it is enabled it has a `port_descr` or they
the same description, and the `info` of each of its TLVs is hexadecimal. -/
def Agree (objects : Objects α) (entry entry' : Entry α) : Prop :=
  ∀ object lldpBeacon, entry.conf.lookup "lldp_beacon" = some object →
    entry'.conf.lookup "lldp_beacon" = some object →
    objects "lldp_beacon" object = .dict lldpBeacon →
    (entry.option objects "stack").truthy = false ∧ (entry'.option objects "stack").truthy = false ∧
      (lldpBeaconEnabled lldpBeacon = true →
        (hasPortDescr lldpBeacon ∨
          entry.option objects "description" = entry'.option objects "description") ∧
        ∀ orgTlv ∈ orgTlvsOf lldpBeacon, plainInfo orgTlv = true)

/-- The port has a `stack` and a null `lldp_beacon`. -/
def StackWithoutBeacon (objects : Objects α) (entry : Entry α) : Prop :=
  (entry.option objects "stack").truthy = true ∧
    ∃ object, entry.conf.lookup "lldp_beacon" = some object ∧ objects "lldp_beacon" object = .null

/-- When each port is valid on its own, no beacon is written to for one port that another one
has. -/
def DpConf.Harmless (env : Env V) (order : Finset ℕ → List ℕ) (conf : DpConf α) : Prop :=
  ∀ entries, conf.entries order = .ok entries →
    (∀ entry ∈ entries, ∃ port, entry.alone env conf.objects = .ok port) →
    (∀ entry ∈ entries, ¬ StackWithoutBeacon conf.objects entry) ∧
      entries.Pairwise (Agree conf.objects)

end Model

end Faucet.Config.Interfaces
