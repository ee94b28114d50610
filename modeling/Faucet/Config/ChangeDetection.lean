import Faucet.Library.OrderedDict
import Faucet.Library.PyRepr

/-!
# Detecting changes of the configuration

Two configuration objects are compared by a hash of their settings, each of which is turned
into a printable value and printed. What a setting looks like then is less than what it is: null
entries, byte strings, floating point numbers and sets are left out, and an address looks like its
text (`Alike`). It is also more: dictionaries are printed in their order.
-/

set_option autoImplicit false

namespace Faucet.Config.Changes

open OrderedDict
open PyRepr (Literal)

/-! ## Values -/

/-- The classes of the `ipaddress` module. -/
inductive AddressKind where
  | ipv4Address
  | ipv4Interface
  | ipv4Network
  | ipv6Address
  | ipv6Interface
  | ipv6Network
  deriving DecidableEq

/-- A value without parts, which can be the key of a dictionary. A floating point number comes with
its text, and any other value is given by it. -/
inductive Scalar where
  | null
  | bool (value : Bool)
  | int (value : ℤ)
  | float (value : ℚ) (text : String)
  | str (text : String)
  | address (kind : AddressKind) (text : String)
  | other (text : String)
  deriving DecidableEq

namespace Scalar

/-- The number that a number is; `True` is 1. -/
def number : Scalar → Option ℚ
  | bool value => some (if value then 1 else 0)
  | int value => some value
  | float value _ => some value
  | _ => none

/-- `==` -/
def eq (scalar scalar' : Scalar) : Bool :=
  match scalar.number, scalar'.number with
  | some number, some number' => number == number'
  | none, none => scalar == scalar'
  | _, _ => false

/-- `str` -/
def text : Scalar → String
  | null => "None"
  | bool value => if value then "True" else "False"
  | int value => toString value
  | float _ text | str text | address _ text | other text => text

end Scalar

/-- The `name` of a configuration object, or its `_id`. -/
inductive Label where
  | null
  | int (value : ℤ)
  | str (text : String)
  deriving DecidableEq

/-- A value of the configuration. The elements of a set are in the order in which it iterates. A
configuration object is seen by its label, its hash and its settings. -/
inductive Value (H : Type) where
  | scalar (scalar : Scalar)
  | bytes (data : List UInt8)
  | bytearray (data : List UInt8)
  | list (values : List (Value H))
  | tuple (values : List (Value H))
  | dict (entries : List (Scalar × Value H))
  | set (elements : List (Value H))
  | frozenset (elements : List (Value H))
  | conf (label : Label) (hash : H) (origConf : List (String × Value H))

variable {H : Type}

namespace Value

/-- The value is `None`. -/
def isNull : Value H → Bool
  | scalar .null => true
  | _ => false

/-- The value is a `Conf`. -/
def isConf : Value H → Bool
  | conf _ _ _ => true
  | _ => false

section Equality

variable [DecidableEq H]

mutual

/-- `==` -/
def eq : Value H → Value H → Bool
  | scalar value, scalar value' => value.eq value'
  | bytes data, bytes data' | bytes data, bytearray data' | bytearray data, bytes data'
  | bytearray data, bytearray data' => data == data'
  | list values, list values' | tuple values, tuple values' => eqAll values values'
  | dict entries, dict entries' => entries.length == entries'.length && eqEntries entries entries'
  | set elements, set elements' | set elements, frozenset elements'
  | frozenset elements, set elements' | frozenset elements, frozenset elements' =>
      elements.length == elements'.length && eqElements elements elements'
  | conf _ hash _, conf _ hash' _ => hash == hash'
  | _, _ => false

/-- Lists are equal element by element. -/
def eqAll : List (Value H) → List (Value H) → Bool
  | [], [] => true
  | value :: rest, value' :: rest' => value.eq value' && eqAll rest rest'
  | _, _ => false

/-- Each key of the first dictionary has an equal value in the second one. -/
def eqEntries : List (Scalar × Value H) → List (Scalar × Value H) → Bool
  | [], _ => true
  | (key, value) :: rest, entries' =>
      (match entries'.find? fun entry => key.eq entry.1 with
        | some entry => value.eq entry.2
        | none => false) && eqEntries rest entries'

/-- Each element of the first set is equal to one of the second. -/
def eqElements : List (Value H) → List (Value H) → Bool
  | [], _ => true
  | value :: rest, elements' => (elements'.any fun value' => value.eq value') &&
      eqElements rest elements'

end

end Equality

end Value

/-! ## Printable values -/

/-- The label as a literal. -/
def Label.literal : Label → Literal
  | null => .none
  | int value => .int value
  | str text => .str text

mutual

/-- `_str_conf` -/
def strConf : Value H → Literal
  | .scalar (.bool value) => .bool value
  | .scalar (.int value) => .int value
  | .scalar (.str text) | .scalar (.address _ text) => .str text
  | .list values | .tuple values | .frozenset values => .tuple (strConfs values)
  | .dict entries => .dict (values Prod.fst (strEntries entries))
  | .conf label _ _ => label.literal
  | .scalar _ | .bytes _ | .bytearray _ | .set _ => .none

/-- `_str_conf` of the elements of a list, without those that are `None`. -/
def strConfs : List (Value H) → List Literal
  | [] => []
  | value :: rest => if value.isNull then strConfs rest else strConf value :: strConfs rest

/-- `_str_conf` of the entries of a dictionary, without those that are `None`. -/
def strEntries : List (Scalar × Value H) → List (String × Literal)
  | [] => []
  | (key, value) :: rest =>
      if value.isNull then strEntries rest else (key.text, strConf value) :: strEntries rest

end

/-! ## Configuration objects -/

/-- An object of a class; its settings are by the keys of the defaults of the class. -/
structure ConfObject (H : Type) where
  origConf : List (String × Value H)
  dynFinalized : Bool
  dynHash : Option H

/-- A setting that is a configuration object is replaced by its settings. -/
def Value.orig : Value H → Value H
  | .conf _ _ origConf => .dict (origConf.map fun setting => (.str setting.1, setting.2))
  | value => value

/-- The constructor, with the attributes after `check_config`. -/
def ConfObject.make (defaults : List String) (getattr : String → Value H) : ConfObject H where
  origConf := defaults.map fun key => (key, (getattr key).orig)
  dynFinalized := false
  dynHash := none

/-- Whether a setting is sub-configuration; the first element of a set cannot be taken. -/
def Value.isSubconf : Value H → Option Bool
  | .conf _ _ _ => some true
  | .list (value :: _) | .tuple (value :: _) => some value.isConf
  | .set (_ :: _) => none
  | _ => some false

/-- The loop of `_conf_keys`; `none` is a `TypeError`. -/
def confKeysOf (subconf : Bool) (ignoreKeys : List String) :
    List (String × Value H) → Option (List (String × Literal))
  | [] => some []
  | (key, value) :: rest =>
      if key ∈ ignoreKeys then confKeysOf subconf ignoreKeys rest
      else if subconf then
        (confKeysOf subconf ignoreKeys rest).map ((key, strConf value) :: ·)
      else match value.isSubconf with
        | none => none
        | some true => confKeysOf subconf ignoreKeys rest
        | some false => (confKeysOf subconf ignoreKeys rest).map ((key, strConf value) :: ·)

/-- `_conf_keys` -/
def ConfObject.confKeys (defaults : List String) (conf : ConfObject H) (subconf : Bool)
    (ignoreKeys : List String) : Option (List (String × Literal)) :=
  confKeysOf subconf ignoreKeys
    ((conf.origConf.filter fun setting => setting.1 ∈ defaults).insertionSort
      fun setting setting' => setting.1 ≤ setting'.1)

/-- What is built in: the characters that are printable, the hash of a set of strings, the text of an
item of a dictionary, and the order in which the frozen set of some elements iterates. -/
structure Builtins (H : Type) where
  printable : Char → Bool
  hash : Finset String → H
  itemText : Scalar → Value H → String
  iterate : List (Value H) → List (Value H)

variable (builtins : Builtins H)

/-- `str` of a key and its value. -/
def pairText (printable : Char → Bool) (pair : String × Literal) : String :=
  String.ofList ((Literal.tuple [.str pair.1, pair.2]).repr printable)

/-- `conf_hash` -/
def ConfObject.confHash (defaults : List String) (conf : ConfObject H) (subconf : Bool)
    (ignoreKeys : List String) : Option H :=
  (conf.confKeys defaults subconf ignoreKeys).map fun keys =>
    builtins.hash (keys.map (pairText builtins.printable)).toFinset

/-- `ignore_subconf` -/
def ConfObject.ignoreSubconf [DecidableEq H] (defaults : List String) (conf other : ConfObject H)
    (ignoreKeys : List String) : Option Bool := do
  let own ← conf.confHash builtins defaults false ignoreKeys
  let others ← other.confHash builtins defaults false ignoreKeys
  some (own == others)

/-- `__hash__`, and the object with the hash that it keeps. -/
def ConfObject.hashed (defaults : List String) (conf : ConfObject H) : Option (H × ConfObject H) :=
  match conf.dynHash with
  | some dynHash => some (dynHash, conf)
  | none => (conf.confHash builtins defaults true []).map fun dynHash =>
      (dynHash, if conf.dynFinalized then { conf with dynHash := some dynHash } else conf)

/-- `__eq__` -/
def ConfObject.eq [DecidableEq H] (defaults : List String) (conf other : ConfObject H) :
    Option Bool := do
  let (own, _) ← conf.hashed builtins defaults
  let (others, _) ← other.hashed builtins defaults
  some (own == others)

mutual

/-- `_finalize_val` -/
def finalizeVal : Value H → Value H
  | .list values => .tuple (finalizeVals values)
  | .set elements => .frozenset (builtins.iterate (finalizeVals elements))
  | .dict entries =>
      .dict (((finalizeItems entries).insertionSort fun item item' => item.1 ≤ item'.1).map Prod.snd)
  | value => value

/-- `_finalize_val` of the elements of a list. -/
def finalizeVals : List (Value H) → List (Value H)
  | [] => []
  | value :: rest => finalizeVal value :: finalizeVals rest

/-- The items with the texts by which they are sorted. -/
def finalizeItems : List (Scalar × Value H) → List (String × Scalar × Value H)
  | [] => []
  | (key, value) :: rest =>
      (builtins.itemText key value, key, finalizeVal value) :: finalizeItems rest

end

/-- `finalize`, of the settings. -/
def ConfObject.finalize (conf : ConfObject H) : ConfObject H :=
  { conf with
    origConf := conf.origConf.map fun setting => (setting.1, finalizeVal builtins setting.2)
    dynFinalized := true }

/-- `merge_dyn` -/
def ConfObject.mergeDyn (conf other : ConfObject H) : ConfObject H :=
  { conf with dynFinalized := other.dynFinalized, dynHash := other.dynHash }

/-- An object that has been made of the attributes, and finalized and hashed since. -/
inductive Built (defaults : List String) (getattr : String → Value H) : ConfObject H → Prop
  | make : Built defaults getattr (.make defaults getattr)
  | finalize {conf : ConfObject H} : Built defaults getattr conf → conf.dynFinalized = false →
      Built defaults getattr (conf.finalize builtins)
  | hashed {conf next : ConfObject H} {dynHash : H} : Built defaults getattr conf →
      conf.hashed builtins defaults = some (dynHash, next) → Built defaults getattr next

end Faucet.Config.Changes
