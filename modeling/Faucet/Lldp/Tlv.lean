import Mathlib

/-!
# What an LLDP packet says

The TLVs of a packet, with the bytes that they carry, and `parse_faucet_lldp`, which
reads four optional fields out of them. A field is missing when its TLV is, when the TLV
has no such attribute and when its bytes are not a number. No packet makes it fail.
-/

set_option autoImplicit false

namespace Faucet.Lldp

/-- `bytes` -/
abbrev Bytes := List UInt8

/-! ## Numbers and texts -/

/-- The white space that `int` takes off both ends. -/
def isSpace (byte : UInt8) : Bool := byte == 32 || 9 ≤ byte && byte ≤ 13

/-- `strip` of bytes. -/
def strip (bytes : Bytes) : Bytes :=
  ((bytes.dropWhile isSpace).reverse.dropWhile isSpace).reverse

/-- Decimal digits, with single underscores between them. -/
def digitsValue (value : Nat) (afterDigit : Bool) : Bytes → Option Nat
  | [] => if afterDigit then some value else none
  | byte :: rest =>
      if 48 ≤ byte && byte ≤ 57 then digitsValue (10 * value + (byte.toNat - 48)) true rest
      else if byte == 95 && afterDigit then digitsValue value false rest
      else none

/-- `int` of bytes; `none` is a `ValueError`. -/
def pyInt (bytes : Bytes) : Option Int :=
  match strip bytes with
  | 43 :: digits => (digitsValue 0 false digits).map Int.ofNat
  | 45 :: digits => (digitsValue 0 false digits).map fun value => -Int.ofNat value
  | digits => (digitsValue 0 false digits).map Int.ofNat

example : pyInt [32, 45, 49, 95, 48, 10] = some (-10) := by decide

/-- A character of which some bytes are still to come, the next of them in this range. -/
structure Partial where
  tails : Nat
  low : UInt8
  high : UInt8
  value : Nat
deriving DecidableEq, Repr

/-- The character that stands for bytes that are no UTF-8. -/
def replacement : Char := Char.ofNat 0xfffd

/-- A byte between two characters: what is put out, and what it begins. -/
def firstByte (byte : UInt8) : List Char × Option Partial :=
  if byte < 0x80 then ([Char.ofNat byte.toNat], none)
  else if 0xc2 ≤ byte && byte ≤ 0xdf then ([], some ⟨1, 0x80, 0xbf, byte.toNat - 0xc0⟩)
  else if 0xe0 ≤ byte && byte ≤ 0xef then
    ([], some ⟨2, if byte == 0xe0 then 0xa0 else 0x80, if byte == 0xed then 0x9f else 0xbf,
      byte.toNat - 0xe0⟩)
  else if 0xf0 ≤ byte && byte ≤ 0xf4 then
    ([], some ⟨3, if byte == 0xf0 then 0x90 else 0x80, if byte == 0xf4 then 0x8f else 0xbf,
      byte.toNat - 0xf0⟩)
  else ([replacement], none)

/-- `bytes.decode` with the replacement character, after the bytes that are held back. -/
def decodeFrom : Option Partial → Bytes → List Char
  | none, [] => []
  | some _, [] => [replacement]
  | none, byte :: rest => (firstByte byte).1 ++ decodeFrom (firstByte byte).2 rest
  | some begun, byte :: rest =>
      if begun.low ≤ byte && byte ≤ begun.high then
        let value := 64 * begun.value + (byte.toNat - 0x80)
        if begun.tails ≤ 1 then Char.ofNat value :: decodeFrom none rest
        else decodeFrom (some ⟨begun.tails - 1, 0x80, 0xbf, value⟩) rest
      else replacement :: (firstByte byte).1 ++ decodeFrom (firstByte byte).2 rest

/-- `utf8_decode`, which replaces what is no UTF-8. -/
def utf8Decode (bytes : Bytes) : String := String.ofList (decodeFrom none bytes)

example : decodeFrom none [0x66, 0xe2, 0x82, 0x6f] = ['f', replacement, 'o'] := by decide

/-! ## TLVs -/

/-- `LLDP_TLV_PORT_ID`, `LLDP_TLV_SYSTEM_NAME`, `LLDP_TLV_ORGANIZATIONALLY_SPECIFIC`. -/
def lldpTlvPortId : Nat := 2

/-- `LLDP_TLV_SYSTEM_NAME` -/
def lldpTlvSystemName : Nat := 5

/-- `LLDP_TLV_ORGANIZATIONALLY_SPECIFIC` -/
def lldpTlvOrganizationallySpecific : Nat := 127

/-- `LLDP_FAUCET_DP_ID` -/
def lldpFaucetDpId : Nat := 1

/-- `LLDP_FAUCET_STACK_STATE` -/
def lldpFaucetStackState : Nat := 2

/-- A TLV as the library parses it. -/
inductive Tlv where
  | portId (subtype : Nat) (portId : Bytes)
  | systemName (systemName : Bytes)
  | organizationallySpecific (oui : Bytes) (subtype : Nat) (info : Bytes)
  /-- Any other TLV, of a type that is not one of these. -/
  | other (tlvType : Nat)
      (apart : tlvType ∉ [lldpTlvPortId, lldpTlvSystemName, lldpTlvOrganizationallySpecific])
deriving DecidableEq

namespace Tlv

/-- `tlv.tlv_type` -/
def tlvType : Tlv → Nat
  | portId .. => lldpTlvPortId
  | systemName _ => lldpTlvSystemName
  | organizationallySpecific .. => lldpTlvOrganizationallySpecific
  | other tlvType _ => tlvType

/-- The attributes `port_id`, `system_name`, `info`, `oui` and `subtype`; `none` is an
`AttributeError`. -/
def portIdAttr : Tlv → Option Bytes
  | portId _ bytes => some bytes
  | _ => none

/-- `tlv.system_name`, where there is one. -/
def systemNameAttr : Tlv → Option Bytes
  | systemName bytes => some bytes
  | _ => none

/-- `tlv.info`, where there is one. -/
def infoAttr : Tlv → Option Bytes
  | organizationallySpecific _ _ info => some info
  | _ => none

/-- `tlv.oui`, where there is one. -/
def ouiAttr : Tlv → Option Bytes
  | organizationallySpecific oui _ _ => some oui
  | _ => none

/-- `tlv.subtype`, where there is one. -/
def subtypeAttr : Tlv → Option Nat
  | portId subtype _ => some subtype
  | organizationallySpecific _ subtype _ => some subtype
  | _ => none

end Tlv

/-- `tlvs_by_type` -/
def tlvsByType (tlvs : List Tlv) (tlvType : Nat) : List Tlv :=
  tlvs.filter fun tlv => tlv.tlvType = tlvType

/-- `tlvs_by_subtype`; `none` is an `AttributeError`. -/
def tlvsBySubtype (tlvs : List Tlv) (subtype : Nat) : Option (List Tlv) :=
  if tlvs.all fun tlv => tlv.subtypeAttr.isSome then
    some (tlvs.filter fun tlv => tlv.subtypeAttr = some subtype)
  else none

/-- `tlv_cast`: the attribute of the first TLV, if there is one that can be cast. -/
def tlvCast {α : Type} (tlvs : List Tlv) (tlvAttr : Tlv → Option Bytes)
    (castFunc : Bytes → Option α) : Option α :=
  tlvs.head?.bind fun tlv => (tlvAttr tlv).bind castFunc

/-- `faucet_oui` -/
def faucetOui (mac : Bytes) : Bytes := mac.take 3

/-- `faucet_tlvs`; `none` is an `AttributeError`. -/
def faucetTlvs (tlvs : List Tlv) (faucetDpMac : Bytes) : Option (List Tlv) :=
  let specific := tlvsByType tlvs lldpTlvOrganizationallySpecific
  if specific.all fun tlv => tlv.ouiAttr.isSome then
    some (specific.filter fun tlv => tlv.ouiAttr = some (faucetOui faucetDpMac))
  else none

/-- What `parse_faucet_lldp` returns. -/
structure Remote where
  dpId : Option Int
  dpName : Option String
  portId : Option Int
  portState : Option Int
deriving DecidableEq

/-- Nothing is known. -/
def Remote.unknown : Remote := ⟨none, none, none, none⟩

/-- `parse_faucet_lldp`; `none` is an exception. -/
def parseFaucetLldp (packet : List Tlv) (faucetDpMac : Bytes) : Option Remote := do
  let tlvs ← faucetTlvs packet faucetDpMac
  if tlvs.isEmpty then return Remote.unknown
  let dpIdTlvs ← tlvsBySubtype tlvs lldpFaucetDpId
  let dpNameTlvs := tlvsByType packet lldpTlvSystemName
  let portIdTlvs := tlvsByType packet lldpTlvPortId
  let portStateTlvs ← tlvsBySubtype tlvs lldpFaucetStackState
  return {
    dpId := tlvCast dpIdTlvs Tlv.infoAttr pyInt
    dpName := tlvCast dpNameTlvs Tlv.systemNameAttr fun bytes => some (utf8Decode bytes)
    portId := tlvCast portIdTlvs Tlv.portIdAttr pyInt
    portState := tlvCast portStateTlvs Tlv.infoAttr pyInt }

/-! ## No packet makes it fail -/

theorem attrs_of_specific {tlv : Tlv} (specific : tlv.tlvType = lldpTlvOrganizationallySpecific) :
    tlv.ouiAttr.isSome = true ∧ tlv.subtypeAttr.isSome = true := by
  cases tlv with
  | portId | systemName => cases specific
  | organizationallySpecific => exact ⟨rfl, rfl⟩
  | other tlvType apart =>
      cases specific
      exact absurd (by decide) apart

theorem faucetTlvs_spec (packet : List Tlv) (faucetDpMac : Bytes) :
    ∃ tlvs, faucetTlvs packet faucetDpMac = some tlvs ∧
      ∀ tlv ∈ tlvs, tlv.subtypeAttr.isSome = true := by
  have attrs : ∀ tlv ∈ tlvsByType packet lldpTlvOrganizationallySpecific,
      tlv.ouiAttr.isSome = true ∧ tlv.subtypeAttr.isSome = true := by
    intro tlv member
    exact attrs_of_specific (by simpa using (List.mem_filter.mp member).2)
  have allOui := List.all_eq_true.mpr fun tlv member => (attrs tlv member).1
  refine ⟨_, by rw [faucetTlvs, if_pos allOui], fun tlv member => ?_⟩
  exact (attrs tlv (List.mem_of_mem_filter member)).2

theorem tlvsBySubtype_spec {tlvs : List Tlv} (attrs : ∀ tlv ∈ tlvs, tlv.subtypeAttr.isSome = true)
    (subtype : Nat) : ∃ found, tlvsBySubtype tlvs subtype = some found :=
  ⟨_, if_pos (List.all_eq_true.mpr attrs)⟩

/-- **Every packet is parsed**, whatever its TLVs are. -/
theorem exists_parseFaucetLldp (packet : List Tlv) (faucetDpMac : Bytes) :
    ∃ remote, parseFaucetLldp packet faucetDpMac = some remote := by
  obtain ⟨tlvs, found, attrs⟩ := faucetTlvs_spec packet faucetDpMac
  obtain ⟨dpIdTlvs, dpId⟩ := tlvsBySubtype_spec attrs lldpFaucetDpId
  obtain ⟨portStateTlvs, portState⟩ := tlvsBySubtype_spec attrs lldpFaucetStackState
  rw [parseFaucetLldp]
  simp only [found, dpId, portState, Option.bind_eq_bind, Option.bind_some]
  split <;> exact ⟨_, rfl⟩

end Faucet.Lldp
