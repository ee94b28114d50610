import Mathlib

/-!
# The check of an IPv4 header

`ipv4_parseable` decodes the first 20 bytes of a header by hand before the
library may parse them. `AcceptsIpv4` is what the check is for: a whole header,
no options cut off, not a fragment, and a protocol the library is known to
parse. The code masks the fragment offset with 12 bits in place of 13 and takes
data of fewer than 20 bytes for a header, so it decides `AcceptsIpv4` exactly on
the headers of `ipv4Parseable_iff`.
-/

set_option autoImplicit false

namespace Faucet.Packet

/-- The Python exceptions that parsing a packet meets. -/
inductive PyError where
  | attributeError
  | assertionError
  | tooSmallException
  | valueError
  | structError
deriving DecidableEq, Repr

/-- `bytes` -/
abbrev Bytes := List UInt8

/-- The size of an Ethernet header. -/
def ETH_HEADER_SIZE : ℕ := 14

/-- The size of an Ethernet header with a VLAN tag. -/
def ETH_VLAN_HEADER_SIZE : ℕ := ETH_HEADER_SIZE + 4

/-- The size of an IPv4 header without options. -/
def IPV4_HEADER_SIZE : ℕ := 20

/-- The size of an IPv6 header. -/
def IPV6_HEADER_SIZE : ℕ := 40

/-- A byte, or zero where the data has ended. -/
def byteAt (data : Bytes) (index : ℕ) : ℕ := (data.getD index 0).toNat

/-- A big-endian half word. -/
def halfAt (data : Bytes) (index : ℕ) : ℕ := 256 * byteAt data index + byteAt data (index + 1)

/-- `IPPROTO_ICMP`, `IPPROTO_UDP`, `IPPROTO_TCP` -/
def parseableProtocols : List ℕ := [1, 17, 6]

/-- `ipv4_parseable`; `struct.unpack` needs all 20 bytes of the header. -/
def ipv4Parseable (ipHeaderData : Bytes) : Except PyError Bool :=
  let header := ipHeaderData.take IPV4_HEADER_SIZE
  if header.length ≠ IPV4_HEADER_SIZE then .error .structError
  else
    let headerSize := (byteAt header 0 &&& 0xF) * 32 / 8
    let flags := halfAt header 6 >>> 12
    let ipOff := halfAt header 6 &&& 0xFFF
    let protocol := byteAt header 9
    if headerSize < IPV4_HEADER_SIZE then .ok false
    else if flags &&& 0x2 ≠ 0 then .ok false
    else if ipOff ≠ 0 then .ok false
    else if protocol ∉ parseableProtocols then .ok false
    else .ok true

/-! ## The headers it should accept -/

/-- The header length in words, the low four bits of the first byte. -/
def headerWords (data : Bytes) : ℕ := byteAt data 0 % 16

/-- The half word of the flags and the fragment offset, which is its low 13 bits. -/
def fragmentField (data : Bytes) : ℕ := halfAt data 6

/-- A complete header of an unfragmented packet of a known protocol. -/
structure AcceptsIpv4 (data : Bytes) : Prop where
  complete : IPV4_HEADER_SIZE ≤ data.length
  words : 5 ≤ headerWords data
  noMoreFragments : (fragmentField data).testBit 13 = false
  offset : fragmentField data % 8192 = 0
  protocol : byteAt data 9 ∈ parseableProtocols

/-- The header passes but for the highest bit of its fragment offset, which is set. -/
structure OffsetOverlooked (data : Bytes) : Prop where
  words : 5 ≤ headerWords data
  noMoreFragments : (fragmentField data).testBit 13 = false
  lowOffset : fragmentField data % 4096 = 0
  highOffset : (fragmentField data).testBit 12 = true
  protocol : byteAt data 9 ∈ parseableProtocols

theorem byteAt_take {data : Bytes} {count index : ℕ} (inside : index < count) :
    byteAt (data.take count) index = byteAt data index := by
  simp [byteAt, List.getD_eq_getElem?_getD, List.getElem?_take_of_lt inside]

theorem low_nibble (n : ℕ) : n &&& 0xF = n % 16 := Nat.and_two_pow_sub_one_eq_mod n 4

theorem low_offset (n : ℕ) : n &&& 0xFFF = n % 4096 := Nat.and_two_pow_sub_one_eq_mod n 12

theorem more_fragments (n : ℕ) : n >>> 12 &&& 0x2 ≠ 0 ↔ n.testBit 13 = true := by
  have bit := Nat.and_two_pow (n >>> 12) 1
  rw [Nat.pow_one, Nat.testBit_shiftRight] at bit
  rw [bit]
  cases n.testBit (12 + 1) <;> simp

theorem offset_eq_zero_iff (n : ℕ) :
    n % 8192 = 0 ↔ n % 4096 = 0 ∧ n.testBit 12 = false := by
  rw [Nat.testBit_eq_decide_div_mod_eq, decide_eq_false_iff_not]
  omega

/-- What the code returns for a complete header. -/
theorem ipv4Parseable_of_complete {data : Bytes} (complete : IPV4_HEADER_SIZE ≤ data.length) :
    ∃ accepted, ipv4Parseable data = .ok accepted ∧
      (accepted = true ↔ 5 ≤ headerWords data ∧ (fragmentField data).testBit 13 = false ∧
        fragmentField data % 4096 = 0 ∧ byteAt data 9 ∈ parseableProtocols) := by
  have size : (data.take IPV4_HEADER_SIZE).length = IPV4_HEADER_SIZE := by
    rw [List.length_take, Nat.min_eq_left complete]
  have first : byteAt (data.take IPV4_HEADER_SIZE) 0 = byteAt data 0 :=
    byteAt_take (by decide)
  have fragment : halfAt (data.take IPV4_HEADER_SIZE) 6 = fragmentField data := by
    rw [halfAt, byteAt_take (by decide), byteAt_take (by decide)]
    rfl
  have protocol : byteAt (data.take IPV4_HEADER_SIZE) 9 = byteAt data 9 :=
    byteAt_take (by decide)
  have short : headerWords data * 32 / 8 < IPV4_HEADER_SIZE ↔ ¬ 5 ≤ headerWords data := by
    unfold IPV4_HEADER_SIZE
    omega
  simp only [ipv4Parseable, size, first, fragment, protocol, low_nibble, low_offset,
    more_fragments, ne_eq, not_true_eq_false, if_false]
  change ∃ accepted, (if headerWords data * 32 / 8 < IPV4_HEADER_SIZE then _ else _) = _ ∧ _
  simp only [short]
  by_cases words : 5 ≤ headerWords data
  · cases more : (fragmentField data).testBit 13
    · by_cases offset : fragmentField data % 4096 = 0
      · by_cases known : byteAt data 9 ∈ parseableProtocols <;> simp [words, offset, known]
      · simp [words, offset]
    · simp [words]
  · simp [words]

theorem ipv4Parseable_of_incomplete {data : Bytes} (incomplete : ¬ IPV4_HEADER_SIZE ≤ data.length) :
    ipv4Parseable data = .error .structError := by
  have size : (data.take IPV4_HEADER_SIZE).length ≠ IPV4_HEADER_SIZE := by
    rw [List.length_take]
    omega
  simp only [ipv4Parseable, if_pos size]

/-- **The check decides `AcceptsIpv4`** exactly on the complete headers whose
highest offset bit it does not overlook. -/
theorem ipv4Parseable_iff (data : Bytes) :
    (∃ accepted, ipv4Parseable data = .ok accepted ∧ (accepted = true ↔ AcceptsIpv4 data)) ↔
      IPV4_HEADER_SIZE ≤ data.length ∧ ¬ OffsetOverlooked data := by
  by_cases complete : IPV4_HEADER_SIZE ≤ data.length
  · obtain ⟨accepted, returns, accepts⟩ := ipv4Parseable_of_complete complete
    rw [and_iff_right complete]
    constructor
    · rintro ⟨answer, returns', right⟩ overlooked
      cases returns.symm.trans returns'
      have passed := accepts.mpr ⟨overlooked.words, overlooked.noMoreFragments,
        overlooked.lowOffset, overlooked.protocol⟩
      have clear := ((offset_eq_zero_iff _).mp (right.mp passed).offset).2
      rw [overlooked.highOffset] at clear
      cases clear
    · intro seen
      refine ⟨accepted, returns, accepts.trans ⟨?_, ?_⟩⟩
      · rintro ⟨words, noMoreFragments, lowOffset, protocol⟩
        refine ⟨complete, words, noMoreFragments, (offset_eq_zero_iff _).mpr ⟨lowOffset, ?_⟩,
          protocol⟩
        by_contra high
        exact seen ⟨words, noMoreFragments, lowOffset, by simpa using high, protocol⟩
      · rintro ⟨_, words, noMoreFragments, offset, protocol⟩
        exact ⟨words, noMoreFragments, ((offset_eq_zero_iff _).mp offset).1, protocol⟩
  · refine iff_of_false ?_ fun holds => complete holds.1
    rintro ⟨accepted, returns, _⟩
    rw [ipv4Parseable_of_incomplete complete] at returns
    cases returns

end Faucet.Packet
