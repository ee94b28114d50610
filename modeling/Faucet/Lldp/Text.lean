import Faucet.Lldp.Tlv

/-!
# Numbers and texts as bytes

What `str` and `encode` make of a number and of a text is read back by `int`
(`pyInt_strInt`) and `utf8_decode` (`utf8Decode_encode`).
-/

set_option autoImplicit false

namespace Faucet.Lldp

/-! ## Numbers -/

/-- `str(value).encode("utf-8")` -/
def strNat (value : Nat) : Bytes :=
  if value = 0 then [48] else (Nat.digits 10 value).reverse.map fun digit => UInt8.ofNat (digit + 48)

/-- `str` of an integer. -/
def strInt : Int → Bytes
  | .ofNat value => strNat value
  | .negSucc value => 45 :: strNat (value + 1)

theorem digit_spec {digit : Nat} (small : digit < 10) :
    (48 ≤ UInt8.ofNat (digit + 48) ∧ UInt8.ofNat (digit + 48) ≤ 57) ∧
      (UInt8.ofNat (digit + 48)).toNat - 48 = digit := by
  have each : ∀ digit < 10, (48 ≤ UInt8.ofNat (digit + 48) ∧ UInt8.ofNat (digit + 48) ≤ 57) ∧
      (UInt8.ofNat (digit + 48)).toNat - 48 = digit := by decide
  exact each digit small

theorem digitsValue_map {digits : List Nat} (small : ∀ digit ∈ digits, digit < 10) (value : Nat) :
    digitsValue value true (digits.map fun digit => UInt8.ofNat (digit + 48)) =
      some (digits.foldl (fun value digit => 10 * value + digit) value) := by
  induction digits generalizing value with
  | nil => rfl
  | cons digit digits ih =>
      obtain ⟨⟨low, high⟩, back⟩ := digit_spec (small digit List.mem_cons_self)
      rw [List.map_cons, digitsValue, if_pos (by simp only [low, high, decide_true, Bool.and_self]), back, List.foldl_cons]
      exact ih (fun digit member => small digit (List.mem_cons_of_mem _ member)) _

/-- The digits are read back, the highest first. -/
theorem digitsValue_strNat (value : Nat) : digitsValue 0 false (strNat value) = some value := by
  unfold strNat
  split
  next isZero =>
    subst isZero
    rfl
  next positive =>
    have small : ∀ digit ∈ (Nat.digits 10 value).reverse, digit < 10 := fun digit member =>
      Nat.digits_lt_base (by decide) (List.mem_reverse.mp member)
    have back : (Nat.digits 10 value).reverse.foldl (fun value digit => 10 * value + digit) 0 =
        value := by
      have folded := Nat.ofDigits_digits 10 value
      rw [Nat.ofDigits_eq_foldr] at folded
      rw [List.foldl_reverse]
      refine Eq.trans ?_ folded
      congr 1
      funext digit value
      simp [Nat.add_comm]
    cases digits : (Nat.digits 10 value).reverse with
    | nil =>
        rw [digits] at back
        exact absurd back.symm positive
    | cons digit rest =>
        rw [digits] at small back
        obtain ⟨⟨low, high⟩, digitBack⟩ := digit_spec (small digit List.mem_cons_self)
        rw [List.map_cons, digitsValue, if_pos (by simp only [low, high, decide_true, Bool.and_self]), digitBack]
        rw [List.foldl_cons] at back
        rw [digitsValue_map (fun digit member => small digit (List.mem_cons_of_mem _ member)), back]

theorem mem_strNat {value : Nat} {byte : UInt8} (member : byte ∈ strNat value) :
    48 ≤ byte ∧ byte ≤ 57 := by
  unfold strNat at member
  split at member
  · rw [List.mem_singleton.mp member]
    decide
  · obtain ⟨digit, listed, rfl⟩ := List.mem_map.mp member
    exact (digit_spec (Nat.digits_lt_base (by decide) (List.mem_reverse.mp listed))).1

theorem not_isSpace_of_le {byte : UInt8} (low : 45 ≤ byte) : isSpace byte = false := by
  have low : 45 ≤ byte.toNat := UInt8.le_iff_toNat_le.mp low
  simp only [isSpace, Bool.or_eq_false_iff, beq_eq_false_iff_ne, Bool.and_eq_false_iff,
    decide_eq_false_iff_not, UInt8.le_iff_toNat_le]
  refine ⟨fun isBlank => ?_, .inr ?_⟩
  · subst isBlank
    exact absurd low (by decide)
  · have bound : (13 : UInt8).toNat = 13 := rfl
    omega

theorem strip_of_no_space {bytes : Bytes} (noSpace : ∀ byte ∈ bytes, isSpace byte = false) :
    strip bytes = bytes := by
  have keeps : ∀ bytes : Bytes, (∀ byte ∈ bytes, isSpace byte = false) →
      bytes.dropWhile isSpace = bytes := by
    intro bytes noSpace
    cases bytes with
    | nil => rfl
    | cons byte rest => rw [List.dropWhile_cons, noSpace byte List.mem_cons_self, if_neg Bool.false_ne_true]
  rw [strip, keeps bytes noSpace,
    keeps bytes.reverse fun byte member => noSpace byte (List.mem_reverse.mp member),
    List.reverse_reverse]

theorem pyInt_strNat (value : Nat) : pyInt (strNat value) = some (Int.ofNat value) := by
  have digit : ∀ byte ∈ strNat value, 48 ≤ byte := fun byte member => (mem_strNat member).1
  have stripped : strip (strNat value) = strNat value :=
    strip_of_no_space fun byte member =>
      not_isSpace_of_le (UInt8.le_trans (by decide) (digit byte member))
  rw [pyInt, stripped]
  split
  next digits same => exact absurd (digit 43 (same ▸ List.mem_cons_self)) (by decide)
  next digits same => exact absurd (digit 45 (same ▸ List.mem_cons_self)) (by decide)
  next => rw [digitsValue_strNat, Option.map_some]

/-- **Numbers are read back.** -/
theorem pyInt_strInt (value : Int) : pyInt (strInt value) = some value := by
  cases value with
  | ofNat value => exact pyInt_strNat value
  | negSucc value =>
      have stripped : strip (45 :: strNat (value + 1)) = 45 :: strNat (value + 1) := by
        refine strip_of_no_space fun byte member => not_isSpace_of_le ?_
        rcases List.mem_cons.mp member with rfl | member
        · exact UInt8.le_refl _
        · exact UInt8.le_trans (by decide) (mem_strNat member).1
      rw [strInt, pyInt, stripped]
      simp only [digitsValue_strNat, Option.map_some]
      rfl

/-! ## Texts -/

/-- `encode("UTF-8")` -/
def utf8Encode (text : String) : Bytes := text.toList.flatMap String.utf8EncodeChar

/-- What a first byte begins. -/
theorem firstByte_one {value : Nat} (small : value < 128) :
    firstByte (UInt8.ofNat value) = ([Char.ofNat value], none) := by
  have each : ∀ value < 128, firstByte (UInt8.ofNat value) = ([Char.ofNat value], none) := by decide
  exact each value small

theorem firstByte_two {value : Nat} (low : 2 ≤ value) (small : value < 32) :
    firstByte (UInt8.ofNat (value + 0xc0)) = ([], some ⟨1, 0x80, 0xbf, value⟩) := by
  have each : ∀ value < 32, 2 ≤ value →
      firstByte (UInt8.ofNat (value + 0xc0)) = ([], some ⟨1, 0x80, 0xbf, value⟩) := by decide
  exact each value small low

theorem firstByte_three {value : Nat} (small : value < 16) :
    firstByte (UInt8.ofNat (value + 0xe0)) = ([], some ⟨2, if value = 0 then 0xa0 else 0x80,
      if value = 13 then 0x9f else 0xbf, value⟩) := by
  have each : ∀ value < 16, firstByte (UInt8.ofNat (value + 0xe0)) =
      ([], some ⟨2, if value = 0 then 0xa0 else 0x80, if value = 13 then 0x9f else 0xbf, value⟩) := by
    decide
  exact each value small

theorem firstByte_four {value : Nat} (small : value < 5) :
    firstByte (UInt8.ofNat (value + 0xf0)) = ([], some ⟨3, if value = 0 then 0x90 else 0x80,
      if value = 4 then 0x8f else 0xbf, value⟩) := by
  have each : ∀ value < 5, firstByte (UInt8.ofNat (value + 0xf0)) =
      ([], some ⟨3, if value = 0 then 0x90 else 0x80, if value = 4 then 0x8f else 0xbf, value⟩) := by
    decide
  exact each value small

/-- A further byte in the range that is expected. -/
theorem decodeFrom_tail {tails value bits : Nat} {low high : UInt8} {rest : Bytes}
    (small : bits < 64) (above : low.toNat ≤ bits + 0x80) (below : bits + 0x80 ≤ high.toNat) :
    decodeFrom (some ⟨tails, low, high, value⟩) (UInt8.ofNat (bits + 0x80) :: rest) =
      if tails ≤ 1 then Char.ofNat (64 * value + bits) :: decodeFrom none rest
      else decodeFrom (some ⟨tails - 1, 0x80, 0xbf, 64 * value + bits⟩) rest := by
  have toNat : (UInt8.ofNat (bits + 0x80)).toNat = bits + 0x80 :=
    UInt8.toNat_ofNat_of_lt' (by simp [UInt8.size]; omega)
  have inRange : (low ≤ UInt8.ofNat (bits + 0x80) && UInt8.ofNat (bits + 0x80) ≤ high) = true := by
    simp only [UInt8.le_iff_toNat_le, toNat, above, below, decide_true, Bool.and_self]
  rw [decodeFrom, if_pos inRange, toNat, Nat.add_sub_cancel]

theorem decodeFrom_first {byte : UInt8} {begun : Partial} {rest : Bytes}
    (first : firstByte byte = ([], some begun)) :
    decodeFrom none (byte :: rest) = decodeFrom (some begun) rest := by
  rw [decodeFrom, first]
  rfl

/-- A character is read back. -/
theorem decodeFrom_utf8EncodeChar (char : Char) (rest : Bytes) :
    decodeFrom none (String.utf8EncodeChar char ++ rest) = char :: decodeFrom none rest := by
  have back : Char.ofNat char.val.toNat = char := Char.ofNat_toNat char
  have valid : char.val.toNat < 0xd800 ∨ 0xdfff < char.val.toNat ∧ char.val.toNat < 0x110000 :=
    char.valid
  unfold String.utf8EncodeChar
  generalize char.val.toNat = value at back valid ⊢
  dsimp only
  split
  next =>
    rw [List.singleton_append, decodeFrom, firstByte_one (by omega), back]
    rfl
  next =>
    split
    next =>
      rw [List.cons_append, List.singleton_append,
        decodeFrom_first (firstByte_two (by omega) (by omega)),
        decodeFrom_tail (by omega) (by simp) (by simp; omega), if_pos (by decide)]
      congr 1
      rw [← back]
      congr 1
      omega
    next =>
      split
      next =>
        have low : (if value / 4096 % 16 = 0 then (0xa0 : UInt8) else 0x80).toNat ≤
            value / 64 % 64 + 0x80 := by
          split <;> simp
          omega
        have high : value / 64 % 64 + 0x80 ≤
            (if value / 4096 % 16 = 13 then (0x9f : UInt8) else 0xbf).toNat := by
          split <;> simp <;> omega
        rw [List.cons_append, List.cons_append, List.singleton_append,
          decodeFrom_first (firstByte_three (by omega)), decodeFrom_tail (by omega) low high,
          if_neg (by decide), decodeFrom_tail (by omega) (by simp) (by simp; omega),
          if_pos (by decide)]
        congr 1
        rw [← back]
        congr 1
        omega
      next =>
        have low : (if value / 262144 % 8 = 0 then (0x90 : UInt8) else 0x80).toNat ≤
            value / 4096 % 64 + 0x80 := by
          split <;> simp
          omega
        have high : value / 4096 % 64 + 0x80 ≤
            (if value / 262144 % 8 = 4 then (0x8f : UInt8) else 0xbf).toNat := by
          split <;> simp <;> omega
        rw [List.cons_append, List.cons_append, List.cons_append, List.singleton_append,
          decodeFrom_first (firstByte_four (by omega)), decodeFrom_tail (by omega) low high,
          if_neg (by decide), decodeFrom_tail (by omega) (by simp) (by simp; omega),
          if_neg (by decide), decodeFrom_tail (by omega) (by simp) (by simp; omega),
          if_pos (by decide)]
        congr 1
        rw [← back]
        congr 1
        omega

/-- **Texts are read back.** -/
theorem utf8Decode_encode (text : String) : utf8Decode (utf8Encode text) = text := by
  have decoded : ∀ chars : List Char,
      decodeFrom none (chars.flatMap String.utf8EncodeChar) = chars := by
    intro chars
    induction chars with
    | nil => rfl
    | cons char chars ih => rw [List.flatMap_cons, decodeFrom_utf8EncodeChar, ih]
  rw [utf8Decode, utf8Encode, decoded, String.ofList_toList]

end Faucet.Lldp
