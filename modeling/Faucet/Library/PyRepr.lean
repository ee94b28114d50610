import Mathlib

/-!
# Printed values

The text of nested tuples and dictionaries of strings, numbers and booleans, as a dynamic language
prints them: strings in quotes with escapes, tuples in parentheses, dictionaries in
braces. Which characters are printable is a parameter. A text is that of one value only
(`repr_injective`), also when something else follows it (`repr_append`).
-/

set_option autoImplicit false

namespace PyRepr

/-! ## Printing -/

/-- A value that is printed. -/
inductive Literal where
  | none
  | bool (value : Bool)
  | int (value : ℤ)
  | str (text : String)
  | tuple (values : List Literal)
  | dict (entries : List (String × Literal))

/-- The last hexadecimal digits of a number, the most significant first. -/
def hexDigits : ℕ → ℕ → List Char
  | 0, _ => []
  | width + 1, number => hexDigits width (number / 16) ++ [Nat.digitChar (number % 16)]

variable (printable : Char → Bool)

/-- A character between quotes. -/
def escapeChar (quote c : Char) : List Char :=
  if c = quote ∨ c = '\\' then ['\\', c]
  else if c = '\t' then ['\\', 't']
  else if c = '\n' then ['\\', 'n']
  else if c = '\r' then ['\\', 'r']
  else if printable c then [c]
  else if c.toNat ≤ 0xff then '\\' :: 'x' :: hexDigits 2 c.toNat
  else if c.toNat ≤ 0xffff then '\\' :: 'u' :: hexDigits 4 c.toNat
  else '\\' :: 'U' :: hexDigits 8 c.toNat

/-- Single quotes, unless the text has some and no double quotes. -/
def quoteOf (text : List Char) : Char := if '\'' ∈ text ∧ '"' ∉ text then '"' else '\''

/-- `repr` of a string. -/
def reprStr (text : String) : List Char :=
  quoteOf text.toList ::
    (text.toList.flatMap (escapeChar printable (quoteOf text.toList)) ++ [quoteOf text.toList])

/-- `repr` of an integer. -/
def reprInt : ℤ → List Char
  | .ofNat value => Nat.toDigits 10 value
  | .negSucc value => '-' :: Nat.toDigits 10 (value + 1)

mutual

/-- `repr` of a literal. -/
def Literal.repr : Literal → List Char
  | .none => ['N', 'o', 'n', 'e']
  | .bool true => ['T', 'r', 'u', 'e']
  | .bool false => ['F', 'a', 'l', 's', 'e']
  | .int value => reprInt value
  | .str text => reprStr printable text
  | .tuple [] => ['(', ')']
  | .tuple [value] => '(' :: (value.repr ++ [',', ')'])
  | .tuple (value :: next :: rest) =>
      '(' :: (value.repr ++ (',' :: ' ' :: (next.repr ++ (reprRest rest ++ [')']))))
  | .dict [] => ['{', '}']
  | .dict ((key, value) :: rest) =>
      '{' :: (reprStr printable key ++ (':' :: ' ' :: (value.repr ++ (reprEntries rest ++ ['}']))))

/-- The values after others in a tuple. -/
def reprRest : List Literal → List Char
  | [] => []
  | value :: rest => ',' :: ' ' :: (value.repr ++ reprRest rest)

/-- The entries after others in a dictionary. -/
def reprEntries : List (String × Literal) → List Char
  | [] => []
  | (key, value) :: rest =>
      ',' :: ' ' :: (reprStr printable key ++ (':' :: ' ' :: (value.repr ++ reprEntries rest)))

end

/-! ## Reading characters back -/

/-- The value of a hexadecimal digit. -/
def hexValue (digit : Char) : ℕ :=
  if digit.toNat < 58 then digit.toNat - 48 else digit.toNat - 87

/-- The number that hexadecimal digits write. -/
def readHex (digits : List Char) : ℕ :=
  digits.foldl (fun number digit => 16 * number + hexValue digit) 0

/-- The first character between the quotes, and what follows. -/
def readChar : List Char → Char × List Char
  | '\\' :: 't' :: rest => ('\t', rest)
  | '\\' :: 'n' :: rest => ('\n', rest)
  | '\\' :: 'r' :: rest => ('\r', rest)
  | '\\' :: 'x' :: rest => (Char.ofNat (readHex (rest.take 2)), rest.drop 2)
  | '\\' :: 'u' :: rest => (Char.ofNat (readHex (rest.take 4)), rest.drop 4)
  | '\\' :: 'U' :: rest => (Char.ofNat (readHex (rest.take 8)), rest.drop 8)
  | '\\' :: c :: rest => (c, rest)
  | c :: rest => (c, rest)
  | [] => ('\x00', [])

theorem hexValue_digitChar : ∀ digit < 16, hexValue (Nat.digitChar digit) = digit := by decide

theorem length_hexDigits (width number : ℕ) : (hexDigits width number).length = width := by
  induction width generalizing number with
  | zero => rfl
  | succ width ih => simp [hexDigits, ih]

theorem readHex_hexDigits (width number : ℕ) :
    readHex (hexDigits width number) = number % 16 ^ width := by
  induction width generalizing number with
  | zero => simp [hexDigits, readHex, Nat.mod_one]
  | succ width ih =>
      have before := ih (number / 16)
      rw [readHex] at before
      rw [hexDigits, readHex, List.foldl_append, before, List.foldl_cons, List.foldl_nil,
        hexValue_digitChar _ (Nat.mod_lt _ (by omega)), Nat.pow_succ, Nat.mul_comm (16 ^ width),
        Nat.mod_mul]
      omega

/-- A character that stands for itself. -/
theorem readChar_of_ne {c : Char} (notEscape : c ≠ '\\') (rest : List Char) :
    readChar (c :: rest) = (c, rest) := by
  unfold readChar
  split
  all_goals simp_all

theorem readHex_append {width number : ℕ} (fits : number < 16 ^ width) (rest : List Char) :
    readHex ((hexDigits width number ++ rest).take width) = number ∧
      (hexDigits width number ++ rest).drop width = rest := by
  have first : (hexDigits width number ++ rest).take width = hexDigits width number := by
    rw [List.take_left' (length_hexDigits width number)]
  rw [first, readHex_hexDigits, Nat.mod_eq_of_lt fits, List.drop_left' (length_hexDigits width number)]
  exact ⟨rfl, rfl⟩

/-- What has been escaped is read back. -/
theorem readChar_escapeChar {quote : Char} (isQuote : quote = '\'' ∨ quote = '"') (c : Char)
    (rest : List Char) : readChar (escapeChar printable quote c ++ rest) = (c, rest) := by
  rw [escapeChar]
  split
  next special =>
    rcases special with rfl | rfl
    · rcases isQuote with rfl | rfl <;> rfl
    · rfl
  next notSpecial =>
    split
    next same => rw [same]; rfl
    next =>
      split
      next same => rw [same]; rfl
      next =>
        split
        next same => rw [same]; rfl
        next =>
          split
          next => exact readChar_of_ne (fun same => notSpecial (.inr same)) rest
          next =>
            split
            next fits =>
              obtain ⟨number, after⟩ := @readHex_append 2 c.toNat (by omega) rest
              rw [List.cons_append, List.cons_append, readChar, number, after, Char.ofNat_toNat]
            next =>
              split
              next fits =>
                obtain ⟨number, after⟩ := @readHex_append 4 c.toNat (by omega) rest
                rw [List.cons_append, List.cons_append, readChar, number, after, Char.ofNat_toNat]
              next =>
                have fits : c.toNat < 16 ^ 8 := by
                  have valid := c.valid
                  simp only [UInt32.isValidChar, Nat.isValidChar] at valid
                  simp only [Char.toNat]
                  omega
                obtain ⟨number, after⟩ := @readHex_append 8 c.toNat fits rest
                rw [List.cons_append, List.cons_append, readChar, number, after, Char.ofNat_toNat]

/-! ## Strings -/

variable {printable}

theorem quoteOf_cases (text : List Char) : quoteOf text = '\'' ∨ quoteOf text = '"' := by
  rw [quoteOf]
  split
  · exact .inr rfl
  · exact .inl rfl

/-- No character is written as the quote that ends the text. -/
theorem escapeChar_cons {quote : Char} (isQuote : quote = '\'' ∨ quote = '"') (c : Char) :
    ∃ first rest, escapeChar printable quote c = first :: rest ∧ first ≠ quote := by
  have escapes : '\\' ≠ quote := by rcases isQuote with rfl | rfl <;> decide
  rw [escapeChar]
  split
  · exact ⟨_, _, rfl, escapes⟩
  next notSpecial =>
    split
    · exact ⟨_, _, rfl, escapes⟩
    · split
      · exact ⟨_, _, rfl, escapes⟩
      · split
        · exact ⟨_, _, rfl, escapes⟩
        · split
          · exact ⟨_, _, rfl, fun same => notSpecial (.inl same)⟩
          · split
            · exact ⟨_, _, rfl, escapes⟩
            · split
              · exact ⟨_, _, rfl, escapes⟩
              · exact ⟨_, _, rfl, escapes⟩

theorem escape_append {quote : Char} (isQuote : quote = '\'' ∨ quote = '"') {text text' : List Char}
    {rest rest' : List Char}
    (same : text.flatMap (escapeChar printable quote) ++ quote :: rest =
      text'.flatMap (escapeChar printable quote) ++ quote :: rest') : text = text' ∧ rest = rest' := by
  induction text generalizing text' with
  | nil =>
      cases text' with
      | nil => exact ⟨rfl, (List.cons.inj same).2⟩
      | cons c' text' =>
          obtain ⟨first, others, written, notQuote⟩ := @escapeChar_cons printable quote isQuote c'
          rw [List.flatMap_nil, List.nil_append, List.flatMap_cons, written] at same
          exact absurd (List.cons.inj same).1.symm notQuote
  | cons c text ih =>
      cases text' with
      | nil =>
          obtain ⟨first, others, written, notQuote⟩ := @escapeChar_cons printable quote isQuote c
          rw [List.flatMap_nil, List.nil_append, List.flatMap_cons, written] at same
          exact absurd (List.cons.inj same).1 notQuote
      | cons c' text' =>
          rw [List.flatMap_cons, List.flatMap_cons, List.append_assoc, List.append_assoc] at same
          have read := congrArg readChar same
          rw [readChar_escapeChar printable isQuote, readChar_escapeChar printable isQuote] at read
          obtain ⟨rfl, others⟩ := Prod.ext_iff.mp read
          obtain ⟨rfl, after⟩ := ih others
          exact ⟨rfl, after⟩

theorem reprStr_append {text text' : String} {rest rest' : List Char}
    (same : reprStr printable text ++ rest = reprStr printable text' ++ rest') :
    text = text' ∧ rest = rest' := by
  rw [reprStr, reprStr, List.cons_append, List.cons_append, List.append_assoc, List.append_assoc]
    at same
  obtain ⟨sameQuote, same⟩ := List.cons.inj same
  rw [← sameQuote] at same
  obtain ⟨sameText, after⟩ := escape_append (quoteOf_cases _) same
  exact ⟨String.toList_inj.mp sameText, after⟩

/-! ## Numbers -/

/-- A number does not go on. -/
def Ends (rest : List Char) : Prop := ∀ c ∈ rest.head?, c.isDigit = false

theorem digits_append {number number' : ℕ} {rest rest' : List Char} (ends : Ends rest)
    (ends' : Ends rest')
    (same : Nat.toDigits 10 number ++ rest = Nat.toDigits 10 number' ++ rest') :
    number = number' ∧ rest = rest' := by
  have isDigit : ∀ number, ∀ c ∈ Nat.toDigits 10 number, c.isDigit = true :=
    fun number c member => Nat.isDigit_of_mem_toDigits (by omega) (by omega) member
  have noDigits : ∀ {rest : List Char}, Ends rest → rest.takeWhile Char.isDigit = [] := by
    intro rest ends
    cases rest with
    | nil => rfl
    | cons c others => rw [List.takeWhile_cons, ends c rfl, if_neg Bool.false_ne_true]
  have digits := congrArg (List.takeWhile Char.isDigit) same
  rw [List.takeWhile_append_of_pos (isDigit number), List.takeWhile_append_of_pos (isDigit number'),
    noDigits ends, noDigits ends', List.append_nil, List.append_nil] at digits
  have sameNumber := congrArg (Nat.ofDigitChars 10 · 0) digits
  simp only [Nat.ofDigitChars_ten_toDigits] at sameNumber
  rw [digits] at same
  exact ⟨sameNumber, List.append_cancel_left same⟩

/-- A number starts with a digit or a minus sign. -/
theorem reprInt_cons (value : ℤ) :
    ∃ first rest, reprInt value = first :: rest ∧ (first = '-' ∨ first.isDigit = true) := by
  cases value with
  | negSucc value => exact ⟨_, _, rfl, .inl rfl⟩
  | ofNat value =>
      rw [reprInt]
      cases digits : Nat.toDigits 10 value with
      | nil => exact absurd digits Nat.toDigits_ne_nil
      | cons first rest =>
          refine ⟨_, _, rfl, .inr ?_⟩
          have member : first ∈ Nat.toDigits 10 value := digits ▸ List.mem_cons_self
          exact Nat.isDigit_of_mem_toDigits (by omega) (by omega) member

theorem reprInt_append {value value' : ℤ} {rest rest' : List Char} (ends : Ends rest)
    (ends' : Ends rest') (same : reprInt value ++ rest = reprInt value' ++ rest') :
    value = value' ∧ rest = rest' := by
  have notMinus : ∀ number : ℕ, ∀ others rest : List Char,
      Nat.toDigits 10 number ++ others ≠ '-' :: rest := by
    intro number others rest same
    obtain ⟨first, digits, written, isMinus | isDigit⟩ := reprInt_cons number
    · have member : first ∈ Nat.toDigits 10 number := by
        rw [show Nat.toDigits 10 number = first :: digits from written]
        exact List.mem_cons_self
      have isDigit := Nat.isDigit_of_mem_toDigits (by omega) (by omega) member
      rw [isMinus] at isDigit
      exact absurd isDigit (by decide)
    · rw [show Nat.toDigits 10 number = first :: digits from written] at same
      rw [(List.cons.inj same).1] at isDigit
      exact absurd isDigit (by decide)
  cases value with
  | ofNat number =>
      cases value' with
      | ofNat number' =>
          obtain ⟨rfl, after⟩ := digits_append ends ends' same
          exact ⟨rfl, after⟩
      | negSucc number' => exact absurd same (notMinus _ _ _)
  | negSucc number =>
      cases value' with
      | ofNat number' => exact absurd same.symm (notMinus _ _ _)
      | negSucc number' =>
          obtain ⟨sameNumber, after⟩ := digits_append ends ends' (List.cons.inj same).2
          obtain rfl : number = number' := by omega
          exact ⟨rfl, after⟩

/-! ## Values -/

/-- What kind of value starts with a character. -/
def kindOf (first : Char) : ℕ :=
  if first = 'N' then 0 else if first = 'T' then 1 else if first = 'F' then 2
  else if first = '(' then 4 else if first = '{' then 5
  else if first = '\'' ∨ first = '"' then 6 else if first = ')' then 7 else 3

/-- The constructor of a literal, as a number. -/
def Literal.kind : Literal → ℕ
  | .none => 0
  | .bool true => 1
  | .bool false => 2
  | .int _ => 3
  | .tuple _ => 4
  | .dict _ => 5
  | .str _ => 6

/-- The first character tells the kind. -/
theorem repr_cons (value : Literal) :
    ∃ first rest, value.repr printable = first :: rest ∧ kindOf first = value.kind := by
  cases value with
  | none => exact ⟨_, _, rfl, rfl⟩
  | bool value => cases value <;> exact ⟨_, _, rfl, rfl⟩
  | int value =>
      obtain ⟨first, rest, written, starts⟩ := reprInt_cons value
      refine ⟨first, rest, written, ?_⟩
      have others : ∀ c ∈ ['N', 'T', 'F', '(', '{', '\'', '"', ')'], first ≠ c := by
        rintro c member rfl
        rcases starts with rfl | isDigit
        · simp at member
        · simp only [List.mem_cons, List.not_mem_nil, or_false] at member
          rcases member with rfl | rfl | rfl | rfl | rfl | rfl | rfl | rfl <;>
            exact absurd isDigit (by decide)
      simp only [List.forall_mem_cons] at others
      obtain ⟨noN, noT, noF, noParen, noBrace, noQuote, noDouble, noClose, _⟩ := others
      simp [kindOf, Literal.kind, noN, noT, noF, noParen, noBrace, noQuote, noDouble, noClose]
  | str text =>
      refine ⟨_, _, rfl, ?_⟩
      rcases quoteOf_cases text.toList with same | same
      · rw [same]
        rfl
      · rw [same]
        rfl
  | tuple values =>
      match values with
      | [] => exact ⟨_, _, rfl, rfl⟩
      | [value] => exact ⟨_, _, rfl, rfl⟩
      | value :: next :: rest => exact ⟨_, _, rfl, rfl⟩
  | dict entries =>
      match entries with
      | [] => exact ⟨_, _, rfl, rfl⟩
      | (key, value) :: rest => exact ⟨_, _, rfl, rfl⟩

theorem kind_eq {value value' : Literal} {rest rest' : List Char}
    (same : value.repr printable ++ rest = value'.repr printable ++ rest') :
    value.kind = value'.kind := by
  obtain ⟨first, others, written, isKind⟩ := @repr_cons printable value
  obtain ⟨first', others', written', isKind'⟩ := @repr_cons printable value'
  rw [written, written', List.cons_append, List.cons_append] at same
  rw [← isKind, ← isKind', (List.cons.inj same).1]

theorem ends_cons {c : Char} (notDigit : c.isDigit = false) (rest : List Char) : Ends (c :: rest) := by
  rintro c' ⟨⟩
  exact notDigit

/-- What follows the first value of a tuple. -/
def reprTail (printable : Char → Bool) : List Literal → List Char
  | [] => [',', ')']
  | value :: rest => reprRest printable (value :: rest) ++ [')']

theorem repr_tuple (value : Literal) (rest : List Literal) :
    (Literal.tuple (value :: rest)).repr printable =
      '(' :: (value.repr printable ++ reprTail printable rest) := by
  cases rest with
  | nil => rfl
  | cons next rest => simp [Literal.repr, reprTail, reprRest]

theorem ends_reprTail (values : List Literal) (rest : List Char) :
    Ends (reprTail printable values ++ rest) := by
  cases values with
  | nil => exact ends_cons (by decide) _
  | cons value others => exact ends_cons (by decide) _

theorem ends_reprRest (values : List Literal) (rest : List Char) :
    Ends (reprRest printable values ++ ')' :: rest) := by
  cases values with
  | nil => exact ends_cons (by decide) _
  | cons value others => exact ends_cons (by decide) _

theorem ends_reprEntries (entries : List (String × Literal)) (rest : List Char) :
    Ends (reprEntries printable entries ++ '}' :: rest) := by
  cases entries with
  | nil => exact ends_cons (by decide) _
  | cons entry others => exact ends_cons (by decide) _

/-- No value starts with the end of a tuple. -/
theorem repr_ne_close {value : Literal} {others rest : List Char} :
    value.repr printable ++ others ≠ ')' :: rest := by
  obtain ⟨first, after, written, isKind⟩ := @repr_cons printable value
  rw [written, List.cons_append]
  intro same
  rw [(List.cons.inj same).1] at isKind
  have isKind : 7 = value.kind := isKind
  cases value with
  | bool value => cases value <;> simp [Literal.kind] at isKind
  | _ => simp [Literal.kind] at isKind

mutual

/-- **A text starts with one value only**, if what follows does not go on with a number. -/
theorem repr_append : ∀ (value value' : Literal) {rest rest' : List Char}, Ends rest → Ends rest' →
    value.repr printable ++ rest = value'.repr printable ++ rest' → value = value' ∧ rest = rest'
  | .none, value', rest, rest', _, _, same => by
      have sameKind := kind_eq same
      cases value' with
      | none => exact ⟨rfl, List.append_cancel_left same⟩
      | bool value => cases value <;> simp [Literal.kind] at sameKind
      | _ => simp [Literal.kind] at sameKind
  | .bool true, value', rest, rest', _, _, same => by
      have sameKind := kind_eq same
      cases value' with
      | bool value =>
          cases value with
          | true => exact ⟨rfl, List.append_cancel_left same⟩
          | false => simp [Literal.kind] at sameKind
      | _ => simp [Literal.kind] at sameKind
  | .bool false, value', rest, rest', _, _, same => by
      have sameKind := kind_eq same
      cases value' with
      | bool value =>
          cases value with
          | true => simp [Literal.kind] at sameKind
          | false => exact ⟨rfl, List.append_cancel_left same⟩
      | _ => simp [Literal.kind] at sameKind
  | .int value, value', rest, rest', ends, ends', same => by
      have sameKind := kind_eq same
      cases value' with
      | int value' =>
          obtain ⟨rfl, after⟩ := reprInt_append ends ends' same
          exact ⟨rfl, after⟩
      | bool value => cases value <;> simp [Literal.kind] at sameKind
      | _ => simp [Literal.kind] at sameKind
  | .str text, value', rest, rest', _, _, same => by
      have sameKind := kind_eq same
      cases value' with
      | str text' =>
          obtain ⟨rfl, after⟩ := reprStr_append same
          exact ⟨rfl, after⟩
      | bool value => cases value <;> simp [Literal.kind] at sameKind
      | _ => simp [Literal.kind] at sameKind
  | .tuple [], value', rest, rest', _, _, same => by
      have sameKind := kind_eq same
      cases value' with
      | tuple values' =>
          cases values' with
          | nil => exact ⟨rfl, List.append_cancel_left same⟩
          | cons value' others' =>
              rw [repr_tuple, List.cons_append, List.append_assoc] at same
              exact absurd (List.cons.inj same).2.symm repr_ne_close
      | bool value => cases value <;> simp [Literal.kind] at sameKind
      | _ => simp [Literal.kind] at sameKind
  | .tuple (value :: others), value', rest, rest', _, _, same => by
      have sameKind := kind_eq same
      cases value' with
      | tuple values' =>
          cases values' with
          | nil =>
              rw [repr_tuple, List.cons_append, List.append_assoc] at same
              exact absurd (List.cons.inj same).2 repr_ne_close
          | cons value' others' =>
              rw [repr_tuple, repr_tuple, List.cons_append, List.cons_append, List.append_assoc,
                List.append_assoc] at same
              obtain ⟨rfl, after⟩ := repr_append value value' (ends_reprTail others rest)
                (ends_reprTail others' rest') (List.cons.inj same).2
              cases others with
              | nil =>
                  cases others' with
                  | nil => exact ⟨rfl, List.append_cancel_left after⟩
                  | cons next' others' =>
                      have second := (List.cons.inj (List.cons.inj after).2).1
                      exact absurd second (by decide)
              | cons next others =>
                  cases others' with
                  | nil =>
                      have second := (List.cons.inj (List.cons.inj after).2).1
                      exact absurd second (by decide)
                  | cons next' others' =>
                      rw [reprTail, reprTail, List.append_assoc, List.append_assoc] at after
                      obtain ⟨sameOthers, last⟩ := reprRest_append (next :: others)
                        (next' :: others') after
                      exact ⟨by rw [sameOthers], last⟩
      | bool value => cases value <;> simp [Literal.kind] at sameKind
      | _ => simp [Literal.kind] at sameKind
  | .dict [], value', rest, rest', _, _, same => by
      have sameKind := kind_eq same
      cases value' with
      | dict entries' =>
          cases entries' with
          | nil => exact ⟨rfl, List.append_cancel_left same⟩
          | cons entry' others' =>
              obtain ⟨key', value'⟩ := entry'
              have second : '}' = quoteOf key'.toList :=
                (List.cons.inj (List.cons.inj same).2).1
              rcases quoteOf_cases key'.toList with isQuote | isQuote
              · rw [isQuote] at second
                exact absurd second (by decide)
              · rw [isQuote] at second
                exact absurd second (by decide)
      | bool value => cases value <;> simp [Literal.kind] at sameKind
      | _ => simp [Literal.kind] at sameKind
  | .dict ((key, value) :: others), value', rest, rest', _, _, same => by
      have sameKind := kind_eq same
      cases value' with
      | dict entries' =>
          cases entries' with
          | nil =>
              have second : quoteOf key.toList = '}' :=
                (List.cons.inj (List.cons.inj same).2).1
              rcases quoteOf_cases key.toList with isQuote | isQuote
              · rw [isQuote] at second
                exact absurd second (by decide)
              · rw [isQuote] at second
                exact absurd second (by decide)
          | cons entry' others' =>
              obtain ⟨key', value'⟩ := entry'
              rw [Literal.repr, Literal.repr] at same
              simp only [List.cons_append, List.append_assoc, List.cons.injEq, true_and,
                List.nil_append] at same
              obtain ⟨rfl, afterKey⟩ := reprStr_append same
              obtain ⟨rfl, afterValue⟩ := repr_append value value' (ends_reprEntries others rest)
                (ends_reprEntries others' rest') (List.cons.inj (List.cons.inj afterKey).2).2
              obtain ⟨rfl, after⟩ := reprEntries_append others others' afterValue
              exact ⟨rfl, after⟩
      | bool value => cases value <;> simp [Literal.kind] at sameKind
      | _ => simp [Literal.kind] at sameKind

theorem reprRest_append : ∀ (values values' : List Literal) {rest rest' : List Char},
    reprRest printable values ++ ')' :: rest = reprRest printable values' ++ ')' :: rest' →
      values = values' ∧ rest = rest'
  | [], [], rest, rest', same => ⟨rfl, (List.cons.inj same).2⟩
  | [], value' :: others', rest, rest', same => by
      have first := (List.cons.inj same).1
      exact absurd first (by decide)
  | value :: others, [], rest, rest', same => by
      have first := (List.cons.inj same).1
      exact absurd first (by decide)
  | value :: others, value' :: others', rest, rest', same => by
      rw [reprRest, reprRest] at same
      simp only [List.cons_append, List.append_assoc, List.cons.injEq, true_and] at same
      obtain ⟨rfl, afterValue⟩ := repr_append value value' (ends_reprRest others rest)
        (ends_reprRest others' rest') same
      obtain ⟨rfl, after⟩ := reprRest_append others others' afterValue
      exact ⟨rfl, after⟩

theorem reprEntries_append : ∀ (entries entries' : List (String × Literal)) {rest rest' : List Char},
    reprEntries printable entries ++ '}' :: rest = reprEntries printable entries' ++ '}' :: rest' →
      entries = entries' ∧ rest = rest'
  | [], [], rest, rest', same => ⟨rfl, (List.cons.inj same).2⟩
  | [], entry' :: others', rest, rest', same => by
      have first := (List.cons.inj same).1
      exact absurd first (by decide)
  | entry :: others, [], rest, rest', same => by
      have first := (List.cons.inj same).1
      exact absurd first (by decide)
  | (key, value) :: others, (key', value') :: others', rest, rest', same => by
      rw [reprEntries, reprEntries] at same
      simp only [List.cons_append, List.append_assoc, List.cons.injEq, true_and] at same
      obtain ⟨rfl, afterKey⟩ := reprStr_append same
      obtain ⟨rfl, afterValue⟩ := repr_append value value' (ends_reprEntries others rest)
        (ends_reprEntries others' rest') (List.cons.inj (List.cons.inj afterKey).2).2
      obtain ⟨rfl, after⟩ := reprEntries_append others others' afterValue
      exact ⟨rfl, after⟩

end

/-- **The text of a value is that of no other value.** -/
theorem repr_injective : Function.Injective (Literal.repr printable) := by
  intro value value' same
  have noRest : Ends [] := nofun
  have same : value.repr printable ++ [] = value'.repr printable ++ [] := by rw [same]
  exact (repr_append value value' noRest noRest same).1

end PyRepr
