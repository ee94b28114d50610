import Faucet.Library.Scan

/-!
# Interface ranges

A key of `interface_ranges` lists numbers and ranges of ports, `1-6,8-9,11`. The ranges are found
by a regular expression, and the text of each is taken out of the key before the other numbers are
read. It is taken out wherever it occurs, so also from the middle of another range: the digits left
of that range are then read as one number (`ranges_exact_iff`).
-/

set_option autoImplicit false

namespace Faucet.Config

open Scan (Matcher)

/-! ## Texts -/

/-- `int` of decimal digits. -/
def intOf (digits : List Char) : ℕ :=
  digits.foldl (fun value digit => 10 * value + (digit.toNat - '0'.toNat)) 0

/-- `\d+` -/
def digitRun : Matcher Char (List Char) where
  run text :=
    if text.takeWhile Char.isDigit = [] then none
    else some (text.takeWhile Char.isDigit, text.dropWhile Char.isDigit)
  shrinks := by
    intro text found rest matched
    split at matched
    next => cases matched
    next some_digit =>
      cases matched
      have whole := congrArg List.length
        (List.takeWhile_append_dropWhile (p := Char.isDigit) (l := text))
      have positive := List.length_pos_of_ne_nil some_digit
      rw [List.length_append] at whole
      omega

/-- `\d+-\d+`, with the two numbers. -/
def digitRange : Matcher Char (List Char × List Char) where
  run text :=
    match digitRun.run text with
    | some (start, '-' :: later) => (digitRun.run later).map fun stop => ((start, stop.1), stop.2)
    | _ => none
  shrinks := by
    intro text found rest matched
    split at matched
    next start later begun =>
      obtain ⟨stop, ended, same⟩ := Option.map_eq_some_iff.mp matched
      cases same
      have first := digitRun.shrinks begun
      have second := digitRun.shrinks ended
      rw [List.length_cons] at first
      omega
    next => cases matched

/-- A text without special characters, as a regular expression. -/
def literal (word : List Char) : Matcher Char Unit where
  run text :=
    if word ≠ [] ∧ word <+: text then some ((), text.drop word.length) else none
  shrinks := by
    intro text found rest matched
    split at matched
    next here =>
      cases matched
      have positive := List.length_pos_of_ne_nil here.1
      have within := here.2.length_le
      rw [List.length_drop]
      omega
    next => cases matched

/-- `range_`, of its two numbers. -/
def rangeText (range : List Char × List Char) : List Char := range.1 ++ '-' :: range.2

/-- Check the ranges one after the other, and take the text of each out of the key. -/
def takeRanges : List (List Char × List Char) → Finset ℕ → List Char →
    Except String (Finset ℕ × List Char)
  | [], portNums, portRange => .ok (portNums, portRange)
  | range :: rest, portNums, portRange =>
      let startNum := intOf range.1
      let endNum := intOf range.2
      if endNum ≤ startNum then .error s!"Incorrect port range ({startNum} - {endNum})"
      else takeRanges rest (portNums ∪ Finset.Icc startNum endNum)
        ((literal (rangeText range)).remove portRange)

/-- The ports of a key, in `_parse_port_ranges`. -/
def portNums (portRange : List Char) : Except String (Finset ℕ) := do
  let (ranged, portRange) ← takeRanges (digitRange.findall portRange) ∅ portRange
  let portNums := ranged ∪ ((digitRun.findall portRange).map intOf).toFinset
  if portNums = ∅ then .error "interface-ranges contain invalid config" else .ok portNums

/-! ## Lists of numbers and ranges -/

/-- A number as it is written. -/
structure Numeral where
  digits : List Char
  nonempty : digits ≠ []
  isDigit : ∀ digit ∈ digits, digit.isDigit = true

/-- An entry of a port range: a number, or a first and a last one. -/
inductive Entry where
  | number (value : Numeral)
  | range (start stop : Numeral)

namespace Entry

/-- The text of an entry. -/
def text : Entry → List Char
  | .number value => value.digits
  | .range start stop => rangeText (start.digits, stop.digits)

/-- The ports that the entry lists. -/
def ports : Entry → Finset ℕ
  | .number value => {intOf value.digits}
  | .range start stop => Finset.Icc (intOf start.digits) (intOf stop.digits)

/-- A range goes up. -/
def Ordered : Entry → Prop
  | .number _ => True
  | .range start stop => intOf start.digits < intOf stop.digits

/-- What `re.findall` finds of the entry. -/
def ranges : Entry → List (List Char × List Char)
  | .number _ => []
  | .range start stop => [(start.digits, stop.digits)]

end Entry

/-- What is left of a range when the text of another one is taken out of it, if it is in there: the
digits before and those after. -/
def cut (word range : List Char × List Char) : Option (List Char) :=
  if word.1 <:+ range.1 ∧ word.2 <+: range.2 then
    some (range.1.take (range.1.length - word.1.length) ++ range.2.drop word.2.length)
  else none

/-- The entries with commas between them. -/
def listText (entries : List Entry) : List Char := [','].intercalate (entries.map Entry.text)

/-! ## What the expressions find -/

section Digits

variable {digits later : List Char}

theorem takeWhile_digits (isDigit : ∀ digit ∈ digits, digit.isDigit = true)
    (stops : later.head?.all (!·.isDigit)) :
    (digits ++ later).takeWhile Char.isDigit = digits := by
  rw [List.takeWhile_append_of_pos isDigit]
  cases later with
  | nil => rw [List.takeWhile_nil, List.append_nil]
  | cons next later =>
      rw [List.takeWhile_cons_of_neg (by simpa using stops), List.append_nil]

theorem dropWhile_digits (isDigit : ∀ digit ∈ digits, digit.isDigit = true)
    (stops : later.head?.all (!·.isDigit)) :
    (digits ++ later).dropWhile Char.isDigit = later := by
  have whole := List.takeWhile_append_dropWhile (p := Char.isDigit) (l := digits ++ later)
  rw [takeWhile_digits isDigit stops] at whole
  exact List.append_cancel_left whole

theorem digitRun_of_digits (nonempty : digits ≠ [])
    (isDigit : ∀ digit ∈ digits, digit.isDigit = true) (stops : later.head?.all (!·.isDigit)) :
    digitRun.run (digits ++ later) = some (digits, later) := by
  simp only [digitRun]
  rw [takeWhile_digits isDigit stops, dropWhile_digits isDigit stops, if_neg nonempty]

theorem digitRange_of_dash {text start later : List Char}
    (begun : digitRun.run text = some (start, '-' :: later)) :
    digitRange.run text = (digitRun.run later).map fun stop => ((start, stop.1), stop.2) := by
  simp only [digitRange]
  rw [begun]
  rfl

theorem digitRange_of_other {text start later : List Char}
    (begun : digitRun.run text = some (start, later)) (other : later.head? ≠ some '-') :
    digitRange.run text = none := by
  simp only [digitRange]
  rw [begun]
  split
  next same =>
    cases same
    exact absurd rfl other
  next => rfl

theorem digitRange_of_none {text : List Char} (noDigits : digitRun.run text = none) :
    digitRange.run text = none := by
  simp only [digitRange]
  rw [noDigits]

theorem digitRun_apart {separator : Char} (noDigit : separator.isDigit = false) (later : List Char) :
    digitRun.run (separator :: later) = none := by
  simp only [digitRun]
  rw [List.takeWhile_cons_of_neg (by simp [noDigit]), if_pos rfl]

variable {separator : Char} (noDigit : separator.isDigit = false)
include noDigit

theorem takeWhile_separator (part later : List Char) :
    (part ++ separator :: later).takeWhile Char.isDigit = part.takeWhile Char.isDigit := by
  induction part with
  | nil => simp [noDigit]
  | cons letter part ih => simp only [List.cons_append, List.takeWhile_cons, ih]

theorem dropWhile_separator (part later : List Char) :
    (part ++ separator :: later).dropWhile Char.isDigit =
      part.dropWhile Char.isDigit ++ separator :: later := by
  induction part with
  | nil => simp [noDigit]
  | cons letter part ih =>
      simp only [List.cons_append, List.dropWhile_cons, ih]
      split <;> rfl

/-- A run of digits ends at a separator. -/
theorem digitRun_splitsAt : digitRun.SplitsAt separator := by
  refine ⟨digitRun_apart noDigit, fun part later _ => ?_, fun matched clear inside => ?_⟩
  · simp only [digitRun]
    rw [takeWhile_separator noDigit, dropWhile_separator noDigit]
    split <;> rfl
  · simp only [digitRun] at matched
    split at matched
    next => cases matched
    next =>
      cases matched
      exact clear ((List.dropWhile_sublist _).subset inside)

theorem digitRange_splitsAt (noDash : separator ≠ '-') : digitRange.SplitsAt separator := by
  have runs := digitRun_splitsAt noDigit
  refine ⟨fun later => digitRange_of_none (runs.apart later), fun part later clear => ?_,
    fun matched clear inside => ?_⟩
  · have whole := runs.within part later clear
    cases begun : digitRun.run part with
    | none =>
        rw [begun] at whole
        rw [digitRange_of_none whole, digitRange_of_none begun]
        rfl
    | some first =>
        obtain ⟨start, rest⟩ := first
        rw [begun] at whole
        by_cases dash : rest.head? = some '-'
        · obtain ⟨rest, rfl⟩ := List.head?_eq_some_iff.mp dash
          have clearRest : separator ∉ '-' :: rest := runs.rest begun clear
          rw [digitRange_of_dash whole, digitRange_of_dash begun]
          change Option.map _ (digitRun.run (rest ++ separator :: later)) = _
          rw [runs.within rest later (List.not_mem_of_not_mem_cons clearRest), Option.map_map,
            Option.map_map]
          rfl
        · have otherWhole : (rest ++ separator :: later).head? ≠ some '-' := by
            cases rest with
            | nil => simpa using noDash
            | cons letter rest => simpa using dash
          rw [digitRange_of_other whole otherWhole, digitRange_of_other begun dash]
          rfl
  · simp only [digitRange] at matched
    split at matched
    next start later begun =>
      obtain ⟨stop, ended, same⟩ := Option.map_eq_some_iff.mp matched
      cases same
      exact runs.rest ended (List.not_mem_of_not_mem_cons (runs.rest begun clear)) inside
    next => cases matched

end Digits

/-! ## Entries -/

section Entries

variable {digits : List Char}

theorem tokens_of_digits (isDigit : ∀ digit ∈ digits, digit.isDigit = true) :
    digitRange.tokens digits = digits.map .inr := by
  induction digits with
  | nil => rfl
  | cons digit digits ih =>
      have begun : digitRun.run (digit :: digits ++ []) = some (digit :: digits, []) :=
        digitRun_of_digits (List.cons_ne_nil _ _) isDigit rfl
      rw [List.append_nil] at begun
      rw [digitRange.tokens_of_none (digitRange_of_other begun nofun),
        ih fun digit member => isDigit digit (List.mem_cons_of_mem _ member), List.map_cons]

theorem findall_digitRun (isDigit : ∀ digit ∈ digits, digit.isDigit = true) :
    digitRun.findall digits = if digits = [] then [] else [digits] := by
  by_cases empty : digits = []
  · rw [empty]
    rfl
  · have begun : digitRun.run (digits ++ []) = some (digits, []) :=
      digitRun_of_digits empty isDigit rfl
    rw [List.append_nil] at begun
    rw [if_neg empty, Matcher.findall, digitRun.tokens_of_some begun, Matcher.tokens_nil]
    rfl

theorem Entry.findall_text (entry : Entry) : digitRange.findall entry.text = entry.ranges := by
  cases entry with
  | number value =>
      rw [Entry.text, Matcher.findall, tokens_of_digits value.isDigit, List.filterMap_map]
      exact List.filterMap_eq_nil_iff.mpr fun _ _ => rfl
  | range start stop =>
      have first : digitRun.run (start.digits ++ '-' :: stop.digits) =
          some (start.digits, '-' :: stop.digits) :=
        digitRun_of_digits start.nonempty start.isDigit rfl
      have second : digitRun.run (stop.digits ++ []) = some (stop.digits, []) :=
        digitRun_of_digits stop.nonempty stop.isDigit rfl
      rw [List.append_nil] at second
      have matched := digitRange_of_dash first
      rw [second] at matched
      rw [Entry.text, rangeText, Matcher.findall, digitRange.tokens_of_some matched,
        Matcher.tokens_nil]
      rfl

theorem Numeral.comma_not_mem (value : Numeral) : ',' ∉ value.digits := by
  intro member
  cases value.isDigit ',' member

theorem Numeral.dash_not_mem (value : Numeral) : '-' ∉ value.digits := by
  intro member
  cases value.isDigit '-' member

theorem Entry.comma_not_mem (entry : Entry) : ',' ∉ entry.text := by
  cases entry with
  | number value => exact value.comma_not_mem
  | range start stop =>
      rw [Entry.text, rangeText, List.mem_append, List.mem_cons]
      rintro (member | same | member)
      · exact start.comma_not_mem member
      · cases same
      · exact stop.comma_not_mem member

/-- The ranges of a list are found. -/
theorem findall_listText (entries : List Entry) :
    digitRange.findall (listText entries) = entries.flatMap Entry.ranges := by
  have clear : ∀ part ∈ entries.map Entry.text, ',' ∉ part := by
    intro part member
    obtain ⟨entry, _, rfl⟩ := List.mem_map.mp member
    exact entry.comma_not_mem
  rw [listText, (digitRange_splitsAt rfl (by decide)).findall_intercalate clear, List.map_map,
    List.flatMap]
  congr 2
  funext entry
  exact entry.findall_text

end Entries

/-! ## Taking out the text of a range -/

section Cut

variable {start stop first last text : List Char}

theorem rangeText_prefix (noDash : '-' ∉ start) (firstNoDash : '-' ∉ first) :
    rangeText (start, stop) <+: rangeText (first, last) ↔ start = first ∧ stop <+: last := by
  simp only [rangeText]
  induction start generalizing first with
  | nil =>
      cases first with
      | nil => simp
      | cons digit first =>
          have different : '-' ≠ digit := by
            rintro rfl
            exact firstNoDash List.mem_cons_self
          simp [List.cons_prefix_cons, different]
  | cons digit start ih =>
      cases first with
      | nil =>
          have different : digit ≠ '-' := by
            rintro rfl
            exact noDash List.mem_cons_self
          simp [List.cons_prefix_cons, different]
      | cons other first =>
          simp only [List.cons_append, List.cons_prefix_cons, List.cons.injEq]
          rw [ih (List.not_mem_of_not_mem_cons noDash) (List.not_mem_of_not_mem_cons firstNoDash),
            and_assoc]

variable {word : List Char × List Char}

theorem literal_of_not_mem (noDash : '-' ∉ text) : (literal (rangeText word)).run text = none := by
  simp only [literal]
  rw [if_neg]
  rintro ⟨_, within⟩
  refine noDash (within.subset ?_)
  simp [rangeText]

theorem literal_tokens (noDash : '-' ∉ text) :
    (literal (rangeText word)).tokens text = text.map .inr := by
  induction text with
  | nil => rfl
  | cons letter text ih =>
      rw [Matcher.tokens_of_none _ (literal_of_not_mem noDash),
        ih (List.not_mem_of_not_mem_cons noDash), List.map_cons]

theorem filterMap_inr (text : List Char) :
    (text.map (.inr : Char → Unit ⊕ Char)).filterMap Sum.getRight? = text := by
  rw [List.filterMap_map]
  exact List.filterMap_some

theorem remove_of_not_mem (noDash : '-' ∉ text) : (literal (rangeText word)).remove text = text := by
  rw [Matcher.remove, literal_tokens noDash, filterMap_inr]

theorem remove_cons {matcher : Matcher Char Unit} {letter : Char}
    (noMatch : matcher.run (letter :: text) = none) :
    matcher.remove (letter :: text) = letter :: matcher.remove text := by
  rw [Matcher.remove, matcher.tokens_of_none noMatch]
  rfl

/-- The text of a range is taken out of another one where it is within it. -/
theorem remove_rangeText (nonempty : word.1 ≠ []) (wordNoDash : '-' ∉ word.1)
    (noDash : '-' ∉ first) (lastNoDash : '-' ∉ last) :
    (literal (rangeText word)).remove (rangeText (first, last)) =
      (cut word (first, last)).getD (rangeText (first, last)) := by
  obtain ⟨start, stop⟩ := word
  have run : ∀ first, '-' ∉ first → (literal (rangeText (start, stop))).run
      (rangeText (first, last)) = if start = first ∧ stop <+: last then
        some ((), last.drop stop.length) else none := by
    intro first noDash
    have isText : rangeText (start, stop) ≠ [] := by simp [rangeText]
    simp only [literal, rangeText_prefix wordNoDash noDash, ne_eq, isText, not_false_eq_true,
      true_and]
    by_cases here : start = first ∧ stop <+: last
    · rw [if_pos here, if_pos here, here.1]
      simp [rangeText, List.drop_append]
    · rw [if_neg here, if_neg here]
  induction first with
  | nil =>
      have noMatch := run [] nofun
      rw [if_neg fun here => nonempty here.1] at noMatch
      have noCut : cut (start, stop) ([], last) = none := by
        refine if_neg fun here => nonempty ?_
        exact List.eq_nil_of_suffix_nil here.1
      rw [noCut]
      exact (remove_cons noMatch).trans (congrArg _ (remove_of_not_mem lastNoDash))
  | cons digit first ih =>
      by_cases here : start = digit :: first ∧ stop <+: last
      · have matched := run (digit :: first) noDash
        rw [if_pos here] at matched
        rw [Matcher.remove, Matcher.tokens_of_some _ matched]
        have isCut : cut (start, stop) (digit :: first, last) = some (last.drop stop.length) := by
          simp only [cut]
          rw [here.1, if_pos ⟨List.suffix_refl _, here.2⟩, Nat.sub_self, List.take_zero,
            List.nil_append]
        rw [isCut]
        refine remove_of_not_mem fun member => lastNoDash (List.mem_of_mem_drop member)
      · have noMatch := run (digit :: first) noDash
        rw [if_neg here] at noMatch
        have later := ih (List.not_mem_of_not_mem_cons noDash)
        have removed : (literal (rangeText (start, stop))).remove (rangeText (digit :: first, last)) =
            digit :: (literal (rangeText (start, stop))).remove (rangeText (first, last)) :=
          remove_cons noMatch
        rw [removed, later]
        simp only [cut, List.suffix_cons_iff]
        by_cases within : start <:+ first ∧ stop <+: last
        · have shorter := within.1.length_le
          rw [if_pos within, if_pos ⟨.inr within.1, within.2⟩, List.length_cons,
            Nat.succ_sub shorter]
          rfl
        · rw [if_neg within, if_neg]
          · rfl
          · rintro ⟨same | suffix, isPrefix⟩
            · exact here ⟨same, isPrefix⟩
            · exact within ⟨suffix, isPrefix⟩

end Cut

/-! ## The loop -/

section Loop

variable {word : List Char × List Char} {words : List (List Char × List Char)}
  {separator : Char} {startNum endNum : ℕ}

theorem literal_splitsAt {word : List Char} (clear : separator ∉ word) :
    (literal word).SplitsAt separator := by
  have isPrefix : ∀ part later, separator ∉ part →
      (word <+: part ++ separator :: later ↔ word <+: part) := by
    intro part later apart
    refine ⟨fun whole => ?_, fun within => within.trans (List.prefix_append _ _)⟩
    rcases List.prefix_or_prefix_of_prefix whole (List.prefix_append part _) with within | beyond
    · exact within
    · obtain ⟨rest, rfl⟩ := beyond
      have restWhole := (List.prefix_append_right_inj part).mp whole
      cases rest with
      | nil => exact (List.append_nil part).symm ▸ List.prefix_rfl
      | cons letter rest =>
          rw [List.cons_prefix_cons] at restWhole
          rw [restWhole.1] at clear
          simp at clear
  refine ⟨fun later => ?_, fun part later apart => ?_, fun matched apart inside => ?_⟩
  · simp only [literal]
    rw [if_neg]
    rintro ⟨nonempty, within⟩
    have none := (isPrefix [] later nofun).mp within
    exact nonempty (List.prefix_nil.mp none)
  · simp only [literal, isPrefix part later apart]
    split
    next here =>
      rw [List.drop_append_of_le_length here.2.length_le]
      rfl
    next => rfl
  · simp only [literal] at matched
    split at matched
    next =>
      cases matched
      exact apart (List.mem_of_mem_drop inside)
    next => cases matched

/-- The two numbers of a range. -/
structure IsRange (word : List Char × List Char) : Prop where
  nonempty : word.1 ≠ []
  first : ∀ digit ∈ word.1, digit.isDigit = true
  second : ∀ digit ∈ word.2, digit.isDigit = true

theorem not_mem_of_digits {digits : List Char} {letter : Char} (noDigit : letter.isDigit = false)
    (isDigit : ∀ digit ∈ digits, digit.isDigit = true) : letter ∉ digits := by
  intro member
  rw [isDigit letter member] at noDigit
  cases noDigit

theorem IsRange.comma_not_mem (isRange : IsRange word) : ',' ∉ rangeText word := by
  rw [rangeText, List.mem_append, List.mem_cons]
  rintro (member | same | member)
  · exact not_mem_of_digits rfl isRange.first member
  · cases same
  · exact not_mem_of_digits rfl isRange.second member

theorem isRange_of_mem {entries : List Entry} (member : word ∈ entries.flatMap Entry.ranges) :
    IsRange word := by
  obtain ⟨entry, _, listed⟩ := List.mem_flatMap.mp member
  cases entry with
  | number value => cases listed
  | range start stop =>
      cases List.mem_singleton.mp listed
      exact ⟨start.nonempty, start.isDigit, stop.isDigit⟩

/-- What of the text of an entry is left when the ranges are taken out of it. -/
def Entry.remaining (words : List (List Char × List Char)) : Entry → List Char
  | .number value => value.digits
  | .range start stop =>
      (words.findSome? (cut · (start.digits, stop.digits))).getD
        (rangeText (start.digits, stop.digits))

theorem cut_isDigit {range : List Char × List Char} {left : List Char} (isRange : IsRange range)
    (isCut : cut word range = some left) : ∀ digit ∈ left, digit.isDigit = true := by
  simp only [cut] at isCut
  split at isCut
  next =>
    cases isCut
    intro digit member
    rcases List.mem_append.mp member with before | after
    · exact isRange.first digit (List.mem_of_mem_take before)
    · exact isRange.second digit (List.mem_of_mem_drop after)
  next => cases isCut

theorem findSome_isDigit {start stop : Numeral} {left : List Char}
    (found : words.findSome? (cut · (start.digits, stop.digits)) = some left) :
    ∀ digit ∈ left, digit.isDigit = true := by
  obtain ⟨word, _, isCut⟩ := List.exists_of_findSome?_eq_some found
  exact cut_isDigit ⟨start.nonempty, start.isDigit, stop.isDigit⟩ isCut

theorem Entry.comma_not_mem_remaining (entry : Entry) : ',' ∉ entry.remaining words := by
  cases entry with
  | number value => exact value.comma_not_mem
  | range start stop =>
      rw [Entry.remaining]
      cases found : words.findSome? (cut · (start.digits, stop.digits)) with
      | none => exact (Entry.range start stop).comma_not_mem
      | some left => exact not_mem_of_digits rfl (findSome_isDigit found)

/-- One more range is taken out. -/
theorem Entry.remove_remaining (isRange : IsRange word) (entry : Entry) :
    (literal (rangeText word)).remove (entry.remaining words) = entry.remaining (words ++ [word]) := by
  cases entry with
  | number value => exact remove_of_not_mem value.dash_not_mem
  | range start stop =>
      rw [Entry.remaining, Entry.remaining, List.findSome?_append]
      cases found : words.findSome? (cut · (start.digits, stop.digits)) with
      | some left => exact remove_of_not_mem (not_mem_of_digits rfl (findSome_isDigit found))
      | none =>
          rw [Option.getD_none, Option.none_or, List.findSome?_singleton]
          exact remove_rangeText isRange.nonempty (not_mem_of_digits rfl isRange.first)
            start.dash_not_mem stop.dash_not_mem

/-- The text of a list of which ranges were taken out. -/
def remainingText (words : List (List Char × List Char)) (entries : List Entry) : List Char :=
  [','].intercalate (entries.map (Entry.remaining words))

theorem remove_remainingText (isRange : IsRange word) (entries : List Entry) :
    (literal (rangeText word)).remove (remainingText words entries) =
      remainingText (words ++ [word]) entries := by
  have clear : ∀ part ∈ entries.map (Entry.remaining words), ',' ∉ part := by
    intro part member
    obtain ⟨entry, _, rfl⟩ := List.mem_map.mp member
    exact entry.comma_not_mem_remaining
  rw [remainingText, (literal_splitsAt isRange.comma_not_mem).remove_intercalate clear, List.map_map,
    remainingText]
  congr 2
  funext entry
  exact entry.remove_remaining isRange

/-- The ports of the ranges. -/
def rangedNums (words : List (List Char × List Char)) : Finset ℕ :=
  words.foldr (fun word nums => Finset.Icc (intOf word.1) (intOf word.2) ∪ nums) ∅

theorem takeRanges_of_ordered {later : List (List Char × List Char)} (entries : List Entry)
    (ranges : ∀ word ∈ later, IsRange word)
    (ordered : ∀ word ∈ later, intOf word.1 < intOf word.2) (portNums : Finset ℕ) :
    takeRanges later portNums (remainingText words entries) =
      .ok (portNums ∪ rangedNums later, remainingText (words ++ later) entries) := by
  induction later generalizing words portNums with
  | nil => simp [takeRanges, rangedNums]
  | cons word later ih =>
      have up := ordered word List.mem_cons_self
      simp only [takeRanges]
      rw [if_neg (by omega), remove_remainingText (ranges word List.mem_cons_self),
        ih (fun other member => ranges other (List.mem_cons_of_mem _ member))
          (fun other member => ordered other (List.mem_cons_of_mem _ member)),
        List.append_assoc, List.singleton_append, Finset.union_assoc]
      rfl

theorem takeRanges_of_disordered {later : List (List Char × List Char)} {portRange : List Char}
    {portNums : Finset ℕ} (disordered : ∃ word ∈ later, ¬ intOf word.1 < intOf word.2) :
    ∃ error, takeRanges later portNums portRange = .error error := by
  induction later generalizing portNums portRange with
  | nil => simp at disordered
  | cons word later ih =>
      simp only [takeRanges]
      by_cases up : intOf word.2 ≤ intOf word.1
      · rw [if_pos up]
        exact ⟨_, rfl⟩
      · rw [if_neg up]
        obtain ⟨other, member, down⟩ := disordered
        rcases List.mem_cons.mp member with rfl | member
        · omega
        · exact ih ⟨other, member, down⟩

end Loop

/-! ## Keys -/

section Keys

variable {entries : List Entry} {entry : Entry} {port : ℕ}

/-- The digits that are left of a range when the first range of the list whose text it has in it
is taken out; its own text leaves none. -/
def Entry.leftOver (entries : List Entry) : Entry → List Char
  | .number _ => []
  | .range start stop =>
      ((entries.flatMap Entry.ranges).findSome? (cut · (start.digits, stop.digits))).getD []

/-- The key is read as it is written: the ports are those that its entries list, and it is refused
if one of its ranges does not go up. -/
def Exact (entries : List Entry) : Prop :=
  ((∀ entry ∈ entries, entry.Ordered) → ∃ nums, portNums (listText entries) = .ok nums ∧
    ∀ port, port ∈ nums ↔ ∃ entry ∈ entries, port ∈ entry.ports) ∧
  ((∃ entry ∈ entries, ¬ entry.Ordered) → ∃ error, portNums (listText entries) = .error error)

/-- What is left of a range is nothing, or a port that is listed anyway. -/
def Undamaged (entries : List Entry) : Prop :=
  ∀ entry ∈ entries, entry.leftOver entries ≠ [] →
    ∃ other ∈ entries, intOf (entry.leftOver entries) ∈ other.ports

theorem remaining_nil (entries : List Entry) : remainingText [] entries = listText entries := by
  have same : Entry.remaining [] = Entry.text := by
    funext entry
    cases entry <;> rfl
  rw [remainingText, listText, same]

theorem ordered_iff : (∀ entry ∈ entries, entry.Ordered) ↔
    ∀ word ∈ entries.flatMap Entry.ranges, intOf word.1 < intOf word.2 := by
  constructor
  · intro ordered word member
    obtain ⟨entry, inside, listed⟩ := List.mem_flatMap.mp member
    have up := ordered entry inside
    cases entry with
    | number value => cases listed
    | range start stop =>
        cases List.mem_singleton.mp listed
        exact up
  · intro ordered entry member
    cases entry with
    | number value => trivial
    | range start stop =>
        exact ordered (start.digits, stop.digits)
          (List.mem_flatMap.mpr ⟨_, member, List.mem_singleton_self _⟩)

/-- A range has its own text in it. -/
theorem exists_leftOver {start stop : Numeral} (member : .range start stop ∈ entries) :
    (entries.flatMap Entry.ranges).findSome? (cut · (start.digits, stop.digits)) =
      some ((Entry.range start stop).leftOver entries) := by
  cases found : (entries.flatMap Entry.ranges).findSome? (cut · (start.digits, stop.digits)) with
  | some left =>
      rw [Entry.leftOver, found]
      rfl
  | none =>
      have own := List.findSome?_eq_none_iff.mp found (start.digits, stop.digits)
        (List.mem_flatMap.mpr ⟨_, member, List.mem_singleton_self _⟩)
      simp [cut] at own

/-- The numbers that are read after the ranges were taken out. -/
theorem mem_otherNums : port ∈ ((digitRun.findall
      (remainingText (entries.flatMap Entry.ranges) entries)).map intOf).toFinset ↔
    ∃ entry ∈ entries, entry.remaining (entries.flatMap Entry.ranges) ≠ [] ∧
      intOf (entry.remaining (entries.flatMap Entry.ranges)) = port := by
  have clear : ∀ part ∈ entries.map (Entry.remaining (entries.flatMap Entry.ranges)), ',' ∉ part := by
    intro part member
    obtain ⟨entry, _, rfl⟩ := List.mem_map.mp member
    exact entry.comma_not_mem_remaining
  have isDigit : ∀ entry ∈ entries, ∀ digit ∈ entry.remaining (entries.flatMap Entry.ranges),
      digit.isDigit = true := by
    intro entry member
    cases entry with
    | number value => exact value.isDigit
    | range start stop =>
        have left := exists_leftOver member
        rw [Entry.remaining, left]
        exact findSome_isDigit left
  rw [remainingText, (digitRun_splitsAt rfl).findall_intercalate clear, List.mem_toFinset,
    List.mem_map]
  constructor
  · rintro ⟨digits, found, rfl⟩
    obtain ⟨list, listed, inside⟩ := List.mem_flatten.mp found
    rw [List.map_map] at listed
    obtain ⟨entry, member, rfl⟩ := List.mem_map.mp listed
    rw [Function.comp_apply, findall_digitRun (isDigit entry member)] at inside
    split at inside
    next => cases inside
    next some_digit =>
      cases List.mem_singleton.mp inside
      exact ⟨entry, member, some_digit, rfl⟩
  · rintro ⟨entry, member, some_digit, rfl⟩
    refine ⟨_, List.mem_flatten.mpr ⟨_, List.mem_map.mpr ⟨_, List.mem_map.mpr ⟨_, member, rfl⟩, rfl⟩,
      ?_⟩, rfl⟩
    rw [findall_digitRun (isDigit entry member), if_neg some_digit]
    exact List.mem_singleton_self _

theorem mem_rangedNums {words : List (List Char × List Char)} : port ∈ rangedNums words ↔
    ∃ word ∈ words, port ∈ Finset.Icc (intOf word.1) (intOf word.2) := by
  induction words with
  | nil => simp [rangedNums]
  | cons word words ih =>
      have unfolded : rangedNums (word :: words) =
          Finset.Icc (intOf word.1) (intOf word.2) ∪ rangedNums words := rfl
      rw [unfolded, Finset.mem_union, ih, List.exists_mem_cons_iff]

/-- The listed ports, and what is left of damaged ranges. -/
theorem mem_nums : port ∈ rangedNums (entries.flatMap Entry.ranges) ∪ ((digitRun.findall
      (remainingText (entries.flatMap Entry.ranges) entries)).map intOf).toFinset ↔
    (∃ entry ∈ entries, port ∈ entry.ports) ∨
      ∃ entry ∈ entries, entry.leftOver entries ≠ [] ∧ intOf (entry.leftOver entries) = port := by
  rw [Finset.mem_union, mem_rangedNums, mem_otherNums]
  constructor
  · rintro (⟨word, member, inside⟩ | ⟨entry, member, some_digit, rfl⟩)
    · obtain ⟨entry, listed, found⟩ := List.mem_flatMap.mp member
      cases entry with
      | number value => cases found
      | range start stop =>
          cases List.mem_singleton.mp found
          exact .inl ⟨_, listed, inside⟩
    · cases entry with
      | number value => exact .inl ⟨_, member, Finset.mem_singleton_self _⟩
      | range start stop =>
          rw [Entry.remaining, exists_leftOver member, Option.getD_some] at some_digit ⊢
          exact .inr ⟨_, member, some_digit, rfl⟩
  · rintro (⟨entry, member, inside⟩ | ⟨entry, member, some_digit, rfl⟩)
    · cases entry with
      | number value =>
          cases Finset.mem_singleton.mp inside
          exact .inr ⟨_, member, value.nonempty, rfl⟩
      | range start stop =>
          exact .inl ⟨(start.digits, stop.digits),
            List.mem_flatMap.mpr ⟨_, member, List.mem_singleton_self _⟩, inside⟩
    · cases entry with
      | number value => exact absurd rfl some_digit
      | range start stop =>
          refine .inr ⟨_, member, ?_⟩
          rw [Entry.remaining, exists_leftOver member, Option.getD_some]
          exact ⟨some_digit, rfl⟩

theorem portNums_of_ordered (nonempty : entries ≠ []) (ordered : ∀ entry ∈ entries, entry.Ordered) :
    ∃ nums, portNums (listText entries) = .ok nums ∧ ∀ port, port ∈ nums ↔
      (∃ entry ∈ entries, port ∈ entry.ports) ∨
        ∃ entry ∈ entries, entry.leftOver entries ≠ [] ∧ intOf (entry.leftOver entries) = port := by
  have taken : takeRanges (entries.flatMap Entry.ranges) ∅ (remainingText [] entries) = _ :=
    takeRanges_of_ordered entries (fun word member => isRange_of_mem member) (ordered_iff.mp ordered) ∅
  rw [remaining_nil, List.nil_append, Finset.empty_union] at taken
  obtain ⟨entry, member⟩ := List.exists_mem_of_ne_nil entries nonempty
  have listed : ∃ port, port ∈ entry.ports := by
    cases entry with
    | number value => exact ⟨_, Finset.mem_singleton_self _⟩
    | range start stop =>
        have up : intOf start.digits < intOf stop.digits := ordered _ member
        exact ⟨intOf start.digits, Finset.mem_Icc.mpr ⟨le_rfl, up.le⟩⟩
  obtain ⟨port, inside⟩ := listed
  refine ⟨_, ?_, fun port => mem_nums⟩
  rw [portNums, findall_listText, taken]
  refine if_neg fun empty => ?_
  have found := mem_nums.mpr (.inl ⟨entry, member, inside⟩)
  rw [empty] at found
  cases found

theorem portNums_of_disordered (disordered : ∃ entry ∈ entries, ¬ entry.Ordered) :
    ∃ error, portNums (listText entries) = .error error := by
  have down : ∃ word ∈ entries.flatMap Entry.ranges, ¬ intOf word.1 < intOf word.2 := by
    by_contra none
    push Not at none
    obtain ⟨entry, member, disordered⟩ := disordered
    exact disordered (ordered_iff.mpr none entry member)
  have refused : ∃ error, takeRanges (entries.flatMap Entry.ranges) ∅ (listText entries) =
      .error error := takeRanges_of_disordered down
  obtain ⟨error, refused⟩ := refused
  rw [portNums, findall_listText, refused]
  exact ⟨error, rfl⟩

/-- **Ranges are read exactly when none is damaged.** -/
theorem ranges_exact_iff (nonempty : entries ≠ []) :
    Exact entries ↔ (∃ entry ∈ entries, ¬ entry.Ordered) ∨ Undamaged entries := by
  constructor
  · intro exact
    refine or_iff_not_imp_left.mpr fun ordered entry member some_digit => ?_
    push Not at ordered
    obtain ⟨nums, read, same⟩ := exact.1 ordered
    obtain ⟨also, readAlso, listed⟩ := portNums_of_ordered nonempty ordered
    cases read.symm.trans readAlso
    exact (same _).mp ((listed _).mpr (.inr ⟨entry, member, some_digit, rfl⟩))
  · intro condition
    refine ⟨fun ordered => ?_, portNums_of_disordered⟩
    have undamaged := condition.resolve_left fun ⟨entry, member, disordered⟩ =>
      disordered (ordered entry member)
    obtain ⟨nums, read, listed⟩ := portNums_of_ordered nonempty ordered
    refine ⟨nums, read, fun port => (listed port).trans (or_iff_left_of_imp ?_)⟩
    rintro ⟨entry, member, some_digit, rfl⟩
    exact undamaged entry member some_digit

end Keys

/-! ## One range in the text of another -/

/-- The range `1-3,5`. -/
def labEntries : List Entry :=
  [.range ⟨['1'], by decide, List.forall_mem_singleton.mpr rfl⟩
      ⟨['3'], by decide, List.forall_mem_singleton.mpr rfl⟩,
    .number ⟨['5'], by decide, List.forall_mem_singleton.mpr rfl⟩]

theorem exact_lab : Exact labEntries := by
  refine (ranges_exact_iff (by decide)).mpr (.inr fun entry member some_digit => ?_)
  rcases List.mem_pair.mp member with rfl | rfl
  · exact absurd (by decide) some_digit
  · exact absurd rfl some_digit

/-- The range `1-3,11-30`, of which `1-3` is also taken out of `11-30`. -/
def damagedEntries : List Entry :=
  [.range ⟨['1'], by decide, List.forall_mem_singleton.mpr rfl⟩
      ⟨['3'], by decide, List.forall_mem_singleton.mpr rfl⟩,
    .range ⟨['1', '1'], by decide, by simp⟩ ⟨['3', '0'], by decide, by simp⟩]

/-- Port 10 is configured, which is not in the list. -/
theorem not_exact_of_damaged : ¬ Exact damagedEntries := by
  intro exact
  have ordered : ∀ entry ∈ damagedEntries, entry.Ordered := by
    intro entry member
    rcases List.mem_pair.mp member with rfl | rfl
    · exact (by decide : intOf ['1'] < intOf ['3'])
    · exact (by decide : intOf ['1', '1'] < intOf ['3', '0'])
  obtain ⟨nums, read, same⟩ := exact.1 ordered
  have configured : (portNums (listText damagedEntries)).toOption.any (10 ∈ ·) = true := by decide
  rw [read] at configured
  obtain ⟨entry, member, listed⟩ := (same 10).mp (by simpa [Except.toOption] using configured)
  rcases List.mem_pair.mp member with rfl | rfl
  · exact absurd listed (by decide)
  · exact absurd listed (by decide)

end Faucet.Config
