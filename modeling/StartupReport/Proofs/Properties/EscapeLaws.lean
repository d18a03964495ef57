/-
StartupReport/Proofs/Properties/EscapeLaws.lean

What escaping does to a text, and that unescaping undoes it.

An escaped text is a sequence of pieces, one for each character: a doubled
backslash, the character itself, or code units with four digits each
(`escapeChar_cases`).  Three things are read off the pieces: no character lies
beyond U+00FF (`holds_of_mem_escape`), the number of backslashes at the end is
even (`isContinued_escape`), and the code units that the text stands for are
those of the text before (`unescapeUnits_escape_append`), so that `unescape` gives
it back, whatever stands behind it (`unescape_escape_append`).
-/
import Mathlib.Data.List.Induction
import StartupReport.Properties.Escape
import StartupReport.Properties.LogicalLine
import StartupReport.Properties.Entry
import StartupReport.Text.Latin1

namespace StartupReport.Properties

open Text (units unitsOf decodeUnits_units_append lowerHex hexDigitChar isBlank isNumberBlank
  baseMarks readDigits readMagnitude readInteger isTooLong dropEndWhile digitValue?)

/-! ### Digits of a code unit -/

/-- To the readers of a line a hexadecimal digit is a character like any other. -/
theorem hexDigitChar_plain {d : Nat} (h : d < 16) :
    (hexDigitChar d).toNat ≤ 0xFF ∧ isBlank (hexDigitChar d) = false ∧
      isSeparator (hexDigitChar d) = false ∧ isLineEnd (hexDigitChar d) = false ∧
      hexDigitChar d ≠ '\\' := by
  have all : ∀ d < 16, (hexDigitChar d).toNat ≤ 0xFF ∧ isBlank (hexDigitChar d) = false ∧
      isSeparator (hexDigitChar d) = false ∧ isLineEnd (hexDigitChar d) = false ∧
      hexDigitChar d ≠ '\\' := by decide
  exact all d h

/-- A hexadecimal digit of ASCII, in either case. -/
def isHexDigit (c : Char) : Bool :=
  ('0' ≤ c && c ≤ '9') || ('A' ≤ c && c ≤ 'F') || ('a' ≤ c && c ≤ 'f')

/-- What a hexadecimal digit counts. -/
def hexValue (c : Char) : Nat :=
  if c ≤ '9' then c.toNat - '0'.toNat
  else if c ≤ 'F' then c.toNat - 'A'.toNat + 10
  else c.toNat - 'a'.toNat + 10

theorem toNat_lt_of_isHexDigit {c : Char} (h : isHexDigit c = true) : c.toNat < 128 := by
  have toNat_le {d : Char} (hd : c ≤ d) : c.toNat ≤ d.toNat := Char.le_def.1 hd
  simp only [isHexDigit, Bool.or_eq_true, Bool.and_eq_true, decide_eq_true_eq] at h
  rcases h with (⟨-, h⟩ | ⟨-, h⟩) | ⟨-, h⟩
  · exact Nat.lt_of_le_of_lt (toNat_le h) (by decide)
  · exact Nat.lt_of_le_of_lt (toNat_le h) (by decide)
  · exact Nat.lt_of_le_of_lt (toNat_le h) (by decide)

/-- To the reader of numerals it is nothing but a digit. -/
theorem isHexDigit_digit {c : Char} (h : isHexDigit c = true) :
    isNumberBlank c = false ∧ c ≠ '+' ∧ c ≠ '-' ∧ c ≠ '_' ∧ (baseMarks 16).contains c = false ∧
      digitValue? c = some (hexValue c) ∧ hexValue c < 16 := by
  have all : ∀ n < 128, isHexDigit (Char.ofNat n) = true →
      isNumberBlank (Char.ofNat n) = false ∧ Char.ofNat n ≠ '+' ∧ Char.ofNat n ≠ '-' ∧
        Char.ofNat n ≠ '_' ∧ (baseMarks 16).contains (Char.ofNat n) = false ∧
        digitValue? (Char.ofNat n) = some (hexValue (Char.ofNat n)) ∧
        hexValue (Char.ofNat n) < 16 := by
    decide +kernel
  have hchar := all c.toNat (toNat_lt_of_isHexDigit h)
  rw [Char.ofNat_toNat] at hchar
  exact hchar h

/-- The digits that are written are digits of that value. -/
theorem isHexDigit_hexDigitChar {d : Nat} (h : d < 16) :
    isHexDigit (hexDigitChar d) = true ∧ hexValue (hexDigitChar d) = d := by
  have all : ∀ d < 16, isHexDigit (hexDigitChar d) = true ∧ hexValue (hexDigitChar d) = d := by
    decide
  exact all d h

theorem readDigits_hexDigit {c : Char} (h : isHexDigit c = true) (value : Nat)
    (afterDigit : Bool) (cs : List Char) :
    readDigits 16 value afterDigit (c :: cs) = readDigits 16 (16 * value + hexValue c) true cs := by
  obtain ⟨-, -, -, hunder, -, hvalue, hlt⟩ := isHexDigit_digit h
  rw [readDigits, if_neg hunder, hvalue]
  simp only [hlt, if_true]

theorem lowerHex_four (n : Nat) :
    lowerHex 4 n = [hexDigitChar (n / 16 / 16 / 16 % 16), hexDigitChar (n / 16 / 16 % 16),
      hexDigitChar (n / 16 % 16), hexDigitChar (n % 16)] := rfl

/-- The number that four hexadecimal digits denote. -/
def fourDigits (a b c d : Char) : Nat :=
  16 * (16 * (16 * hexValue a + hexValue b) + hexValue c) + hexValue d

/-- Four hexadecimal digits are a numeral without sign, mark or blanks. -/
theorem readInteger_hexDigits {a b c d : Char} (ha : isHexDigit a = true)
    (hb : isHexDigit b = true) (hc : isHexDigit c = true) (hd : isHexDigit d = true) :
    readInteger 16 [a, b, c, d] = some (fourDigits a b c d : Nat) := by
  obtain ⟨hblank, hplus, hminus, -⟩ := isHexDigit_digit ha
  obtain ⟨-, -, -, -, hmark, -⟩ := isHexDigit_digit hb
  obtain ⟨-, -, -, hunder, -⟩ := isHexDigit_digit hc
  obtain ⟨hend, -⟩ := isHexDigit_digit hd
  have htrim : dropEndWhile isNumberBlank [a, b, c, d] = [a, b, c, d] := by
    simp [dropEndWhile, hend]
  have hmagnitude : readMagnitude 16 [a, b, c, d] = some (fourDigits a b c d) := by
    rw [readMagnitude, hmark, Bool.and_false, if_neg Bool.false_ne_true, readDigits_hexDigit ha,
      readDigits_hexDigit hb, readDigits_hexDigit hc, readDigits_hexDigit hd, readDigits]
    · simp [fourDigits]
    · intro ds h
      exact hunder (List.cons.inj h).1
  -- no blank in front, and then no sign
  rw [readInteger, if_neg (by simp [isTooLong]), List.dropWhile_cons_of_neg (by simp [hblank]),
    htrim]
  split
  · next h => exact absurd (List.cons.inj h).1 hplus
  · next h => exact absurd (List.cons.inj h).1 hminus
  · rw [hmagnitude]
    rfl

/-- Four hexadecimal digits name a unit. -/
theorem namedUnit_hexDigits {a b c d : Char} (ha : isHexDigit a = true) (hb : isHexDigit b = true)
    (hc : isHexDigit c = true) (hd : isHexDigit d = true) :
    namedUnit [a, b, c, d] = some (UInt16.ofNat (fourDigits a b c d)) := by
  rw [namedUnit, readInteger_hexDigits ha hb hc hd]
  simp

/-- The digits of a unit name it. -/
theorem namedUnit_lowerHex (u : UInt16) : namedUnit (lowerHex 4 u.toNat) = some u := by
  have hu : u.toNat < 65536 := u.toNat_lt
  have hdigit (n : Nat) := isHexDigit_hexDigitChar (Nat.mod_lt n (by decide : 0 < 16))
  rw [lowerHex_four, namedUnit_hexDigits (hdigit _).1 (hdigit _).1 (hdigit _).1 (hdigit _).1,
    fourDigits, (hdigit _).2, (hdigit _).2, (hdigit _).2, (hdigit _).2]
  have hvalue : 16 * (16 * (16 * (u.toNat / 16 / 16 / 16 % 16) + u.toNat / 16 / 16 % 16)
      + u.toNat / 16 % 16) + u.toNat % 16 = u.toNat := by
    omega
  rw [hvalue, UInt16.ofNat_toNat]

/-! ### Pieces of an escaped text -/

theorem escape_nil : escape [] = [] := rfl

theorem escape_cons (c : Char) (cs : List Char) :
    escape (c :: cs) = escapeChar c ++ escape cs := List.flatMap_cons

theorem escape_append (cs ds : List Char) : escape (cs ++ ds) = escape cs ++ escape ds :=
  List.flatMap_append

/-- A character is written as two backslashes, as itself, or as its code units. -/
theorem escapeChar_cases (c : Char) :
    (c = '\\' ∧ escapeChar c = ['\\', '\\']) ∨
    (c ≠ '\\' ∧ c.toNat ≤ 0xFF ∧ escapeChar c = [c]) ∨
    (0xFF < c.toNat ∧ escapeChar c = (unitsOf c).flatMap escapeUnit) := by
  by_cases hb : c = '\\'
  · exact .inl ⟨hb, by rw [escapeChar, if_pos hb]⟩
  · by_cases hl : c.toNat ≤ 0xFF
    · exact .inr (.inl ⟨hb, hl, by rw [escapeChar, if_neg hb, if_pos hl]⟩)
    · exact .inr (.inr ⟨Nat.lt_of_not_le hl, by rw [escapeChar, if_neg hb, if_neg hl]⟩)

/-- The code units of a character, four digits each. -/
theorem mem_flatMap_escapeUnit {us : List UInt16} {c : Char} (h : c ∈ us.flatMap escapeUnit) :
    c = '\\' ∨ c = 'u' ∨ ∃ d < 16, c = hexDigitChar d := by
  obtain ⟨u, -, hc⟩ := List.mem_flatMap.1 h
  have hdigit : ∀ n, n % 16 < 16 := fun n => Nat.mod_lt n (by decide)
  rw [escapeUnit, lowerHex_four] at hc
  simp only [List.mem_cons, List.not_mem_nil, or_false] at hc
  rcases hc with rfl | rfl | rfl | rfl | rfl | rfl
  · exact .inl rfl
  · exact .inr (.inl rfl)
  all_goals exact .inr (.inr ⟨_, hdigit _, rfl⟩)

theorem unitsOf_ne_nil (c : Char) : unitsOf c ≠ [] := by
  unfold unitsOf
  split <;> exact List.cons_ne_nil _ _

theorem escapeChar_ne_nil (c : Char) : escapeChar c ≠ [] := by
  obtain ⟨-, h⟩ | ⟨-, -, h⟩ | ⟨-, h⟩ := escapeChar_cases c
  · exact h ▸ List.cons_ne_nil _ _
  · exact h ▸ List.cons_ne_nil _ _
  · obtain ⟨u, us, hu⟩ := List.exists_cons_of_ne_nil (unitsOf_ne_nil c)
    rw [h, hu]
    exact List.cons_ne_nil _ _

theorem escape_eq_nil_iff {cs : List Char} : escape cs = [] ↔ cs = [] := by
  cases cs with
  | nil => simp [escape_nil]
  | cons c cs => simp [escape_cons, escapeChar_ne_nil]

/-! ### The characters of an escaped text -/

/-- Everything that is written has a byte of its own. -/
theorem holds_of_mem_escape {cs : List Char} {d : Char} (h : d ∈ escape cs) :
    Text.Latin1.holds d = true := by
  obtain ⟨c, -, hd⟩ := List.mem_flatMap.1 h
  have hsmall : d.toNat ≤ 0xFF := by
    obtain ⟨-, hc⟩ | ⟨-, hle, hc⟩ | ⟨-, hc⟩ := escapeChar_cases c
    · rw [hc] at hd
      have : d = '\\' := by simpa using hd
      exact this ▸ by decide
    · rw [hc] at hd
      exact List.mem_singleton.1 hd ▸ hle
    · rw [hc] at hd
      rcases mem_flatMap_escapeUnit hd with rfl | rfl | ⟨n, hn, rfl⟩
      exacts [by decide, by decide, (hexDigitChar_plain hn).1]
  simpa [Text.Latin1.holds] using hsmall

/-- A line end is written as itself, and nothing else is written as one. -/
theorem mem_escapeChar_of_isLineEnd {c d : Char} (hd : isLineEnd d = true) :
    d ∈ escapeChar c ↔ d = c := by
  have hback : isLineEnd '\\' = false := by decide
  have hmark : isLineEnd 'u' = false := by decide
  obtain ⟨rfl, h⟩ | ⟨-, -, h⟩ | ⟨hlarge, h⟩ := escapeChar_cases c
  · simp [h]
  · simp [h]
  · rw [h]
    constructor
    · intro hmem
      rcases mem_flatMap_escapeUnit hmem with rfl | rfl | ⟨n, hn, rfl⟩
      · exact absurd hd (by rw [hback]; exact Bool.false_ne_true)
      · exact absurd hd (by rw [hmark]; exact Bool.false_ne_true)
      · exact absurd hd (by rw [(hexDigitChar_plain hn).2.2.2.1]; exact Bool.false_ne_true)
    · rintro rfl
      -- a line end has a byte and is never written as units
      simp only [isLineEnd, Bool.or_eq_true, beq_iff_eq] at hd
      rcases hd with rfl | rfl <;> exact absurd hlarge (by decide)

/-! ### Backslashes at the end -/

/-- The backslashes at the end reach into the first part only if they are the whole of
the second. -/
theorem trailingBackslashes_append (xs ys : List Char) :
    trailingBackslashes (xs ++ ys) =
      if trailingBackslashes ys = ys.length then trailingBackslashes xs + ys.length
      else trailingBackslashes ys := by
  by_cases h : trailingBackslashes ys = ys.length
  · have hall : (ys.reverse.takeWhile (· == '\\')).length = ys.reverse.length := by
      rwa [List.length_reverse]
    rw [if_pos h, trailingBackslashes, List.reverse_append, List.takeWhile_append, if_pos hall,
      List.length_append, List.length_reverse, Nat.add_comm]
    rfl
  · have hnot : ¬ (ys.reverse.takeWhile (· == '\\')).length = ys.reverse.length := by
      rwa [List.length_reverse]
    rw [if_neg h, trailingBackslashes, List.reverse_append, List.takeWhile_append, if_neg hnot]
    rfl

theorem trailingBackslashes_append_singleton {c : Char} (h : c ≠ '\\') (cs : List Char) :
    trailingBackslashes (cs ++ [c]) = 0 := by
  simp [trailingBackslashes, h]

theorem trailingBackslashes_append_pair (cs : List Char) :
    trailingBackslashes (cs ++ ['\\', '\\']) = trailingBackslashes cs + 2 := by
  simp [trailingBackslashes]

/-- Written code units end in a digit. -/
theorem trailingBackslashes_append_units {us : List UInt16} (h : us ≠ []) (cs : List Char) :
    trailingBackslashes (cs ++ us.flatMap escapeUnit) = 0 := by
  obtain ⟨vs, u, rfl⟩ := List.eq_nil_or_concat us |>.resolve_left h
  have hd : u.toNat % 16 < 16 := Nat.mod_lt _ (by decide)
  have hunit : escapeUnit u = ('\\' :: 'u' :: lowerHex 3 (u.toNat / 16))
      ++ [hexDigitChar (u.toNat % 16)] := rfl
  rw [List.concat_eq_append, List.flatMap_append, List.flatMap_singleton, hunit,
    ← List.append_assoc, ← List.append_assoc,
    trailingBackslashes_append_singleton (hexDigitChar_plain hd).2.2.2.2]

/-- An escaped text does not go on in the next line. -/
theorem isContinued_escape (cs : List Char) : isContinued (escape cs) = false := by
  suffices h : trailingBackslashes (escape cs) % 2 = 0 by
    rw [isContinued, h]
    rfl
  -- from the end, since only the piece of the last character can add backslashes
  induction cs using List.reverseRecOn with
  | nil => rfl
  | append_singleton cs c ih =>
    rw [escape_append, escape_cons, escape_nil, List.append_nil]
    obtain ⟨-, h⟩ | ⟨hb, -, h⟩ | ⟨-, h⟩ := escapeChar_cases c
    · rw [h, trailingBackslashes_append_pair]
      omega
    · rw [h, trailingBackslashes_append_singleton hb]
    · rw [h, trailingBackslashes_append_units (unitsOf_ne_nil c)]

/-! ### The reader of escapes undoes them -/

theorem firstPiece_of_ne {c : Char} (h : c ≠ '\\') (cs : List Char) :
    firstPiece c cs = (unitsOf c, 0) := by
  cases cs with
  | nil => rfl
  | cons d ds => rw [firstPiece, if_neg h]

theorem firstPiece_escapeUnit (u : UInt16) (rest : List Char) :
    firstPiece '\\' ('u' :: (lowerHex 4 u.toNat ++ rest)) = ([u], 5) := by
  have hunit : unitAt? (lowerHex 4 u.toNat ++ rest) = some u := namedUnit_lowerHex u
  rw [firstPiece, if_pos rfl, if_pos rfl, hunit]

theorem unescapeUnits_escapeUnit (u : UInt16) (rest : List Char) :
    unescapeUnits (escapeUnit u ++ rest) = u :: unescapeUnits rest := by
  rw [escapeUnit, List.cons_append, List.cons_append, unescapeUnits_cons,
    firstPiece_escapeUnit, List.singleton_append]
  rfl

theorem unescapeUnits_escapeChar (c : Char) (rest : List Char) :
    unescapeUnits (escapeChar c ++ rest) = unitsOf c ++ unescapeUnits rest := by
  obtain ⟨rfl, h⟩ | ⟨hb, -, h⟩ | ⟨-, h⟩ := escapeChar_cases c
  · rw [h, List.cons_append, unescapeUnits_cons]
    rfl
  · rw [h, List.singleton_append, unescapeUnits_cons, firstPiece_of_ne hb, List.drop_zero]
  · rw [h]
    -- one unit after the other, however many the character has
    generalize unitsOf c = us
    induction us with
    | nil => rfl
    | cons u us ih =>
      rw [List.flatMap_cons, List.append_assoc, unescapeUnits_escapeUnit, ih, List.cons_append]

/-- An escaped text stands for the code units of the text, before whatever follows. -/
theorem unescapeUnits_escape_append (cs rest : List Char) :
    unescapeUnits (escape cs ++ rest) = units cs ++ unescapeUnits rest := by
  induction cs with
  | nil => rfl
  | cons c cs ih =>
    rw [escape_cons, List.append_assoc, unescapeUnits_escapeChar, ih, ← List.append_assoc]
    rfl

/-- Unescaping an escaped text gives the text back, and then what follows: the last
unit of a text never pairs with the first of the next. -/
theorem unescape_escape_append (cs rest : List Char) :
    unescape (escape cs ++ rest) = cs ++ unescape rest := by
  rw [unescape_eq, unescape_eq, unescapeUnits_escape_append, decodeUnits_units_append]

end StartupReport.Properties
