/-
StartupReport/Text/Digit.lean

Digits and the reading of whole numbers.

A decimal digit is a character of one of the sixty-six runs of ten that
Unicode calls decimal numbers; every run is given by its zero.  A numeral is
read in a base: blanks at both ends, one sign, in base two, eight or sixteen
the mark `0b`, `0o` or `0x`, then digits with single underscores between them.
In base ten there is a limit to the number of digits.  `readInteger` says which
texts are numerals and what they denote; `lowerHex` writes in the other
direction, with a fixed number of digits.
-/
import StartupReport.Text.Blank

namespace StartupReport.Text

/-- The zeros of the runs of decimal digits, in increasing order. -/
def digitZeros : List Nat :=
  [0x30, 0x660, 0x6F0, 0x7C0, 0x966, 0x9E6, 0xA66, 0xAE6, 0xB66, 0xBE6, 0xC66, 0xCE6, 0xD66,
   0xDE6, 0xE50, 0xED0, 0xF20, 0x1040, 0x1090, 0x17E0, 0x1810, 0x1946, 0x19D0, 0x1A80, 0x1A90,
   0x1B50, 0x1BB0, 0x1C40, 0x1C50, 0xA620, 0xA8D0, 0xA900, 0xA9D0, 0xA9F0, 0xAA50, 0xABF0,
   0xFF10, 0x104A0, 0x10D30, 0x11066, 0x110F0, 0x11136, 0x111D0, 0x112F0, 0x11450, 0x114D0,
   0x11650, 0x116C0, 0x11730, 0x118E0, 0x11950, 0x11C50, 0x11D50, 0x11DA0, 0x16A60, 0x16AC0,
   0x16B50, 0x1D7CE, 0x1D7D8, 0x1D7E2, 0x1D7EC, 0x1D7F6, 0x1E140, 0x1E2F0, 0x1E950, 0x1FBF0]

/-- The value of a decimal digit of any script. -/
def decimalValue? (c : Char) : Option Nat :=
  (digitZeros.find? fun start => start ≤ c.toNat && c.toNat < start + 10).map (c.toNat - ·)

/-- A decimal digit of any script. -/
def isDecimal (c : Char) : Bool := (decimalValue? c).isSome

/-- The value of an ASCII decimal digit. -/
def asciiDecimalValue? (c : Char) : Option Nat :=
  if '0' ≤ c && c ≤ '9' then some (c.toNat - '0'.toNat) else none

/-- The value of a character as a digit: a decimal digit of any script, or an
ASCII letter counting on from ten. -/
def digitValue? (c : Char) : Option Nat :=
  (decimalValue? c).orElse fun _ =>
    if 'a' ≤ c && c ≤ 'z' then some (c.toNat - 'a'.toNat + 10)
    else if 'A' ≤ c && c ≤ 'Z' then some (c.toNat - 'A'.toNat + 10)
    else none

/-- The value of a digit string to which underscores may be added between two
digits; `value` is what the digits before denote and `afterDigit` says whether
there is such a digit. -/
def readDigits (base : Nat) : (value : Nat) → (afterDigit : Bool) → List Char → Option Nat
  | value, afterDigit, [] => if afterDigit then some value else none
  | value, afterDigit, c :: cs =>
    if c = '_' then
      if afterDigit then readDigits base value false cs else none
    else
      match digitValue? c with
      | some d => if d < base then readDigits base (base * value + d) true cs else none
      | none => none

/-- The letters that may follow a leading zero in a base. -/
def baseMarks (base : Nat) : List Char :=
  match base with
  | 2 => ['b', 'B']
  | 8 => ['o', 'O']
  | 16 => ['x', 'X']
  | _ => []

/-- The magnitude of a numeral without sign: it may begin with a zero and the
mark of its base, after which one underscore is allowed. -/
def readMagnitude (base : Nat) : List Char → Option Nat
  | first :: mark :: cs =>
    if decimalValue? first = some 0 && (baseMarks base).contains mark then
      match cs with
      | '_' :: ds => readDigits base 0 false ds
      | ds => readDigits base 0 false ds
    else readDigits base 0 false (first :: mark :: cs)
  | cs => readDigits base 0 false cs

/-- The most digits of a numeral in base ten. -/
def digitLimit : Nat := 4300

/-- The number of decimal digits with which a text begins after blanks and a
sign. -/
def leadingDigits (cs : List Char) : Nat :=
  let ds := match cs.dropWhile isNumberBlank with
    | '+' :: ds => ds
    | '-' :: ds => ds
    | ds => ds
  (ds.takeWhile fun c => c = '_' || isDecimal c).countP isDecimal

/-- A numeral in a base has more digits than are read. -/
def isTooLong (base : Nat) (cs : List Char) : Bool := base = 10 && digitLimit < leadingDigits cs

/-- The number that a numeral denotes, if the text is one and not too long. -/
def readInteger (base : Nat) (cs : List Char) : Option Int :=
  if isTooLong base cs then none
  else
    match dropEndWhile isNumberBlank (cs.dropWhile isNumberBlank) with
    | '+' :: ds => (readMagnitude base ds).map Int.ofNat
    | '-' :: ds => (readMagnitude base ds).map fun n => -Int.ofNat n
    | ds => (readMagnitude base ds).map Int.ofNat

/-- The lower-case digit of a value below sixteen. -/
def hexDigitChar (d : Nat) : Char :=
  if d < 10 then Char.ofNat (0x30 + d) else Char.ofNat (0x61 + (d - 10))

/-- The last `width` hexadecimal digits of a number, in lower case. -/
def lowerHex : (width : Nat) → Nat → List Char
  | 0, _ => []
  | width + 1, n => lowerHex width (n / 16) ++ [hexDigitChar (n % 16)]

/-- The last `width` decimal digits of a number. -/
def padded : (width : Nat) → Nat → List Char
  | 0, _ => []
  | width + 1, n => padded width (n / 10) ++ [Char.ofNat (0x30 + n % 10)]

/-! ### Digits and their values -/

theorem length_padded (width n : Nat) : (padded width n).length = width := by
  induction width generalizing n with
  | zero => rfl
  | succ width ih => simp [padded, ih]

end StartupReport.Text
