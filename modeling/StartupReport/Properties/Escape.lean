/-
StartupReport/Properties/Escape.lean

Backslash escapes in keys and values.

`\uXXXX` names a sixteen-bit code unit, `\t`, `\n`, `\r` and `\f` name control
characters, and a backslash before any other character is dropped.
`unescapeUnits` turns a text into code units piece by piece, so that the two
halves of a pair may be written in any way and meet again; `unescape` reads the
units, once they have been written as bytes behind a mark of their order.
`escape` writes what `unescape` reads back: it doubles backslashes and writes
every character beyond U+00FF as the units it is made of.
-/
import StartupReport.Text.ByteOrder
import StartupReport.Text.Digit

namespace StartupReport.Properties

open Text (units unitsOf decodeUnits readMarked writeMarked readInteger lowerHex)

/-- The character that a backslash and `c` stand for, where `c` is not the mark
of a code unit. -/
def escapedChar (c : Char) : Char :=
  if c = 't' then '\t'
  else if c = 'n' then '\n'
  else if c = 'r' then '\r'
  else if c = 'f' then '\x0C'
  else c

/-- The code unit that four characters name, read as a hexadecimal numeral. -/
def namedUnit (digits : List Char) : Option UInt16 :=
  match readInteger 16 digits with
  | some n => if 0 ≤ n then some (UInt16.ofNat n.toNat) else none
  | none => none

/-- The code unit that the first four of some characters name. -/
def unitAt? : List Char → Option UInt16
  | a :: b :: c :: d :: _ => namedUnit [a, b, c, d]
  | _ => none

/-- The code units of the piece that begins with `c`, and how many of the
characters after `c` belong to that piece. -/
def firstPiece (c : Char) : List Char → List UInt16 × Nat
  | [] => (unitsOf c, 0)
  | d :: ds =>
    if c = '\\' then
      match if d = 'u' then unitAt? ds else none with
      | some u => ([u], 5)
      | none => (unitsOf (escapedChar d), 1)
    else (unitsOf c, 0)

/-- The code units that a text stands for after its first `skip` characters. -/
def unescapeFrom : (skip : Nat) → List Char → List UInt16
  | _, [] => []
  | skip + 1, _ :: cs => unescapeFrom skip cs
  | 0, c :: cs => (firstPiece c cs).1 ++ unescapeFrom (firstPiece c cs).2 cs

/-- The code units that a text stands for. -/
def unescapeUnits (cs : List Char) : List UInt16 := unescapeFrom 0 cs

/-- The text that a text with escapes stands for. -/
def unescape (cs : List Char) : List Char :=
  decodeUnits (readMarked (writeMarked (unescapeUnits cs)))

/-- A code unit as an escape with four lower-case digits. -/
def escapeUnit (u : UInt16) : List Char := '\\' :: 'u' :: lowerHex 4 u.toNat

/-- A character as it is written in a value. -/
def escapeChar (c : Char) : List Char :=
  if c = '\\' then ['\\', '\\']
  else if c.toNat ≤ 0xFF then [c]
  else (unitsOf c).flatMap escapeUnit

/-- A text as it is written in a value. -/
def escape (cs : List Char) : List Char := cs.flatMap escapeChar

/-! ### One piece after another -/

/-- The way through bytes changes nothing. -/
theorem unescape_eq (cs : List Char) : unescape cs = decodeUnits (unescapeUnits cs) := by
  rw [unescape, Text.readMarked_writeMarked]

@[simp] theorem unescape_nil : unescape [] = [] := by
  rw [unescape_eq]
  rfl

theorem unescapeFrom_eq (skip : Nat) (cs : List Char) :
    unescapeFrom skip cs = unescapeUnits (cs.drop skip) := by
  induction cs generalizing skip with
  | nil => simp [unescapeFrom, unescapeUnits]
  | cons c cs ih =>
    cases skip with
    | zero => rfl
    | succ skip => rw [unescapeFrom, ih, List.drop_succ_cons]

theorem unescapeUnits_cons (c : Char) (cs : List Char) :
    unescapeUnits (c :: cs)
      = (firstPiece c cs).1 ++ unescapeUnits (cs.drop (firstPiece c cs).2) := by
  rw [unescapeUnits, unescapeFrom, unescapeFrom_eq]

end StartupReport.Properties
