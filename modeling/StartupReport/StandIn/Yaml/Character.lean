/-
StartupReport/StandIn/Yaml/Character.lean

The characters of a YAML text, and why a text may have no value.

Four characters break a line once carriage returns have been normalized.  A
gap is where a word may end: a blank, a line break or the end of the text.
Three dashes or three dots before a gap mark the borders of a document
wherever a line begins with them.

A text is read in portions.  A portion with a character that may not stand in
a text cannot be read, so that such a character shows only when its portion is
reached.
-/
namespace StartupReport.Yaml

/-- Why a text has no value. -/
inductive Flaw
  /-- The text does not follow the grammar. -/
  | malformed
  /-- An escape stands for a number that is no character. -/
  | noCharacter (code : Nat)
  /-- A text that is marked as a number is no numeral of the base it seems to have. -/
  | numeral (base : Nat) (text : String)
  /-- A text that is marked as a number is empty. -/
  | emptyNumeral
  /-- A text that is marked as a truth value is none. -/
  | truthValue (text : String)
  /-- The text holds a fraction or a time, which this reader does not make values of. -/
  | uncovered
deriving DecidableEq, Repr

/-- A character that breaks a line. -/
def isBreak (c : Char) : Bool := c == '\n' || c == '\x85' || c == '\u2028' || c == '\u2029'

/-- A line break as it is kept: the next-line character counts as a line feed. -/
def breakForm (c : Char) : Char := if c = '\x85' then '\n' else c

/-- A blank inside a line. -/
def isBlank (c : Char) : Bool := c == ' ' || c == '\t'

/-- A character that may stand in a text. -/
def isAllowed (c : Char) : Bool :=
  let n := c.toNat
  c == '\t' || c == '\n' || c == '\r' || (0x20 ≤ n && n ≤ 0x7E) || n == 0x85 ||
    (0xA0 ≤ n && n ≤ 0xD7FF) || (0xE000 ≤ n && n ≤ 0xFFFD) || 0x10000 ≤ n

/-- The length of a portion; the first is twice as long. -/
def portionLength : Nat := 4096

/-- The place where the portion begins to which a place belongs. -/
def portionStart (place : Nat) : Nat :=
  if place < 2 * portionLength then 0 else place - place % portionLength

/-- A text as far as its portions can be read, and whether there are others. -/
def legible (cs : List Char) : List Char × Bool :=
  match cs.findIdx? fun c => !isAllowed c with
  | some place => (cs.take (portionStart place), true)
  | none => (cs, false)

/-- A character of a name. -/
def isNameChar (c : Char) : Bool :=
  ('0' ≤ c && c ≤ '9') || ('A' ≤ c && c ≤ 'Z') || ('a' ≤ c && c ≤ 'z') || c == '-' || c == '_'

/-- The rest of a text is at a gap. -/
def atGap : List Char → Bool
  | [] => true
  | c :: _ => isBlank c || isBreak c

/-- The rest of a text is at a gap that is no tab. -/
def atPlainGap : List Char → Bool
  | [] => true
  | c :: _ => c == ' ' || isBreak c

/-- A line begins with three of a character and a gap. -/
def isMarkerOf (mark : Char) : List Char → Bool
  | a :: b :: c :: rest => a == mark && b == mark && c == mark && atGap rest
  | _ => false

/-- A line begins with the border of a document. -/
def isMarker (cs : List Char) : Bool := isMarkerOf '-' cs || isMarkerOf '.' cs

/-- The value of a hexadecimal digit. -/
def hexValue? (c : Char) : Option Nat :=
  if '0' ≤ c && c ≤ '9' then some (c.toNat - '0'.toNat)
  else if 'a' ≤ c && c ≤ 'f' then some (c.toNat - 'a'.toNat + 10)
  else if 'A' ≤ c && c ≤ 'F' then some (c.toNat - 'A'.toNat + 10)
  else none

/-- The number that a string of hexadecimal digits denotes, after digits that
denote `value`. -/
def hexNumber? (value : Nat) : List Char → Option Nat
  | [] => some value
  | c :: cs =>
    match hexValue? c with
    | some d => hexNumber? (16 * value + d) cs
    | none => none

/-- The rest of a line of which only a comment may be left, after its end. -/
def afterComment (cs : List Char) : Except Flaw (List Char) :=
  let rest := match cs.dropWhile (· == ' ') with
    | '#' :: more => more.dropWhile fun c => !isBreak c
    | more => more
  match rest with
  | [] => .ok []
  | c :: more => if isBreak c then .ok more else .error .malformed

end StartupReport.Yaml
