/-
StartupReport/Log/Pattern.lean

Patterns of log lines.

A field of a pattern is a percent sign, a name in parentheses, flags, a width
and a precision, and a letter that says how the value is shown.  A pattern is
good if there is a field of this form anywhere in it; filling it in is
stricter and may still fail.  Two percent signs make one.
-/
import StartupReport.Log.Number
import StartupReport.Text.WordTable
import StartupReport.Value

namespace StartupReport.Log

/-! ### The form of a field -/

/-- A flag of a field. -/
def isFlag (c : Char) : Bool := c == '#' || c == '0' || c == '+' || c == ' ' || c == '-'

/-- A letter that says how a value is shown, in either case. -/
def isConversion (c : Char) : Bool :=
  "diouxefgcrsaDIOUXEFGCRSA%İıſ".toList.contains c

/-- What follows a star or a number. -/
def afterSize? (cs : List Char) : Option (List Char) :=
  match cs with
  | '*' :: rest => some rest
  | cs => if (cs.takeWhile Text.isDecimal).isEmpty then none else some (cs.dropWhile Text.isDecimal)

/-- The rest of a field after its name. -/
def endsField (cs : List Char) : Bool :=
  let cs := cs.dropWhile isFlag
  let cs := (afterSize? cs).getD cs
  let cs := match cs with
    | '.' :: rest => (afterSize? rest).getD cs
    | cs => cs
  cs.head?.any isConversion

/-- A field begins a text. -/
def startsField : List Char → Bool
  | '%' :: '(' :: cs =>
    !(cs.takeWhile Text.isWordChar).isEmpty &&
      match cs.dropWhile Text.isWordChar with
      | ')' :: rest => endsField rest
      | _ => false
  | _ => false

/-- There is a field somewhere in a pattern. -/
def hasField : List Char → Bool
  | [] => false
  | c :: cs => startsField (c :: cs) || hasField cs

/-! ### Showing a value -/

/-- How the value of a field is shown. -/
structure Form where
  left : Bool := false
  sign : Bool := false
  blank : Bool := false
  alternate : Bool := false
  zero : Bool := false
  width : Nat := 0
  precision : Option Nat := none
  letter : Char

/-- A text brought to a width. -/
def Form.pad (f : Form) (cs : List Char) : List Char :=
  let space := List.replicate (f.width - cs.length) ' '
  if f.left then cs ++ space else space ++ cs

/-- A number brought to a width: zeros go between the sign and mark of its base
and its digits, spaces around it. -/
def Form.padNumber (f : Form) (negative : Bool) (mark digits : List Char) : List Char :=
  let sign := if negative then ['-'] else if f.sign then ['+'] else if f.blank then [' '] else []
  let size := sign.length + mark.length + digits.length
  if f.zero && !f.left then sign ++ mark ++ List.replicate (f.width - size) '0' ++ digits
  else f.pad (sign ++ mark ++ digits)

/-- Digits with zeros before them up to the precision. -/
def Form.digits (f : Form) (cs : List Char) : List Char :=
  List.replicate (f.precision.getD 0 - cs.length) '0' ++ cs

/-- A text with every character outside ASCII written by its number. -/
def asciiOnly (cs : List Char) : List Char :=
  cs.flatMap fun c => if c.toNat < 0x80 then [c] else Text.codeEscape c

/-- A text cut to the precision and brought to the width. -/
def Form.showText (f : Form) (cs : List Char) : List Char :=
  f.pad (match f.precision with
    | some p => cs.take p
    | none => cs)

/-- A whole number in the form of a letter. -/
def Form.showNumber? (f : Form) (n : Int) : Option (List Char) :=
  let negative := n < 0
  let size := n.natAbs
  let places := f.precision.getD 6
  match f.letter with
  | 'd' | 'i' | 'u' => some (f.padNumber negative [] (f.digits (digitsIn 10 size)))
  | 'o' =>
    some (f.padNumber negative (if f.alternate then ['0', 'o'] else []) (f.digits (digitsIn 8 size)))
  | 'x' =>
    some (f.padNumber negative (if f.alternate then ['0', 'x'] else [])
      (f.digits (digitsIn 16 size)))
  | 'X' =>
    some (f.padNumber negative (if f.alternate then ['0', 'X'] else [])
      (f.digits ((digitsIn 16 size).map Char.toUpper)))
  | 'f' | 'F' => some (f.padNumber negative [] (fixedForm f.alternate places (doublePrecision size)))
  | 'e' | 'E' =>
    some (f.padNumber negative [] (exponentForm f.letter f.alternate places (doublePrecision size)))
  | 'g' =>
    some (f.padNumber negative [] (generalForm 'e' f.alternate places (doublePrecision size)))
  | 'G' =>
    some (f.padNumber negative [] (generalForm 'E' f.alternate places (doublePrecision size)))
  | 'c' =>
    if 0 ≤ n ∧ n < 0x110000 then some (f.pad [Char.ofNat size]) else none
  | _ => none

/-- A value in the form of a field. -/
def Form.show? (f : Form) (v : Value) : Option (List Char) :=
  if f.letter = 's' then some (f.showText v.text.toList)
  else if f.letter = 'r' then some (f.showText v.quote.toList)
  else if f.letter = 'a' then some (f.showText (asciiOnly v.quote.toList))
  else
    match v with
    | .int n => f.showNumber? n
    | .str s => if f.letter = 'c' ∧ s.length = 1 then some (f.pad s.toList) else none
    | _ => none

/-! ### Reading the form of a field -/

/-- The name of a field up to the parenthesis that closes it; `depth` counts the
open ones inside. -/
def fieldName (depth : Nat) : List Char → Option (List Char × List Char)
  | [] => none
  | c :: cs =>
    if c = ')' then
      match depth with
      | 0 => some ([], cs)
      | d + 1 => (fieldName d cs).map fun r => (c :: r.1, r.2)
    else (fieldName (if c = '(' then depth + 1 else depth) cs).map fun r => (c :: r.1, r.2)

/-- The form with the flags at the beginning of a text. -/
def readFlags (f : Form) : List Char → Form × List Char
  | [] => (f, [])
  | c :: cs =>
    if c = '-' then readFlags { f with left := true } cs
    else if c = '+' then readFlags { f with sign := true } cs
    else if c = ' ' then readFlags { f with blank := true } cs
    else if c = '#' then readFlags { f with alternate := true } cs
    else if c = '0' then readFlags { f with zero := true } cs
    else (f, c :: cs)

/-- The number at the beginning of a text, zero if there is none. -/
def readSize (cs : List Char) : Nat × List Char :=
  let digits := cs.takeWhile fun c => (Text.asciiDecimalValue? c).isSome
  (digits.foldl (fun n d => 10 * n + (Text.asciiDecimalValue? d).getD 0) 0, cs.drop digits.length)

/-- The widest field that is filled in. -/
def widthLimit : Nat := 0x100000

/-- The form at the beginning of a text. -/
def readForm (cs : List Char) : Option (Form × List Char) :=
  let (f, cs) := readFlags { letter := 's' } cs
  let (width, cs) := readSize cs
  let (precision, cs) := match cs with
    | '.' :: rest =>
      let (p, rest) := readSize rest
      (some p, rest)
    | cs => (none, cs)
  let cs := match cs with
    | c :: rest => if c = 'h' || c = 'l' || c = 'L' then rest else cs
    | [] => []
  match cs with
  | [] => none
  | letter :: rest =>
    if widthLimit < max width (precision.getD 0) then none
    else some ({ f with width, precision, letter }, rest)

/-! ### Filling in -/

/-- A pattern with its fields filled in, or nothing if that fails.  The fuel is
the length of the pattern: every step takes a character. -/
def fillFrom (field : String → Option Value) : (fuel : Nat) → List Char → Option (List Char)
  | 0, _ => none
  | _ + 1, [] => some []
  | fuel + 1, '%' :: '(' :: cs => do
    let (name, rest) ← fieldName 0 cs
    let v ← field (String.ofList name)
    let (form, rest) ← readForm rest
    let shown ← form.show? v
    return shown ++ (← fillFrom field fuel rest)
  | fuel + 1, '%' :: '%' :: cs => return '%' :: (← fillFrom field fuel cs)
  | fuel + 1, c :: cs => if c = '%' then none else return c :: (← fillFrom field fuel cs)

/-- A pattern with its fields filled in, or nothing if that fails. -/
def fill (field : String → Option Value) (pattern : List Char) : Option (List Char) :=
  fillFrom field (pattern.length + 1) pattern

end StartupReport.Log
