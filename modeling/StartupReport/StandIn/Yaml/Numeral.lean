/-
StartupReport/StandIn/Yaml/Numeral.lean

Numbers and times in YAML.

They come in five forms: binary, octal, decimal, hexadecimal, and digits to the
base sixty with colons between them.  Underscores may stand among the digits
and do not count.  A text that is marked as a number need not have one of the
forms; it is read by how it begins.  Of fractions and times only the forms are
known.
-/
import StartupReport.Text.Digit
import StartupReport.Text.Piece
import StartupReport.StandIn.Yaml.Character

namespace StartupReport.Yaml

/-! ### Forms -/

/-- A text without its sign. -/
def unsigned : List Char → List Char
  | '+' :: cs => cs
  | '-' :: cs => cs
  | cs => cs

/-- All characters of a text, of which there is at least one, are underscores or
digits up to a given one. -/
def isDigits (last : Char) (cs : List Char) : Bool :=
  !cs.isEmpty && cs.all fun c => c == '_' || ('0' ≤ c && c ≤ last)

/-- A text begins with a digit that is not zero and goes on with digits and
underscores. -/
def isDecimal (cs : List Char) : Bool :=
  match cs with
  | c :: rest => '1' ≤ c && c ≤ '9' && (rest.isEmpty || isDigits '9' rest)
  | [] => false

/-- A part after the first of a number to the base sixty. -/
def isSixtieth (cs : List Char) : Bool :=
  match cs with
  | [c] => '0' ≤ c && c ≤ '9'
  | [c, d] => '0' ≤ c && c ≤ '5' && '0' ≤ d && d ≤ '9'
  | _ => false

/-- The form of a number to the base sixty. -/
def isSexagesimal (cs : List Char) : Bool :=
  match Text.pieces ':' cs with
  | first :: second :: more => isDecimal first && (second :: more).all isSixtieth
  | _ => false

/-- The text has the form of a whole number. -/
def isNumeral (cs : List Char) : Bool :=
  match unsigned cs with
  | '0' :: 'b' :: ds => isDigits '1' ds
  | '0' :: 'x' :: ds => !ds.isEmpty && ds.all fun c => c == '_' || (hexValue? c).isSome
  | '0' :: ds => ds.isEmpty || isDigits '7' ds
  | ds => isDecimal ds || isSexagesimal ds

/-! ### Forms of fractions and times -/

def isDigit (c : Char) : Bool := '0' ≤ c && c ≤ '9'

/-- A text begins with a digit and goes on with digits and underscores. -/
def isRun (cs : List Char) : Bool :=
  match cs with
  | c :: rest => isDigit c && (rest.isEmpty || isDigits '9' rest)
  | [] => false

/-- The exponent of a fraction, which may be left out. -/
def isExponent (cs : List Char) : Bool :=
  match cs with
  | [] => true
  | e :: sign :: digits =>
    (e == 'e' || e == 'E') && (sign == '+' || sign == '-') && !digits.isEmpty && digits.all isDigit
  | _ => false

/-- A part after the first of a fraction to the base sixty, before its point. -/
def isLooseSixtieth (cs : List Char) : Bool :=
  match cs with
  | [c] => isDigit c
  | [c, d] => '0' ≤ c && c ≤ '5' && isDigit d
  | _ => false

/-- The words for the fractions that are no numbers. -/
def endlessWords : List String := [".inf", ".Inf", ".INF"]

def undefinedWords : List String := [".nan", ".NaN", ".NAN"]

/-- The text has the form of a fraction. -/
def isFraction (text : String) : Bool :=
  let cs := text.toList
  let whole := (unsigned cs).takeWhile (· ≠ '.')
  match (unsigned cs).drop whole.length with
  | '.' :: rest =>
    let digits := rest.takeWhile fun c => c == '_' || isDigit c
    let exponent := rest.drop digits.length
    endlessWords.contains (String.ofList (unsigned cs)) || undefinedWords.contains text ||
      (isRun whole && isExponent exponent) ||
      (cs.head? == some '.' && isRun digits && isExponent exponent) ||
      (exponent.isEmpty && match Text.pieces ':' whole with
        | first :: second :: more => isRun first && (second :: more).all isLooseSixtieth
        | _ => false)
  | _ => false

/-- A text behind a number of digits between two bounds. -/
def afterDigits? (least most : Nat) (cs : List Char) : Option (List Char) :=
  let count := (cs.takeWhile isDigit).length
  if least ≤ count ∧ count ≤ most then some (cs.drop count) else none

/-- A text behind a character. -/
def after? (mark : Char) (cs : List Char) : Option (List Char) :=
  match cs with
  | c :: rest => if c = mark then some rest else none
  | [] => none

/-- A text behind what separates a date from a time of day. -/
def afterSeparator? (cs : List Char) : Option (List Char) :=
  match cs with
  | 'T' :: rest | 't' :: rest => some rest
  | ' ' :: rest | '\t' :: rest => some (rest.dropWhile isBlank)
  | _ => none

/-- The zone of a time, which may be left out. -/
def isZone (cs : List Char) : Bool :=
  match cs.dropWhile isBlank with
  | [] => cs.isEmpty
  | ['Z'] => true
  | sign :: rest =>
    (sign == '+' || sign == '-') &&
      (match afterDigits? 1 2 rest with
        | some [] => true
        | some (':' :: minutes) => afterDigits? 2 2 minutes == some []
        | _ => false)

/-- What stands behind a date with so many digits for the month and the day. -/
def afterDate? (least : Nat) (cs : List Char) : Option (List Char) := do
  let cs ← after? '-' (← afterDigits? 4 4 cs)
  let cs ← after? '-' (← afterDigits? least 2 cs)
  afterDigits? least 2 cs

/-- What stands behind a time of day. -/
def afterClock? (cs : List Char) : Option (List Char) := do
  let cs ← after? ':' (← afterDigits? 1 2 cs)
  let cs ← after? ':' (← afterDigits? 2 2 cs)
  match ← afterDigits? 2 2 cs with
  | '.' :: rest => return rest.dropWhile isDigit
  | rest => return rest

/-- The text has the form of a date or of a time. -/
def isTime (text : String) : Bool :=
  let cs := text.toList
  afterDate? 2 cs == some [] ||
    (afterDate? 1 cs >>= afterSeparator? >>= afterClock?).any isZone

/-! ### Values -/

/-- The number of a text in a base. -/
def wholeNumber (base : Nat) (cs : List Char) : Except Flaw Int :=
  match Text.readInteger base cs with
  | some n => .ok n
  | none => .error (.numeral base (String.ofList cs))

/-- The number whose parts to the base sixty are given. -/
def sexagesimal (parts : List Int) : Int := parts.foldl (fun n d => 60 * n + d) 0

/-- The size of a number that is written without a sign. -/
def magnitude (cs : List Char) : Except Flaw Int :=
  match cs with
  | [] => .error .emptyNumeral
  | '0' :: 'b' :: ds => wholeNumber 2 ds
  | '0' :: 'x' :: ds => wholeNumber 16 ds
  | '0' :: ds => if ds.isEmpty then .ok 0 else wholeNumber 8 ('0' :: ds)
  | cs =>
    if cs.contains ':' then sexagesimal <$> (Text.pieces ':' cs).mapM (wholeNumber 10)
    else wholeNumber 10 cs

/-- The number of a text that is taken for one. -/
def numeral (text : String) : Except Flaw Int :=
  match text.toList.filter (· ≠ '_') with
  | [] => .error .emptyNumeral
  | '-' :: cs => (- ·) <$> magnitude cs
  | cs => magnitude (unsigned cs)

end StartupReport.Yaml
