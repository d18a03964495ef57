/-
StartupReport/Calendar/Timestamp.lean

The timestamps of the version file: `yyyy-MM-dd'T'HH:mm:ssZ`, with an offset
of four digits.

Reading goes in two passes.  `hasForm` looks at the form alone: digits,
separators and a sign at fixed places, where any decimal digit counts and one
final line feed is let through.  The second pass reads the seven fields, of
which all but the year and the hours of the offset restrict their digits, and
then asks whether such a day, offset and second exist.  A text can therefore
fail in several ways, and the earlier one is reported.  `writeTimestamp`
writes a moment in the same form, except that a year before 1000 keeps its
fewer digits and an offset with seconds shows them.
-/
import StartupReport.Calendar.Moment
import StartupReport.Text.Quoted

namespace StartupReport.Calendar

open Text (decimalValue? isDecimal padded quoted)

/-! ### The form -/

/-- What may stand at a place of a timestamp. -/
inductive Slot
  | digit
  | sign
  | exactly (c : Char)

/-- A character fills a place. -/
def Slot.admits : Slot → Char → Bool
  | .digit, c => isDecimal c
  | .sign, c => c == '+' || c == '-'
  | .exactly d, c => c == d

/-- The places of a timestamp, in order. -/
def timestampSlots : List Slot :=
  [.digit, .digit, .digit, .digit, .exactly '-', .digit, .digit, .exactly '-', .digit, .digit,
   .exactly 'T', .digit, .digit, .exactly ':', .digit, .digit, .exactly ':', .digit, .digit,
   .sign, .digit, .digit, .digit, .digit]

/-- What is left of a text after characters that fill the places in turn. -/
def afterSlots : List Slot → List Char → Option (List Char)
  | [], cs => some cs
  | _ :: _, [] => none
  | slot :: slots, c :: cs => if slot.admits c then afterSlots slots cs else none

/-- The text is a timestamp by its form, with or without a final line feed. -/
def hasForm (cs : List Char) : Bool :=
  match afterSlots timestampSlots cs with
  | some [] => true
  | some ['\n'] => true
  | _ => false

/-! ### The fields -/

/-- The number that two digits denote. -/
def twoDigits (tens ones : Char) : Nat :=
  10 * (decimalValue? tens).getD 0 + (decimalValue? ones).getD 0

/-- A digit of ASCII from `low` to `high`. -/
def isFrom (low high c : Char) : Bool := low ≤ c && c ≤ high

/-- Months are written with ASCII digits, from 01 to 12. -/
def isMonthField (tens ones : Char) : Bool :=
  (tens == '1' && isFrom '0' '2' ones) || (tens == '0' && isFrom '1' '9' ones)

/-- Days run from 01 to 31; from 10 to 29 the second digit is of any script. -/
def isDayField (tens ones : Char) : Bool :=
  (tens == '3' && isFrom '0' '1' ones) || (isFrom '1' '2' tens && isDecimal ones) ||
    (tens == '0' && isFrom '1' '9' ones)

/-- Hours run from 00 to 23; up to 19 the second digit is of any script. -/
def isHourField (tens ones : Char) : Bool :=
  (tens == '2' && isFrom '0' '3' ones) || (isFrom '0' '1' tens && isDecimal ones)

/-- Minutes run from 00 to 59, with a second digit of any script. -/
def isMinuteField (tens ones : Char) : Bool := isFrom '0' '5' tens && isDecimal ones

/-- Seconds run from 00 to 61 here; the last two are refused afterwards. -/
def isSecondField (tens ones : Char) : Bool :=
  (tens == '6' && isFrom '0' '1' ones) || (isFrom '0' '5' tens && isDecimal ones)

/-- The numbers of a timestamp, the offset in seconds. -/
structure Fields where
  year : Nat
  month : Nat
  day : Nat
  hour : Nat
  minute : Nat
  second : Nat
  offset : Int
deriving DecidableEq, Repr

/-- The fields of a text of the right form, and what follows them. -/
def fields? : List Char → Option (Fields × List Char)
  | y₁ :: y₂ :: y₃ :: y₄ :: _ :: m₁ :: m₂ :: _ :: d₁ :: d₂ :: _ :: h₁ :: h₂ :: _ :: n₁ :: n₂ ::
      _ :: s₁ :: s₂ :: sign :: z₁ :: z₂ :: z₃ :: z₄ :: rest =>
    if isMonthField m₁ m₂ && isDayField d₁ d₂ && isHourField h₁ h₂ && isMinuteField n₁ n₂ &&
        isSecondField s₁ s₂ && isMinuteField z₃ z₄ then
      let size : Int := twoDigits z₁ z₂ * 3600 + twoDigits z₃ z₄ * 60
      some (⟨100 * twoDigits y₁ y₂ + twoDigits y₃ y₄, twoDigits m₁ m₂, twoDigits d₁ d₂,
        twoDigits h₁ h₂, twoDigits n₁ n₂, twoDigits s₁ s₂,
        if sign = '-' then -size else size⟩, rest)
    else none
  | _ => none

/-- The instant that fields name.  The day is looked at first, then the offset,
then the second. -/
def Fields.instant? (f : Fields) : Except Error Instant := do
  if f.year < firstYear then throw (.year f.year)
  if daysInMonth f.year f.month < f.day then throw .day
  if ¬ OffsetOk f.offset then throw (.offset f.offset)
  if 59 < f.second then throw .second
  let t := (Moment.mk ⟨⟨f.year, f.month, f.day⟩, f.hour, f.minute, f.second, 0⟩ f.offset).instant
  if t.InRange then return t else throw .outOfRange

/-- The instant that a timestamp names. -/
def readTimestamp (text : String) : Except Error Instant :=
  if hasForm text.toList then
    match fields? text.toList with
    | none => .error (.fields text)
    | some (f, []) => f.instant?
    | some (_, rest) => .error (.trailing (String.ofList rest))
  else .error (.form text)

/-! ### Writing -/

/-- An offset of two hour and two minute digits, and two for the seconds if
there are any. -/
def compactOffset (offset : Int) : List Char :=
  let n := offset.natAbs
  (if offset < 0 then '-' else '+') :: padded 2 (n / 3600) ++ padded 2 (n / 60 % 60) ++
    (if n % 60 = 0 then [] else padded 2 (n % 60))

/-- A moment in the form of the version file.  The year has the digits it
needs, and without an offset none is written. -/
def writeTimestamp (m : Moment) : String :=
  let c := m.civil
  String.ofList ((toString c.date.year).toList ++ '-' :: padded 2 c.date.month ++
    '-' :: padded 2 c.date.day ++ 'T' :: c.clockText ++
    (match m.offset with
    | some offset => compactOffset offset
    | none => []))

/-! ### What a failure says -/

/-- A length of time in whole days and the seconds of a last, started day. -/
def dayAndSeconds (seconds : Int) : String :=
  let days := Int.fdiv seconds 86400
  let rest := Int.fmod seconds 86400
  let parts := (if days = 0 then [] else [s!"days={days}"]) ++
    (if rest = 0 then [] else [s!"seconds={rest}"])
  ", ".intercalate parts

/-- The text of a failure. -/
def Error.message : Error → String
  | .form text => s!"Text '{text}' does not match pattern yyyy-MM-dd'T'HH:mm:ssZ"
  | .fields text =>
    s!"time data {quoted text} does not match format '%Y-%m-%dT%H:%M:%S%z'"
  | .trailing rest => s!"unconverted data remains: {rest}"
  | .year value => s!"year {value} is out of range"
  | .month => "month must be in 1..12"
  | .day => "day is out of range for month"
  | .hour => "hour must be in 0..23"
  | .minute => "minute must be in 0..59"
  | .second => "second must be in 0..59"
  | .microsecond => "microsecond must be in 0..999999"
  | .offset seconds =>
    "offset must be a timedelta strictly between -timedelta(hours=24) and timedelta(hours=24), " ++
      s!"not datetime.timedelta({dayAndSeconds seconds})."
  | .outOfRange => "date value out of range"

end StartupReport.Calendar
