/-
StartupReport/Calendar/Moment.lean

Readings of a clock and the instants they name.

An `Instant` is a number of seconds since the start of 1970 in UTC.  A
`Civil` is what a calendar and a clock show, and a `Moment` adds the offset
from UTC at which they are read, if it is known.  Only instants whose UTC
reading lies in the years 1 to 9999 have one; `Calendar.Error` lists the ways
in which a reading can fail to exist.
-/
import StartupReport.Calendar.Date
import StartupReport.Text.Digit

namespace StartupReport.Calendar

/-- A second of time, counted from the start of 1970 in UTC. -/
structure Instant where
  seconds : Int
deriving DecidableEq, Repr

/-- The start of 1970 in UTC. -/
def Instant.epoch : Instant := ⟨0⟩

/-- What the calendar on the wall and the clock beside it show. -/
structure Civil where
  date : Date
  hour : Nat
  minute : Nat
  second : Nat
  microsecond : Nat
deriving DecidableEq, Repr

/-- A reading together with its offset from UTC in seconds, east positive. -/
structure Moment where
  civil : Civil
  offset : Option Int
deriving DecidableEq, Repr

/-- Why a text or a set of numbers names no time. -/
inductive Error
  /-- The text does not have the form of a timestamp. -/
  | form (text : String)
  /-- The text has the form, but a field in it is no month, day, hour, minute or
  second. -/
  | fields (text : String)
  /-- Something follows the timestamp. -/
  | trailing (rest : String)
  | year (value : Int)
  | month
  | day
  | hour
  | minute
  | second
  | microsecond
  /-- The offset is a whole day or more. -/
  | offset (seconds : Int)
  /-- The instant lies outside the years of the calendar. -/
  | outOfRange
deriving DecidableEq, Repr

/-! ### Seconds and readings -/

/-- Days from the start of the calendar to the start of 1970. -/
def epochDay : Nat := (Date.mk 1970 1 1).dayNumber

/-- The seconds of a day before a reading. -/
def Civil.secondOfDay (c : Civil) : Nat := c.hour * 3600 + c.minute * 60 + c.second

/-- The seconds from the start of 1970 to a reading, on the same clock. -/
def Civil.seconds (c : Civil) : Int :=
  ((c.date.dayNumber : Int) - epochDay) * 86400 + c.secondOfDay

/-- The reading a number of seconds after the start of 1970, on the same clock,
if it lies in the years of the calendar. -/
def Civil.ofSeconds? (seconds : Int) : Option Civil :=
  let fromStart := seconds + epochDay * 86400
  if 0 ≤ fromStart ∧ fromStart < dayCount * 86400 then
    let n := fromStart.toNat
    let s := n % 86400
    some ⟨Date.ofDayNumber (n / 86400), s / 3600, s / 60 % 60, s % 60, 0⟩
  else none

/-- An instant whose UTC reading lies in the years of the calendar. -/
def Instant.InRange (t : Instant) : Prop :=
  0 ≤ t.seconds + epochDay * 86400 ∧ t.seconds + epochDay * 86400 < dayCount * 86400

instance (t : Instant) : Decidable t.InRange := by
  unfold Instant.InRange; infer_instance

/-- The reading of an instant at an offset. -/
def Instant.civilAt? (t : Instant) (offset : Int) : Option Civil :=
  Civil.ofSeconds? (t.seconds + offset)

/-- The instant of a moment; without an offset the reading is taken as UTC. -/
def Moment.instant (m : Moment) : Instant := ⟨m.civil.seconds - m.offset.getD 0⟩

/-- An offset of less than a day. -/
def OffsetOk (offset : Int) : Prop := -86400 < offset ∧ offset < 86400

instance (offset : Int) : Decidable (OffsetOk offset) := by
  unfold OffsetOk; infer_instance

/-- The moment that seven numbers and an offset name.  The offset is looked at
first, then the numbers from the year on. -/
def Moment.make? (year month day hour minute second microsecond : Int) (offset : Option Int) :
    Except Error Moment := do
  match offset with
  | some o => if ¬ OffsetOk o then throw (.offset o)
  | none => pure ()
  if year < firstYear ∨ (lastYear : Int) < year then throw (.year year)
  if month < 1 ∨ 12 < month then throw .month
  if day < 1 ∨ (daysInMonth year.toNat month.toNat : Int) < day then throw .day
  if hour < 0 ∨ 23 < hour then throw .hour
  if minute < 0 ∨ 59 < minute then throw .minute
  if second < 0 ∨ 59 < second then throw .second
  if microsecond < 0 ∨ 999999 < microsecond then throw .microsecond
  return ⟨⟨⟨year.toNat, month.toNat, day.toNat⟩, hour.toNat, minute.toNat, second.toNat,
    microsecond.toNat⟩, offset⟩

/-- The same moment read in UTC. -/
def Moment.toUtc? (m : Moment) : Except Error Moment :=
  match m.instant.civilAt? 0 with
  | some c => .ok ⟨{ c with microsecond := m.civil.microsecond }, some 0⟩
  | none => .error .outOfRange

/-! ### Writing -/

open Text (padded)

/-- A date with a year of four digits. -/
def Date.iso (d : Date) : List Char :=
  padded 4 d.year ++ '-' :: padded 2 d.month ++ '-' :: padded 2 d.day

/-- The time of day to the second. -/
def Civil.clockText (c : Civil) : List Char :=
  padded 2 c.hour ++ ':' :: padded 2 c.minute ++ ':' :: padded 2 c.second

/-- An offset with a colon after the hours, and with seconds only if there are
any. -/
def offsetText (offset : Int) : List Char :=
  let n := offset.natAbs
  (if offset < 0 then '-' else '+') :: padded 2 (n / 3600) ++ ':' :: padded 2 (n / 60 % 60) ++
    (if n % 60 = 0 then [] else ':' :: padded 2 (n % 60))

/-- A reading at an offset. -/
def Civil.isoAt (c : Civil) (offset : Int) : String :=
  String.ofList (c.date.iso ++ 'T' :: c.clockText ++ offsetText offset)

/-- The UTC reading of an instant, if it has one. -/
def Instant.iso? (t : Instant) : Option String := (t.civilAt? 0).map (·.isoAt 0)

end StartupReport.Calendar
