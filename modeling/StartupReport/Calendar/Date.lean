/-
StartupReport/Calendar/Date.lean

Dates of the Gregorian calendar, counted in days.

Day 0 is the first of January of year 1.  `Date.dayNumber` counts the days
before a date and `Date.ofDayNumber` finds the date again; a year is found by
taking out whole cycles of 400, 100, 4 and 1 years, a month by walking through
the lengths of the twelve months.
-/

namespace StartupReport.Calendar

/-- A year with a twenty-ninth of February. -/
def isLeap (year : Nat) : Bool :=
  year % 4 == 0 && (year % 100 != 0 || year % 400 == 0)

/-- The lengths of the months of a year, January first. -/
def monthLengths (year : Nat) : List Nat :=
  [31, if isLeap year then 29 else 28, 31, 30, 31, 30, 31, 31, 30, 31, 30, 31]

/-- The length of a month, zero for a number that is no month. -/
def daysInMonth (year month : Nat) : Nat :=
  if month = 0 then 0 else (monthLengths year).getD (month - 1) 0

/-- A day, by its year, month and day of the month. -/
structure Date where
  year : Nat
  month : Nat
  day : Nat
deriving DecidableEq, Repr

/-- The first year of the calendar. -/
def firstYear : Nat := 1

/-- The last year of the calendar. -/
def lastYear : Nat := 9999

/-- A date that exists and lies in the years of the calendar. -/
def Date.Valid (d : Date) : Prop :=
  firstYear ≤ d.year ∧ d.year ≤ lastYear ∧ 1 ≤ d.month ∧ d.month ≤ 12 ∧
    1 ≤ d.day ∧ d.day ≤ daysInMonth d.year d.month

instance (d : Date) : Decidable d.Valid := by
  unfold Date.Valid; infer_instance

/-- The days before the first of January of a year. -/
def daysBeforeYear (year : Nat) : Nat :=
  let y := year - 1
  365 * y + y / 4 - y / 100 + y / 400

/-- The days of a year before the first of a month. -/
def daysBeforeMonth (year month : Nat) : Nat :=
  ((monthLengths year).take (month - 1)).foldl (· + ·) 0

/-- The number of days before a date. -/
def Date.dayNumber (d : Date) : Nat :=
  daysBeforeYear d.year + daysBeforeMonth d.year d.month + (d.day - 1)

/-- The year of a day number and the days of that year before it.  The last
hundred years of four hundred, and the last year of four, are one day longer
than the others, which is why their quotients stop at three. -/
def splitYear (n : Nat) : Nat × Nat :=
  let cycles := n / 146097
  let inCycle := n % 146097
  let centuries := min (inCycle / 36524) 3
  let inCentury := inCycle - centuries * 36524
  let fours := inCentury / 1461
  let inFour := inCentury % 1461
  let years := min (inFour / 365) 3
  (400 * cycles + 100 * centuries + 4 * fours + years + 1, inFour - years * 365)

/-- The month and day of the month that lie `n` days after the first of
`month`, where `lengths` are the lengths of the months from there on. -/
def splitMonth (month : Nat) : List Nat → Nat → Nat × Nat
  | [], n => (month, n + 1)
  | length :: lengths, n =>
    if n < length then (month, n + 1) else splitMonth (month + 1) lengths (n - length)

/-- The date before which there are `n` days. -/
def Date.ofDayNumber (n : Nat) : Date :=
  let (year, inYear) := splitYear n
  let (month, day) := splitMonth 1 (monthLengths year) inYear
  ⟨year, month, day⟩

/-- The number of days of the calendar. -/
def dayCount : Nat := daysBeforeYear (lastYear + 1)

end StartupReport.Calendar
