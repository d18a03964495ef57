/-
StartupReport/Calendar/Zone.lean

Time zones as rules that give every instant an offset from UTC.

Which zones there are is not settled here: `Zones` are the zones of a host, by
their names.  The two that are known by themselves are UTC and Berlin, where
the rule is a table of past changes followed by one that holds for ever.
Berlin kept local mean time until 1893, has a table of changes from then to
1996, and since then changes at one in the morning of the last Sunday of
March and of October, UTC.
-/
import StartupReport.Calendar.Moment

namespace StartupReport.Calendar

/-- A time zone: the offset from UTC, in seconds, that its clocks have at every
instant. -/
structure Zone where
  offsetAt : Instant → Int

/-- Time zones by their names. -/
abbrev Zones := String → Option Zone

/-! ### Berlin -/

/-- Offset of local mean time in Berlin. -/
def berlinMeanOffset : Int := 3208

/-- The changes of the offset in Berlin up to 1996, each with the instant from
which it holds. -/
def berlinChanges : List (Int × Int) :=
  [(-2422054408, 3600), (-1693706400, 7200), (-1680483600, 3600), (-1663455600, 7200),
   (-1650150000, 3600), (-1632006000, 7200), (-1618700400, 3600), (-938905200, 7200),
   (-857257200, 3600), (-844556400, 7200), (-828226800, 3600), (-812502000, 7200),
   (-796777200, 3600), (-781052400, 7200), (-776563200, 10800), (-765936000, 7200),
   (-761180400, 3600), (-748479600, 7200), (-733273200, 3600), (-717631200, 7200),
   (-714610800, 10800), (-710380800, 7200), (-701910000, 3600), (-684975600, 7200),
   (-670460400, 3600), (-654130800, 7200), (-639010800, 3600), (323830800, 7200),
   (338950800, 3600), (354675600, 7200), (370400400, 3600), (386125200, 7200),
   (401850000, 3600), (417574800, 7200), (433299600, 3600), (449024400, 7200),
   (465354000, 3600), (481078800, 7200), (496803600, 3600), (512528400, 7200),
   (528253200, 3600), (543978000, 7200), (559702800, 3600), (575427600, 7200),
   (591152400, 3600), (606877200, 7200), (622602000, 3600), (638326800, 7200),
   (654656400, 3600), (670381200, 7200), (686106000, 3600), (701830800, 7200),
   (717555600, 3600), (733280400, 7200), (749005200, 3600), (764730000, 7200),
   (780454800, 3600), (796179600, 7200), (811904400, 3600), (828234000, 7200)]

/-- The last instant of the table; from here on the yearly rule holds. -/
def berlinRuleStart : Int := 828234000

/-- The day number of the last Sunday of a month of 31 days.  Day 0 of the
calendar is a Monday, so Sundays are the days that leave six. -/
def lastSunday (year month : Nat) : Nat :=
  let last := (Date.mk year month 31).dayNumber
  last - (last + 1) % 7

/-- One in the morning, UTC, of a day. -/
def oneOClock (day : Nat) : Int := ((day : Int) - epochDay) * 86400 + 3600

/-- The year in whose UTC reading an instant falls. -/
def yearOfSeconds (seconds : Int) : Nat :=
  (splitYear ((seconds + epochDay * 86400) / 86400).toNat).1

/-- Summer time holds from the last Sunday of March to the last Sunday of
October. -/
def isSummer (seconds : Int) : Bool :=
  let year := yearOfSeconds seconds
  oneOClock (lastSunday year 3) ≤ seconds && seconds < oneOClock (lastSunday year 10)

/-- The offset that the last change not after an instant brought. -/
def offsetFrom (start : Int) (changes : List (Int × Int)) (seconds : Int) : Int :=
  match changes with
  | [] => start
  | (since, offset) :: rest => if seconds < since then start else offsetFrom offset rest seconds

/-- The offset from UTC that the clocks in Berlin have at an instant. -/
def berlinOffset (t : Instant) : Int :=
  if t.seconds < berlinRuleStart then offsetFrom berlinMeanOffset berlinChanges t.seconds
  else if isSummer t.seconds then 7200 else 3600

/-! ### Zones and what they show -/

/-- The clocks that show UTC. -/
def Zone.utc : Zone := ⟨fun _ => 0⟩

/-- The clocks in Berlin. -/
def Zone.berlin : Zone := ⟨berlinOffset⟩

/-- The zones that are known by themselves. -/
def Zone.named? (name : String) : Option Zone :=
  if name = "UTC" then some .utc
  else if name = "Europe/Berlin" then some .berlin
  else none

/-- An instant as the zone's clocks show it, with their offset. -/
def Zone.display (z : Zone) (t : Instant) : Except Error String :=
  let offset := z.offsetAt t
  match t.civilAt? offset with
  | some c => .ok (c.isoAt offset)
  | none => .error .outOfRange

end StartupReport.Calendar
