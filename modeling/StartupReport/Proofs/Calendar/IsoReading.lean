/-
StartupReport/Proofs/Calendar/IsoReading.lean

Reading a local date and time with its offset.

`Moment.ofIso?` reads `yyyy-MM-ddTHH:mm:ss` with an offset `+HH:mm` or `+HH:mm:ss`
behind it, from the left, part by part: numbers of a fixed width (`number?`), marks
between them (`mark?`), a sign.  It knows nothing of zones and of how such texts are
written, and takes only readings and offsets that exist.

Main result: `ofIso?_isoAt`, by which every valid reading at every offset of less than
a day is read back from its text, whatever its seconds.
-/
import StartupReport.Proofs.Calendar.WrittenTimestamp

namespace StartupReport.Calendar

open Text (padded)

/-! ### Numbers and marks -/

/-- A decimal digit of ASCII. -/
def isAsciiDigit (c : Char) : Bool := '0' ≤ c && c ≤ '9'

/-- The number that decimal digits of ASCII denote. -/
def decimalOf (ds : List Char) : Nat := ds.foldl (fun n c => 10 * n + (c.toNat - '0'.toNat)) 0

/-- A number of `width` digits at the beginning of a text, and what follows it. -/
def number? (width : Nat) (cs : List Char) : Option (Nat × List Char) :=
  if (cs.take width).length = width ∧ (cs.take width).all isAsciiDigit then
    some (decimalOf (cs.take width), cs.drop width)
  else none

/-- What follows a mark at the beginning of a text. -/
def mark? (mark : Char) : List Char → Option (List Char)
  | [] => none
  | c :: cs => if c = mark then some cs else none

/-- Whether a text begins with the sign of an offset to the west, and what follows
the sign. -/
def sign? : List Char → Option (Bool × List Char)
  | '+' :: cs => some (false, cs)
  | '-' :: cs => some (true, cs)
  | _ => none

/-- The seconds of an offset at the end of a text, none if the text has ended. -/
def lastSeconds? : List Char → Option Nat
  | [] => some 0
  | c :: cs =>
    match mark? ':' (c :: cs) >>= number? 2 with
    | some (n, []) => some n
    | _ => none

theorem decimalOf_append (ds : List Char) (c : Char) :
    decimalOf (ds ++ [c]) = 10 * decimalOf ds + (c.toNat - '0'.toNat) := by
  rw [decimalOf, List.foldl_append]
  rfl

theorem decimalChar_facts {d : Nat} (h : d < 10) :
    isAsciiDigit (decimalChar d) = true ∧ (decimalChar d).toNat - '0'.toNat = d := by
  have all : ∀ d < 10, isAsciiDigit (decimalChar d) = true ∧
      (decimalChar d).toNat - '0'.toNat = d := by
    decide
  exact all d h

/-- A number that fits its width is what its digits denote. -/
theorem decimalOf_padded {width n : Nat} (h : n < 10 ^ width) :
    (padded width n).all isAsciiDigit = true ∧ decimalOf (padded width n) = n := by
  induction width generalizing n with
  | zero =>
    obtain rfl : n = 0 := by simpa using h
    exact ⟨rfl, rfl⟩
  | succ width ih =>
    have hfront : n / 10 < 10 ^ width := by
      rw [Nat.pow_succ] at h
      exact Nat.div_lt_of_lt_mul (Nat.mul_comm _ _ ▸ h)
    obtain ⟨hdigits, hvalue⟩ := ih hfront
    obtain ⟨hlast, hlastValue⟩ := decimalChar_facts (Nat.mod_lt n (by decide : 0 < 10))
    have hcut : padded (width + 1) n = padded width (n / 10) ++ [decimalChar (n % 10)] := rfl
    rw [hcut, decimalOf_append, hvalue, hlastValue, List.all_append, hdigits]
    exact ⟨by simp [hlast], Nat.div_add_mod n 10⟩

/-- A number that is written is read, before whatever follows. -/
theorem number?_padded {width n : Nat} (h : n < 10 ^ width) (rest : List Char) :
    number? width (padded width n ++ rest) = some (n, rest) := by
  have hlength : (padded width n).length = width := Text.length_padded width n
  have htake : (padded width n ++ rest).take width = padded width n := by
    rw [List.take_append_of_le_length hlength.ge, List.take_of_length_le hlength.le]
  have hdrop : (padded width n ++ rest).drop width = rest := List.drop_left' hlength
  obtain ⟨hdigits, hvalue⟩ := decimalOf_padded h
  rw [number?, htake, hdrop, if_pos ⟨hlength, hdigits⟩, hvalue]

theorem mark?_cons (mark : Char) (rest : List Char) : mark? mark (mark :: rest) = some rest :=
  if_pos rfl

theorem sign?_cons (west : Bool) (rest : List Char) :
    sign? ((if west then '-' else '+') :: rest) = some (west, rest) := by
  cases west <;> rfl

/-- Seconds are written only if there are any, and read either way. -/
theorem lastSeconds?_written {n : Nat} (h : n < 60) :
    lastSeconds? (if n = 0 then [] else ':' :: padded 2 n) = some n := by
  split
  · next hn => exact congrArg some hn.symm
  · have hread : number? 2 (padded 2 n) = some (n, []) := by
      simpa using number?_padded (show n < 10 ^ 2 by omega) []
    rw [lastSeconds?, mark?_cons, Option.bind_eq_bind, Option.bind_some, hread]

/-! ### Dates, clocks and offsets -/

/-- A date at the beginning of a text, and what follows it. -/
def date? (cs : List Char) : Option (Date × List Char) := do
  let (year, cs) ← number? 4 cs
  let cs ← mark? '-' cs
  let (month, cs) ← number? 2 cs
  let cs ← mark? '-' cs
  let (day, cs) ← number? 2 cs
  return (⟨year, month, day⟩, cs)

/-- The reading of a clock on a day, to the second, and what follows it. -/
def clock? (date : Date) (cs : List Char) : Option (Civil × List Char) := do
  let (hour, cs) ← number? 2 cs
  let cs ← mark? ':' cs
  let (minute, cs) ← number? 2 cs
  let cs ← mark? ':' cs
  let (second, cs) ← number? 2 cs
  return (⟨date, hour, minute, second, 0⟩, cs)

/-- The offset that a text is, in seconds, with minutes and seconds below sixty. -/
def offset? (cs : List Char) : Option Int := do
  let (west, cs) ← sign? cs
  let (hours, cs) ← number? 2 cs
  let cs ← mark? ':' cs
  let (minutes, cs) ← number? 2 cs
  let seconds ← lastSeconds? cs
  let size : Int := hours * 3600 + minutes * 60 + seconds
  if minutes < 60 ∧ seconds < 60 then some (if west then -size else size) else none

theorem date?_iso {d : Date} (h : d.Valid) (rest : List Char) :
    date? (d.iso ++ rest) = some (d, rest) := by
  obtain ⟨-, hyear, -, hmonth, -, hday⟩ := h
  have hdays := daysInMonth_le d.year d.month
  simp only [lastYear] at hyear
  simp only [Date.iso, date?, List.append_assoc, List.cons_append,
    number?_padded (show d.year < 10 ^ 4 by omega), number?_padded (show d.month < 10 ^ 2 by omega),
    number?_padded (show d.day < 10 ^ 2 by omega), mark?_cons, Option.bind_eq_bind,
    Option.bind_some]
  rfl

theorem clock?_clockText {c : Civil} (h : c.Valid) (hmicrosecond : c.microsecond = 0)
    (rest : List Char) : clock? c.date (c.clockText ++ rest) = some (c, rest) := by
  obtain ⟨date, hour, minute, second, microsecond⟩ := c
  obtain rfl : microsecond = 0 := hmicrosecond
  obtain ⟨-, hhour, hminute, hsecond, -⟩ := h
  simp only at hhour hminute hsecond
  simp only [Civil.clockText, clock?, List.append_assoc, List.cons_append,
    number?_padded (show hour < 10 ^ 2 by omega), number?_padded (show minute < 10 ^ 2 by omega),
    number?_padded (show second < 10 ^ 2 by omega), mark?_cons, Option.bind_eq_bind,
    Option.bind_some]
  rfl

/-- Hours, minutes and seconds make up an offset, east or west. -/
theorem offset?_offsetText {offset : Int} (h : OffsetOk offset) :
    offset? (offsetText offset) = some offset := by
  have hsize : offset.natAbs < 86400 := by
    unfold OffsetOk at h
    omega
  have hminutes : offset.natAbs / 60 % 60 < 60 := Nat.mod_lt _ (by decide)
  have hseconds : offset.natAbs % 60 < 60 := Nat.mod_lt _ (by decide)
  have hsign : (if offset < 0 then '-' else '+') = if decide (offset < 0) then '-' else '+' := by
    simp only [decide_eq_true_eq]
  simp only [offsetText, hsign, offset?, List.append_assoc, List.cons_append, sign?_cons,
    number?_padded (show offset.natAbs / 3600 < 10 ^ 2 by omega),
    number?_padded (show offset.natAbs / 60 % 60 < 10 ^ 2 by omega), mark?_cons,
    lastSeconds?_written hseconds, Option.bind_eq_bind, Option.bind_some]
  rw [if_pos ⟨hminutes, hseconds⟩, Option.some.injEq]
  by_cases hwest : offset < 0
  · rw [if_pos (decide_eq_true hwest)]
    omega
  · rw [if_neg (by simpa using hwest)]
    omega

/-! ### Moments -/

/-- The moment that a text shows: a local date and time, and the offset at which they
are read, all of which exist. -/
def Moment.ofIso? (text : String) : Option Moment := do
  let (date, cs) ← date? text.toList
  let cs ← mark? 'T' cs
  let (civil, cs) ← clock? date cs
  let offset ← offset? cs
  if (Moment.mk civil (some offset)).Valid then some ⟨civil, some offset⟩ else none

/-- **What is shown is read back.**  The text of a valid reading at an offset, with or
without seconds in the offset, is read as that reading at that offset. -/
theorem ofIso?_isoAt {c : Civil} (hvalid : c.Valid) (hmicrosecond : c.microsecond = 0)
    {offset : Int} (hoffset : OffsetOk offset) :
    Moment.ofIso? (c.isoAt offset) = some ⟨c, some offset⟩ := by
  have hmoment : (Moment.mk c (some offset)).Valid := by
    refine ⟨hvalid, ?_⟩
    rintro _ ⟨⟩
    exact hoffset
  simp only [Moment.ofIso?, Civil.isoAt, String.toList_ofList, List.append_assoc, List.cons_append,
    date?_iso hvalid.1, mark?_cons, clock?_clockText hvalid hmicrosecond,
    offset?_offsetText hoffset, Option.bind_eq_bind, Option.bind_some]
  exact if_pos hmoment

end StartupReport.Calendar
