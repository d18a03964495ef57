/-
StartupReport/Proofs/Calendar/DayNumber.lean

Dates and day numbers.

A year has 365 days or, if it is a leap year, 366 (`daysBeforeYear_succ`), and
its months fill it (`totalDays_monthLengths`).  `splitYear_spec` and
`splitMonth_spec` say that the two halves of `Date.ofDayNumber` find the year
and the month that a day number falls into, by bracketing it between the days
before and the days after.  So every day number of the calendar has a valid
date with that number (`ofDayNumber_spec`), and no valid date has another
number (`dayNumber_lt`).
-/
import Mathlib.Data.Nat.Basic
import Mathlib.Order.Monotone.Basic
import Mathlib.Tactic.SplitIfs
import StartupReport.Calendar.Date

namespace StartupReport.Calendar

/-! ### Years -/

/-- The number of days of a year. -/
def yearLength (year : Nat) : Nat := if isLeap year then 366 else 365

theorem isLeap_iff (year : Nat) :
    isLeap year = true ↔ year % 4 = 0 ∧ (year % 100 ≠ 0 ∨ year % 400 = 0) := by
  simp [isLeap]

/-- A leap year is one day longer than the others. -/
theorem daysBeforeYear_succ (year : Nat) :
    daysBeforeYear (year + 1 + 1) = daysBeforeYear (year + 1) + yearLength (year + 1) := by
  have hsucc (d : Nat) : (year + 1) / d = year / d + if (year + 1) % d = 0 then 1 else 0 := by
    simp only [Nat.succ_div, Nat.dvd_iff_mod_eq_zero]
  have hle : year / 100 ≤ year / 4 := Nat.div_le_div_left (by decide) (by decide)
  have hmod : (year + 1) % 400 = 0 → (year + 1) % 100 = 0 := by omega
  have hmod' : (year + 1) % 100 = 0 → (year + 1) % 4 = 0 := by omega
  have hlength : yearLength (year + 1) =
      if (year + 1) % 4 = 0 ∧ ((year + 1) % 100 ≠ 0 ∨ (year + 1) % 400 = 0) then 366 else 365 := by
    simp only [yearLength, isLeap_iff]
  rw [hlength]
  simp only [daysBeforeYear, Nat.add_sub_cancel]
  rw [hsucc 4, hsucc 100, hsucc 400]
  -- the quotients and remainders are now plain numbers
  generalize year / 4 = a, year / 100 = b, year / 400 = c at hle ⊢
  generalize (year + 1) % 4 = p, (year + 1) % 100 = q, (year + 1) % 400 = r at hmod hmod' ⊢
  split_ifs <;> omega

theorem daysBeforeYear_mono : Monotone daysBeforeYear := by
  refine monotone_nat_of_le_succ fun n => ?_
  cases n with
  | zero => exact Nat.le_refl 0
  | succ n => exact (daysBeforeYear_succ n).symm ▸ Nat.le_add_right _ _

/-- A quotient that stops at three leaves a remainder, and a proper one unless
it stopped. -/
theorem capped_div (n d : Nat) (hd : 0 < d) :
    ∃ k, min (n / d) 3 = k ∧ k ≤ 3 ∧ k * d ≤ n ∧ (k < 3 → n - k * d < d) := by
  refine ⟨min (n / d) 3, rfl, Nat.min_le_right _ _, ?_, fun hlt => ?_⟩
  · exact le_trans (Nat.mul_le_mul_right d (Nat.min_le_left _ _)) (Nat.div_mul_le_self n d)
  · have hk : min (n / d) 3 = n / d := by omega
    rw [hk, Nat.sub_lt_iff_lt_add (Nat.div_mul_le_self n d), Nat.add_comm]
    exact Nat.lt_div_mul_add hd

/-- A year by its place in cycles of 400, 100 and 4 years. -/
theorem year_of_cycles (c a f b : Nat) (ha : a ≤ 3) (hf : f ≤ 24) (hb : b ≤ 3) :
    daysBeforeYear (400 * c + 100 * a + 4 * f + b + 1) =
        146097 * c + 36524 * a + 1461 * f + 365 * b ∧
      yearLength (400 * c + 100 * a + 4 * f + b + 1) =
        if b = 3 ∧ (f ≠ 24 ∨ a = 3) then 366 else 365 := by
  have h4 : (400 * c + 100 * a + 4 * f + b) / 4 = 100 * c + 25 * a + f := by omega
  have h100 : (400 * c + 100 * a + 4 * f + b) / 100 = 4 * c + a := by omega
  have h400 : (400 * c + 100 * a + 4 * f + b) / 400 = c := by omega
  constructor
  · simp only [daysBeforeYear, Nat.add_sub_cancel]
    rw [h4, h100, h400]
    omega
  · have hleap : (400 * c + 100 * a + 4 * f + b + 1) % 4 = 0 ∧
        ((400 * c + 100 * a + 4 * f + b + 1) % 100 ≠ 0 ∨
          (400 * c + 100 * a + 4 * f + b + 1) % 400 = 0) ↔ b = 3 ∧ (f ≠ 24 ∨ a = 3) := by
      omega
    simp only [yearLength, isLeap_iff, hleap]

/-- The year of a day number begins not after that day and ends after it. -/
theorem splitYear_spec (n : Nat) :
    1 ≤ (splitYear n).1 ∧ daysBeforeYear (splitYear n).1 + (splitYear n).2 = n ∧
      (splitYear n).2 < yearLength (splitYear n).1 := by
  obtain ⟨a, ha, ha3, hale, halt⟩ := capped_div (n % 146097) 36524 (by decide)
  obtain ⟨b, hb, hb3, hble, hblt⟩ :=
    capped_div ((n % 146097 - a * 36524) % 1461) 365 (by decide)
  have hf : (n % 146097 - a * 36524) / 1461 ≤ 24 := by omega
  have hsplit : splitYear n =
      (400 * (n / 146097) + 100 * a + 4 * ((n % 146097 - a * 36524) / 1461) + b + 1,
        (n % 146097 - a * 36524) % 1461 - b * 365) := by
    simp only [splitYear, ha, hb]
  obtain ⟨hdays, hlength⟩ := year_of_cycles (n / 146097) a _ b ha3 hf hb3
  rw [hsplit]
  -- the quotients that stop at three leave the leap days at the ends of their cycles
  refine ⟨Nat.le_add_left _ _, ?_, ?_⟩
  · rw [hdays]
    omega
  · rw [hlength]
    split_ifs <;> omega

/-! ### Months -/

/-- The days of months of given lengths. -/
def totalDays : List Nat → Nat
  | [] => 0
  | length :: lengths => length + totalDays lengths

theorem foldl_add_eq (lengths : List Nat) (n : Nat) :
    lengths.foldl (· + ·) n = n + totalDays lengths := by
  induction lengths generalizing n with
  | nil => rfl
  | cons length lengths ih => rw [List.foldl_cons, ih, totalDays, Nat.add_assoc]

theorem totalDays_monthLengths (year : Nat) : totalDays (monthLengths year) = yearLength year := by
  cases h : isLeap year <;> simp [monthLengths, totalDays, yearLength, h]

theorem daysBeforeMonth_eq (year month : Nat) :
    daysBeforeMonth year month = totalDays ((monthLengths year).take (month - 1)) := by
  rw [daysBeforeMonth, foldl_add_eq, Nat.zero_add]

/-- The month that a day falls into begins not after it and ends after it. -/
theorem splitMonth_spec (lengths : List Nat) (month n : Nat) (hn : n < totalDays lengths) :
    ∃ k, splitMonth month lengths n = (month + k, n - totalDays (lengths.take k) + 1) ∧
      totalDays (lengths.take k) ≤ n ∧ n - totalDays (lengths.take k) < lengths.getD k 0 := by
  induction lengths generalizing month n with
  | nil => exact absurd hn (Nat.not_lt_zero n)
  | cons length lengths ih =>
    by_cases hlt : n < length
    · refine ⟨0, ?_, Nat.zero_le n, ?_⟩
      · simp [splitMonth, totalDays, hlt]
      · simpa [totalDays] using hlt
    · rw [totalDays] at hn
      obtain ⟨k, hsplit, hle, hday⟩ := ih (month + 1) (n - length) (by omega)
      refine ⟨k + 1, ?_, ?_, ?_⟩
      · rw [splitMonth, if_neg hlt, hsplit, List.take_succ_cons, totalDays, Nat.sub_sub]
        congr 1
        omega
      · rw [List.take_succ_cons, totalDays]
        omega
      · rw [List.take_succ_cons, totalDays, List.getD_cons_succ, ← Nat.sub_sub]
        exact hday

/-- A month lies within the days of all months. -/
theorem totalDays_take_add_le (lengths : List Nat) (k : Nat) :
    totalDays (lengths.take k) + lengths.getD k 0 ≤ totalDays lengths := by
  induction lengths generalizing k with
  | nil => simp [totalDays]
  | cons length lengths ih =>
    cases k with
    | zero => simp [totalDays]
    | succ k =>
      rw [List.take_succ_cons, totalDays, List.getD_cons_succ, totalDays]
      have := ih k
      omega

theorem daysInMonth_succ (year k : Nat) :
    daysInMonth year (k + 1) = (monthLengths year).getD k 0 := by
  simp [daysInMonth]

theorem lt_of_daysInMonth_succ_pos {year k : Nat} (h : 0 < daysInMonth year (k + 1)) : k < 12 := by
  rw [daysInMonth_succ] at h
  by_contra hk
  have hend : (monthLengths year)[k]? = none := by
    rw [List.getElem?_eq_none_iff]
    exact Nat.le_of_not_lt hk
  rw [List.getD_eq_getElem?_getD, hend] at h
  exact Nat.lt_irrefl 0 h

/-- No month is longer than 31 days. -/
theorem daysInMonth_le (year month : Nat) : daysInMonth year month ≤ 31 := by
  cases month with
  | zero => exact Nat.zero_le 31
  | succ k =>
    rw [daysInMonth_succ, List.getD_eq_getElem?_getD]
    cases hlength : (monthLengths year)[k]? with
    | none => exact Nat.zero_le 31
    | some length =>
      have hall : ∀ l ∈ monthLengths year, l ≤ 31 := by
        unfold monthLengths
        cases isLeap year <;> decide
      exact hall length (List.mem_of_getElem? hlength)

/-! ### Dates -/

/-- Every day number of the calendar is the number of a date. -/
theorem ofDayNumber_spec {n : Nat} (hn : n < dayCount) :
    (Date.ofDayNumber n).Valid ∧ (Date.ofDayNumber n).dayNumber = n := by
  obtain ⟨hfirst, hyear, hrest⟩ := splitYear_spec n
  generalize hs : splitYear n = s at hfirst hyear hrest
  obtain ⟨year, rest⟩ := s
  simp only at hfirst hyear hrest
  rw [← totalDays_monthLengths] at hrest
  obtain ⟨k, hsplit, hle, hday⟩ := splitMonth_spec (monthLengths year) 1 rest hrest
  have hdate : Date.ofDayNumber n =
      ⟨year, 1 + k, rest - totalDays ((monthLengths year).take k) + 1⟩ := by
    rw [Date.ofDayNumber, hs]
    show Date.mk year (splitMonth 1 (monthLengths year) rest).1
      (splitMonth 1 (monthLengths year) rest).2 = _
    rw [hsplit]
  have hlast : year ≤ lastYear := by
    by_contra h
    -- a later year begins when the calendar has ended
    have hlater : lastYear + 1 ≤ year := Nat.lt_of_not_le h
    have hbegin : dayCount ≤ daysBeforeYear year := by
      rw [dayCount]
      exact daysBeforeYear_mono hlater
    omega
  rw [← daysInMonth_succ] at hday
  have hk : k < 12 := lt_of_daysInMonth_succ_pos (Nat.zero_lt_of_lt hday)
  rw [hdate]
  constructor
  · refine ⟨hfirst, hlast, Nat.le_add_right 1 k, ?_, Nat.le_add_left 1 _, ?_⟩
    · exact Nat.add_le_add_left (Nat.le_of_lt_succ hk) 1
    · rw [Nat.add_comm 1 k]
      exact hday
  · simp only [Date.dayNumber, daysBeforeMonth_eq, Nat.add_sub_cancel, Nat.add_sub_cancel_left]
    omega

/-- A date of the calendar has a day number of the calendar. -/
theorem dayNumber_lt {d : Date} (h : d.Valid) : d.dayNumber < dayCount := by
  obtain ⟨hfirst, hlast, hmonth, -, hday, hdays⟩ := h
  obtain ⟨year, hyear⟩ := Nat.exists_eq_add_of_le' hfirst
  obtain ⟨k, hk⟩ := Nat.exists_eq_add_of_le' hmonth
  have hwithin := totalDays_take_add_le (monthLengths d.year) k
  rw [totalDays_monthLengths, ← daysInMonth_succ, ← hk] at hwithin
  have hend : daysBeforeYear (d.year + 1) = daysBeforeYear d.year + yearLength d.year := by
    rw [show d.year = year + 1 from hyear]
    exact daysBeforeYear_succ year
  have hcalendar : daysBeforeYear (d.year + 1) ≤ dayCount := by
    rw [dayCount]
    exact daysBeforeYear_mono (Nat.succ_le_succ hlast)
  have hnumber : d.dayNumber =
      daysBeforeYear d.year + totalDays ((monthLengths d.year).take k) + (d.day - 1) := by
    rw [Date.dayNumber, daysBeforeMonth_eq, hk, Nat.add_sub_cancel]
  omega

end StartupReport.Calendar
