/-
StartupReport/Proofs/Calendar/Reading.lean

Instants and their UTC readings.

`Civil.Valid` says which readings a calendar and a clock can show.  An instant
of the calendar has one, and it names the same second (`ofSeconds?_spec`,
`exists_ofSeconds?`); an instant outside has none (`inRange_iff`).  So the
range that `Instant.InRange` checks by two comparisons is exactly the range of
the valid readings.
-/
import StartupReport.Calendar.Moment
import StartupReport.Proofs.Calendar.DayNumber

namespace StartupReport.Calendar

/-! ### Valid readings -/

/-- A reading that exists: a date of the calendar and a time of day. -/
def Civil.Valid (c : Civil) : Prop :=
  c.date.Valid ∧ c.hour ≤ 23 ∧ c.minute ≤ 59 ∧ c.second ≤ 59 ∧ c.microsecond ≤ 999999

instance (c : Civil) : Decidable c.Valid := by
  unfold Civil.Valid; infer_instance

theorem secondOfDay_lt {c : Civil} (h : c.Valid) : c.secondOfDay < 86400 := by
  obtain ⟨-, hhour, hminute, hsecond, -⟩ := h
  unfold Civil.secondOfDay
  omega

/-- A valid reading at UTC names an instant of the calendar. -/
theorem inRange_of_valid {c : Civil} (h : c.Valid) : (Instant.mk c.seconds).InRange := by
  have hday := dayNumber_lt h.1
  have hsecond := secondOfDay_lt h
  simp only [Instant.InRange, Civil.seconds]
  omega

/-! ### The reading of an instant -/

/-- The second of the day is shown by the clock. -/
theorem secondOfDay_ofSecond (d : Date) (s : Nat) :
    (Civil.mk d (s / 3600) (s / 60 % 60) (s % 60) 0).secondOfDay = s := by
  simp only [Civil.secondOfDay]
  omega

/-- A reading that is shown is valid, has no microseconds and names the second
it was made for. -/
theorem ofSeconds?_spec {seconds : Int} {c : Civil} (h : Civil.ofSeconds? seconds = some c) :
    c.Valid ∧ c.microsecond = 0 ∧ c.seconds = seconds := by
  unfold Civil.ofSeconds? at h
  simp only at h
  split at h
  case isFalse => cases h
  case isTrue hrange =>
    obtain ⟨n, hn⟩ := Int.eq_ofNat_of_zero_le hrange.1
    rw [hn, Int.toNat_natCast, Option.some.injEq] at h
    subst h
    -- the day is the quotient by 86400, the second of the day the remainder
    have hcount : n < dayCount * 86400 := by omega
    obtain ⟨hdate, hnumber⟩ :=
      ofDayNumber_spec (Nat.div_lt_of_lt_mul ((Nat.mul_comm _ _).symm ▸ hcount))
    refine ⟨⟨hdate, ?_, ?_, ?_, Nat.zero_le _⟩, rfl, ?_⟩
    · exact Nat.le_of_lt_succ (Nat.div_lt_of_lt_mul (Nat.mod_lt n (by decide)))
    · exact Nat.le_of_lt_succ (Nat.mod_lt _ (by decide))
    · exact Nat.le_of_lt_succ (Nat.mod_lt _ (by decide))
    · rw [Civil.seconds, secondOfDay_ofSecond]
      simp only [hnumber]
      omega

/-- Every instant of the calendar has a UTC reading. -/
theorem exists_civilAt? {t : Instant} (h : t.InRange) : ∃ c, t.civilAt? 0 = some c := by
  rw [Instant.civilAt?, Int.add_zero]
  exact ⟨_, if_pos h⟩

theorem civilAt?_eq_none {t : Instant} {offset : Int}
    (h : ¬ (Instant.mk (t.seconds + offset)).InRange) : t.civilAt? offset = none :=
  if_neg h

/-- The instants of the calendar are those that a valid reading names. -/
theorem inRange_iff (t : Instant) : t.InRange ↔ ∃ c : Civil, c.Valid ∧ c.seconds = t.seconds := by
  constructor
  · intro h
    obtain ⟨c, hc⟩ := exists_civilAt? h
    rw [Instant.civilAt?, Int.add_zero] at hc
    obtain ⟨hvalid, -, hseconds⟩ := ofSeconds?_spec hc
    exact ⟨c, hvalid, hseconds⟩
  · rintro ⟨c, hvalid, hseconds⟩
    have := inRange_of_valid hvalid
    rw [hseconds] at this
    exact this

end StartupReport.Calendar
