/-
StartupReport/Proofs/Calendar/Display.lean

Which instants the clocks in Berlin can show.

The offset in Berlin is always east of UTC and never more than three hours
(`berlin_offset_bounds`), so the first instants of the calendar have a reading
there, and the only ones without are at its other end.  On the last day of the
year 9999 it is winter and the offset one hour (`berlin_offset_of_last_day`).
Together: an instant of the calendar is shown iff it does not lie in the last
hour (`display_berlin`).

In every zone the text of an instant has a colon in its offset as in its clock,
so that it is never shorter than 25 characters (`length_display`).
-/
import StartupReport.Calendar.Zone
import StartupReport.Proofs.Calendar.Reading

namespace StartupReport.Calendar

/-- The end of the calendar in UTC, in seconds from the start of 1970. -/
def endOfCalendar : Int := 253402300800

theorem endOfCalendar_eq : endOfCalendar = ((dayCount : Int) - epochDay) * 86400 := by decide

/-- An instant in the last hour of the calendar or after it. -/
def Instant.InLastHour (t : Instant) : Prop := endOfCalendar - 3600 ≤ t.seconds

instance (t : Instant) : Decidable t.InLastHour := by
  unfold Instant.InLastHour; infer_instance

/-! ### The offset in Berlin -/

/-- The offset at an instant is the one before the table or one of the table. -/
theorem offsetFrom_mem (start : Int) (changes : List (Int × Int)) (seconds : Int) :
    offsetFrom start changes seconds ∈ start :: changes.map Prod.snd := by
  induction changes generalizing start with
  | nil => exact List.mem_cons_self
  | cons change changes ih =>
    obtain ⟨since, offset⟩ := change
    rw [offsetFrom]
    split
    · exact List.mem_cons_self
    · exact List.mem_cons_of_mem start (ih offset)

/-- Berlin is east of UTC, by three hours at most. -/
theorem berlin_offset_bounds (t : Instant) :
    0 < Zone.berlin.offsetAt t ∧ Zone.berlin.offsetAt t ≤ 10800 := by
  show 0 < berlinOffset t ∧ berlinOffset t ≤ 10800
  rw [berlinOffset]
  split
  · have all : ∀ offset ∈ berlinMeanOffset :: berlinChanges.map Prod.snd,
        0 < offset ∧ offset ≤ 10800 := by
      decide
    exact all _ (offsetFrom_mem _ _ _)
  · split <;> decide

/-- The last day of the calendar lies in winter. -/
theorem berlin_offset_of_last_day {t : Instant} (hfrom : endOfCalendar - 86400 ≤ t.seconds)
    (hto : t.seconds < endOfCalendar) : Zone.berlin.offsetAt t = 3600 := by
  -- all instants of one day share its number, and with it the year
  have hday : ((t.seconds + epochDay * 86400) / 86400).toNat = dayCount - 1 := by
    have hcount : (dayCount : Int) = 3652059 := by decide
    have hepoch : (epochDay : Int) = 719162 := by decide
    simp only [endOfCalendar] at hfrom hto
    omega
  have hyear : yearOfSeconds t.seconds = 9999 := by
    rw [yearOfSeconds, hday]
    decide
  have hsummer : isSummer t.seconds = false := by
    have hautumn : oneOClock (lastSunday 9999 10) ≤ endOfCalendar - 86400 := by decide
    simp only [isSummer, hyear, Bool.and_eq_false_iff, decide_eq_false_iff_not]
    exact .inr (not_lt.2 (hautumn.trans hfrom))
  have hrule : ¬ t.seconds < berlinRuleStart := by
    have hstart : berlinRuleStart ≤ endOfCalendar - 86400 := by decide
    exact not_lt.2 (hstart.trans hfrom)
  show berlinOffset t = 3600
  rw [berlinOffset, if_neg hrule, hsummer]
  rfl

/-! ### Instants that are shown -/

theorem display_of_inRange {z : Zone} {t : Instant}
    (h : (Instant.mk (t.seconds + z.offsetAt t)).InRange) : ∃ text, z.display t = .ok text := by
  obtain ⟨c, hc⟩ := exists_civilAt? h
  rw [Instant.civilAt?, Int.add_zero] at hc
  exact ⟨c.isoAt (z.offsetAt t), by simp only [Zone.display, Instant.civilAt?, hc]⟩

theorem display_of_not_inRange {z : Zone} {t : Instant}
    (h : ¬ (Instant.mk (t.seconds + z.offsetAt t)).InRange) :
    z.display t = .error .outOfRange := by
  simp only [Zone.display, civilAt?_eq_none h]

/-- What is shown of an instant is the text of a reading that exists, the one that lies
ahead of UTC by the offset. -/
theorem exists_civil_of_display {z : Zone} {t : Instant} {text : String}
    (h : z.display t = .ok text) : ∃ c : Civil, c.Valid ∧ c.microsecond = 0 ∧
      c.seconds = t.seconds + z.offsetAt t ∧ text = c.isoAt (z.offsetAt t) := by
  unfold Zone.display at h
  rcases hc : t.civilAt? (z.offsetAt t) with - | c
  · simp only [hc] at h
    cases h
  · simp only [hc, Except.ok.injEq] at h
    obtain ⟨hvalid, hmicrosecond, hseconds⟩ := ofSeconds?_spec hc
    exact ⟨c, hvalid, hmicrosecond, hseconds, h.symm⟩

/-- The text of a reading is longer by three characters if the offset has seconds. -/
theorem length_isoAt (c : Civil) (offset : Int) :
    (c.isoAt offset).toList.length = if offset % 60 = 0 then 25 else 28 := by
  have hseconds : offset.natAbs % 60 = 0 ↔ offset % 60 = 0 := by omega
  simp only [Civil.isoAt, Date.iso, Civil.clockText, offsetText, String.toList_ofList,
    List.length_append, List.length_cons, Text.length_padded, hseconds]
  split <;> rfl

/-- What is shown of an instant has a colon in its offset, in every zone. -/
theorem length_display {z : Zone} {t : Instant} {text : String} (h : z.display t = .ok text) :
    25 ≤ text.toList.length := by
  obtain ⟨c, -, -, -, rfl⟩ := exists_civil_of_display h
  rw [length_isoAt]
  split <;> decide

/-- What the clocks in Berlin show lies in the calendar, unless the last hour of
the calendar has begun in UTC. -/
theorem berlin_inRange_iff {t : Instant} (h : t.InRange) :
    (Instant.mk (t.seconds + Zone.berlin.offsetAt t)).InRange ↔ ¬ t.InLastHour := by
  obtain ⟨hpos, hle⟩ := berlin_offset_bounds t
  have hend := endOfCalendar_eq
  simp only [Instant.InRange, Instant.InLastHour] at h ⊢
  by_cases hday : endOfCalendar - 86400 ≤ t.seconds
  · have hoffset := berlin_offset_of_last_day hday (by omega)
    omega
  -- before the last day three hours do not reach the end
  · omega

/-- **The instants that Berlin shows.**  An instant of the calendar has a text
there iff it is not in the last hour; in the last hour it is out of range. -/
theorem display_berlin {t : Instant} (h : t.InRange) :
    (¬ t.InLastHour → ∃ text, Zone.berlin.display t = .ok text) ∧
      (t.InLastHour → Zone.berlin.display t = .error .outOfRange) := by
  constructor
  · intro hlast
    exact display_of_inRange ((berlin_inRange_iff h).2 hlast)
  · intro hlast
    exact display_of_not_inRange fun hrange => (berlin_inRange_iff h).1 hrange hlast

end StartupReport.Calendar
