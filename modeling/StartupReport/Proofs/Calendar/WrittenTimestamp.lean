/-
StartupReport/Proofs/Calendar/WrittenTimestamp.lean

Timestamps that are written, and the characters of those that are read.

A moment from the year 1000 on whose offset is of whole minutes is written as a
stamp (`toList_writeTimestamp`), so what is read again is its instant; the
microseconds are not written (`readTimestamp_writeTimestamp_of_minutes`).  In UTC
that instant is always one of the calendar (`readTimestamp_writeTimestamp`).

In a text that is read as a timestamp, every character fills a place
(`fillsPlaces_of_readTimestamp`).  That holds in any script: the one line feed
that the form lets through is refused afterwards.  So a year of fewer digits, no
offset and one with seconds are given away by the places that they leave open or
take too many, and `readTimestamp_writeTimestamp_iff` names all that is read back.
-/
import Mathlib.Data.Nat.Digits.Defs
import StartupReport.Proofs.Calendar.TimestampForm

namespace StartupReport.Calendar

open Text (padded)

/-! ### Years of four digits -/

theorem digitChar_eq_decimalChar {d : Nat} (h : d < 10) : d.digitChar = decimalChar d := by
  have all : ∀ d < 10, d.digitChar = decimalChar d := by decide
  exact all d h

/-- The last digit of a number stands behind the digits of its tenth. -/
theorem toDigits_of_ten_le {n : Nat} (h : 10 ≤ n) :
    Nat.toDigits 10 n = Nat.toDigits 10 (n / 10) ++ [decimalChar (n % 10)] := by
  rw [Nat.toDigits_of_base_le (by decide) h, digitChar_eq_decimalChar (Nat.mod_lt n (by decide))]

/-- A number from 1000 to 9999 has four digits. -/
theorem toDigits_eq_padded_four {n : Nat} (hlow : 1000 ≤ n) (hhigh : n < 10000) :
    Nat.toDigits 10 n = padded 4 n := by
  have hfirst : n / 10 / 10 / 10 < 10 := by omega
  have hdigit : Nat.toDigits 10 (n / 10 / 10 / 10) = [decimalChar (n / 10 / 10 / 10 % 10)] := by
    rw [Nat.toDigits_of_lt_base hfirst, digitChar_eq_decimalChar hfirst, Nat.mod_eq_of_lt hfirst]
  rw [toDigits_of_ten_le (by omega), toDigits_of_ten_le (by omega), toDigits_of_ten_le (by omega),
    hdigit]
  rfl

theorem toList_toString_year {year : Nat} (hlow : 1000 ≤ year) (hhigh : year ≤ lastYear) :
    (toString year).toList = padded 4 year := by
  rw [Nat.toString_eq_repr, Nat.repr_eq_ofList_toDigits, String.toList_ofList]
  exact toDigits_eq_padded_four hlow (Nat.lt_succ_of_le hhigh)

/-! ### Offsets of whole minutes -/

/-- A moment that exists: a reading, and an offset of less than a day if one is known. -/
def Moment.Valid (m : Moment) : Prop := m.civil.Valid ∧ ∀ offset ∈ m.offset, OffsetOk offset

instance (m : Moment) : Decidable m.Valid :=
  have : Decidable (∀ offset ∈ m.offset, OffsetOk offset) := Option.decidableForallMem _
  inferInstanceAs (Decidable (_ ∧ _))

/-- The stamp of a reading at an offset. -/
def Civil.stampAt (c : Civil) (offset : Int) : Stamp :=
  ⟨c.date.year, c.date.month, c.date.day, c.hour, c.minute, c.second, offset < 0,
    offset.natAbs / 3600, offset.natAbs / 60 % 60⟩

theorem valid_stampAt {c : Civil} (hvalid : c.Valid) {offset : Int} (hoffset : OffsetOk offset) :
    (c.stampAt offset).Valid := by
  obtain ⟨hdate, hhour, hminute, hsecond, -⟩ := hvalid
  have hsize : offset.natAbs < 86400 := by
    unfold OffsetOk at hoffset
    omega
  refine ⟨⟨hdate, hhour, hminute, hsecond, Nat.zero_le _⟩, ?_, ?_⟩
  · show offset.natAbs / 3600 ≤ 23
    omega
  · show offset.natAbs / 60 % 60 ≤ 59
    omega

/-- Hours and minutes make up an offset of whole minutes, east or west. -/
theorem offset_stampAt (c : Civil) {offset : Int} (hminutes : offset % 60 = 0) :
    (c.stampAt offset).offset = offset := by
  show (if decide (offset < 0) then
      -(((offset.natAbs / 3600 : Nat) : Int) * 3600 + ((offset.natAbs / 60 % 60 : Nat) : Int) * 60)
    else ((offset.natAbs / 3600 : Nat) : Int) * 3600 + ((offset.natAbs / 60 % 60 : Nat) : Int) * 60)
      = offset
  by_cases hwest : offset < 0
  · rw [if_pos (decide_eq_true hwest)]
    omega
  · rw [if_neg (by simpa using hwest)]
    omega

theorem compactOffset_of_minutes {offset : Int} (hminutes : offset % 60 = 0) :
    compactOffset offset = (if offset < 0 then '-' else '+') ::
      padded 2 (offset.natAbs / 3600) ++ padded 2 (offset.natAbs / 60 % 60) := by
  have hseconds : offset.natAbs % 60 = 0 := by omega
  simp only [compactOffset, hseconds, if_true, List.append_nil]

section
variable {m : Moment} {offset : Int} (hoffset : m.offset = some offset)
  (hminutes : offset % 60 = 0) (hvalid : m.Valid) (hyear : 1000 ≤ m.civil.date.year)

include hoffset hminutes in
theorem instant_stampAt : (m.civil.stampAt offset).instant = m.instant := by
  rw [Stamp.instant, offset_stampAt _ hminutes, Moment.instant, hoffset, Option.getD_some]
  rfl

include hoffset hminutes hvalid hyear

/-- From the year 1000 on, a moment with such an offset is written as a stamp. -/
theorem toList_writeTimestamp :
    (writeTimestamp m).toList = (m.civil.stampAt offset).text := by
  rw [writeTimestamp, hoffset, String.toList_ofList, toList_toString_year hyear hvalid.1.1.2.1]
  simp only [compactOffset_of_minutes hminutes, Stamp.text, Civil.stampAt, Civil.clockText,
    List.append_assoc, List.cons_append, decide_eq_true_eq]

/-- It is read again as its instant, without the microseconds, unless that lies outside
the calendar. -/
theorem readTimestamp_writeTimestamp_of_minutes :
    readTimestamp (writeTimestamp m) =
      if m.instant.InRange then .ok m.instant else .error .outOfRange := by
  have hstamp : (m.civil.stampAt offset).Valid := valid_stampAt hvalid.1 (hvalid.2 offset hoffset)
  rw [readTimestamp_of_valid (toList_writeTimestamp hoffset hminutes hvalid hyear) hstamp,
    instant_stampAt hoffset hminutes]

end

/-- A moment in UTC from the year 1000 on is read again as its instant. -/
theorem readTimestamp_writeTimestamp {m : Moment} (hutc : m.offset = some 0)
    (hvalid : m.civil.Valid) (hyear : 1000 ≤ m.civil.date.year) :
    readTimestamp (writeTimestamp m) = .ok m.instant := by
  have hmoment : m.Valid := by
    refine ⟨hvalid, ?_⟩
    rw [hutc]
    rintro _ ⟨⟩
    decide
  have hrange : m.instant.InRange := by
    rw [Moment.instant, hutc, Option.getD_some, Int.sub_zero]
    exact inRange_of_valid hvalid
  rw [readTimestamp_writeTimestamp_of_minutes hutc rfl hmoment hyear, if_pos hrange]

/-- A year before 1000 is written with fewer digits, and what is written is not
read. -/
example : readTimestamp (writeTimestamp ⟨⟨⟨999, 1, 1⟩, 0, 0, 0, 0⟩, some 0⟩)
    = .error (.form "999-01-01T00:00:00+0000") := by decide +kernel

/-! ### Characters that fill the places -/

/-- Every character of a text fills the place that it stands at. -/
def FillsPlaces (cs : List Char) : Prop :=
  List.Forall₂ (fun slot c => slot.admits c = true) timestampSlots cs

theorem exists_front_of_afterSlots {slots : List Slot} {cs rest : List Char}
    (h : afterSlots slots cs = some rest) :
    ∃ front, cs = front ++ rest ∧
      List.Forall₂ (fun slot c => slot.admits c = true) slots front := by
  induction slots generalizing cs with
  | nil => exact ⟨[], Option.some.inj h, .nil⟩
  | cons slot slots ih =>
    cases cs with
    | nil => cases h
    | cons c cs =>
      rw [afterSlots] at h
      split at h
      · next hc =>
        obtain ⟨front, rfl, hfront⟩ := ih h
        exact ⟨c :: front, rfl, .cons hc hfront⟩
      · cases h

/-- The fields take the first twenty-four characters. -/
theorem length_of_fields? {cs rest : List Char} {f : Fields} (h : fields? cs = some (f, rest)) :
    cs.length = timestampSlots.length + rest.length := by
  unfold fields? at h
  split at h
  · split at h
    · obtain ⟨-, rfl⟩ := Prod.mk.inj (Option.some.inj h)
      show _ = 24 + _
      simp only [List.length_cons]
      omega
    · cases h
  · cases h

/-- In a text that is read as a timestamp every character fills a place. -/
theorem fillsPlaces_of_readTimestamp {v : String} {t : Instant} (h : readTimestamp v = .ok t) :
    FillsPlaces v.toList := by
  unfold readTimestamp at h
  split at h
  case isFalse => cases h
  next hform =>
  split at h
  · cases h
  · next f hfields =>
    have hlength := length_of_fields? hfields
    unfold hasForm at hform
    split at hform
    · next hslots =>
      obtain ⟨front, hfront, hfills⟩ := exists_front_of_afterSlots hslots
      rw [List.append_nil] at hfront
      exact hfront ▸ hfills
    · next hslots =>
      -- a line feed behind the places is one character too many for the fields
      obtain ⟨front, hfront, hfills⟩ := exists_front_of_afterSlots hslots
      rw [hfront, List.length_append, ← hfills.length_eq, List.length_singleton,
        List.length_nil] at hlength
      omega
    · cases hform
  · cases h

/-- In lists that are related place by place, every item on the right has one on the
left. -/
theorem exists_mem_of_forall₂ {α β : Type} {r : α → β → Prop} {xs : List α} {ys : List β}
    (h : List.Forall₂ r xs ys) {y : β} (hy : y ∈ ys) : ∃ x ∈ xs, r x y := by
  induction h with
  | nil => exact absurd hy List.not_mem_nil
  | @cons x z xs zs hxz _ ih =>
    rcases List.mem_cons.1 hy with rfl | hmem
    · exact ⟨x, List.mem_cons_self, hxz⟩
    · obtain ⟨later, hlater, hrelated⟩ := ih hmem
      exact ⟨later, List.mem_cons_of_mem x hlater, hrelated⟩

theorem exists_slot_of_fillsPlaces {cs : List Char} (h : FillsPlaces cs) {c : Char} (hc : c ∈ cs) :
    ∃ slot ∈ timestampSlots, slot.admits c = true :=
  exists_mem_of_forall₂ h hc

/-- A timestamp begins with a digit. -/
theorem exists_cons_of_fillsPlaces {cs : List Char} (h : FillsPlaces cs) :
    ∃ c rest, cs = c :: rest ∧ Text.isDecimal c = true := by
  cases h with
  | cons hc _ => exact ⟨_, _, rfl, hc⟩

/-! ### What is written and read again -/

/-- A year before 1000 has at most three digits. -/
theorem length_toString_year {year : Nat} (h : year < 1000) :
    (toString year).toList.length ≤ 3 := by
  rw [Nat.toString_eq_repr, Nat.repr_eq_ofList_toDigits, String.toList_ofList]
  exact Nat.toDigits_length 10 year 3 (by decide) h

/-- A dash is no digit, so it does not come before the fifth place. -/
theorem four_le_of_fillsPlaces {ys rest : List Char} (h : FillsPlaces (ys ++ '-' :: rest)) :
    4 ≤ ys.length := by
  have hdash : Text.isDecimal '-' = false := by decide
  rcases ys with - | ⟨y₁, - | ⟨y₂, - | ⟨y₃, - | ⟨y₄, ys⟩⟩⟩⟩
  case cons.cons.cons.cons => exact Nat.le_add_left 4 ys.length
  all_goals simp [FillsPlaces, timestampSlots, Slot.admits, hdash] at h

/-- An offset with seconds is written with two digits more. -/
theorem length_compactOffset (offset : Int) :
    (compactOffset offset).length = if offset % 60 = 0 then 5 else 7 := by
  have hseconds : offset.natAbs % 60 = 0 ↔ offset % 60 = 0 := by omega
  simp only [compactOffset, List.length_append, List.length_cons, Text.length_padded, hseconds]
  split <;> rfl

/-- **What is written and read again.**  A moment that is written is read back iff it
has an offset of whole minutes, a year of four digits, and an instant that a valid UTC
reading names.  What is read is then that instant, to the second. -/
theorem readTimestamp_writeTimestamp_iff {m : Moment} (h : m.Valid) (t : Instant) :
    readTimestamp (writeTimestamp m) = .ok t ↔
      (∃ offset, m.offset = some offset ∧ offset % 60 = 0) ∧ 1000 ≤ m.civil.date.year ∧
        (∃ c : Civil, c.Valid ∧ c.seconds = m.instant.seconds) ∧ t = m.instant := by
  rw [← inRange_iff]
  constructor
  · intro hread
    -- the places of the text give away the year and the offset
    have hfills := fillsPlaces_of_readTimestamp hread
    have hlength : (writeTimestamp m).toList.length = 24 := hfills.length_eq.symm
    rw [writeTimestamp, String.toList_ofList] at hfills hlength
    have hyear : 1000 ≤ m.civil.date.year := by
      simp only [List.append_assoc, List.cons_append] at hfills
      have hdigits := four_le_of_fillsPlaces hfills
      by_contra hlow
      have hfew := length_toString_year (not_le.1 hlow)
      omega
    rw [toList_toString_year hyear h.1.1.2.1] at hlength
    simp only [Civil.clockText, List.length_append, List.length_cons, Text.length_padded] at hlength
    have hoffset : ∃ offset, m.offset = some offset ∧ offset % 60 = 0 := by
      rcases hm : m.offset with - | offset
      · rw [hm, List.length_nil] at hlength
        omega
      · simp only [hm, length_compactOffset] at hlength
        refine ⟨offset, rfl, ?_⟩
        by_contra hseconds
        rw [if_neg hseconds] at hlength
        omega
    obtain ⟨offset, hoffset, hminutes⟩ := hoffset
    rw [readTimestamp_writeTimestamp_of_minutes hoffset hminutes h hyear] at hread
    split at hread
    · next hrange => exact ⟨⟨offset, hoffset, hminutes⟩, hyear, hrange, (Except.ok.inj hread).symm⟩
    · cases hread
  · rintro ⟨⟨offset, hoffset, hminutes⟩, hyear, hrange, rfl⟩
    rw [readTimestamp_writeTimestamp_of_minutes hoffset hminutes h hyear, if_pos hrange]

/-- Half past three hours to the west, on the last evening of February: the instant is
in March, and the microseconds are cut off. -/
theorem readTimestamp_writeTimestamp_west :
    (Moment.mk ⟨⟨1000, 2, 28⟩, 23, 59, 30, 999999⟩ (some (-12600))).Valid ∧
      readTimestamp (writeTimestamp ⟨⟨⟨1000, 2, 28⟩, 23, 59, 30, 999999⟩, some (-12600)⟩) =
        .ok ⟨(Civil.mk ⟨1000, 3, 1⟩ 3 29 30 0).seconds⟩ := by
  have hvalid : (Moment.mk ⟨⟨1000, 2, 28⟩, 23, 59, 30, 999999⟩ (some (-12600))).Valid := by
    decide
  have hmarch : (Civil.mk ⟨1000, 3, 1⟩ 3 29 30 0).Valid := by decide
  refine ⟨hvalid, (readTimestamp_writeTimestamp_iff hvalid _).2 ?_⟩
  exact ⟨⟨-12600, rfl, rfl⟩, by decide, ⟨_, hmarch, by decide⟩, by decide⟩

end StartupReport.Calendar
