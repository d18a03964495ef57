/-
StartupReport/Proofs/Calendar/TimestampForm.lean

Which texts are timestamps, and what they name.

A `Stamp` is a timestamp by its parts; `Stamp.text` writes it down.  The two
passes of the reader are described on it one after the other.  Among the texts
in ASCII, `hasForm` takes the stamps whose parts fit their digits, with or
without a line feed at the end (`hasForm_iff`).  `fields?` refuses those with a
part that no pattern admits, and gives back the parts of the others
(`fields?_text`).  What remains is the calendar: `instant?_of_valid` and
`instant?_of_not_valid` say when the parts of a stamp name an instant.
Together they give the domain of `readTimestamp`, its value there and the
family of its faults elsewhere (`readTimestamp_ascii`).
-/
import Mathlib.Data.List.Forall2
import StartupReport.Fault
import StartupReport.Proofs.Calendar.Reading

namespace StartupReport.Calendar

open Text (decimalValue? isDecimal padded)

/-! ### Timestamps by their parts -/

/-- A timestamp: a reading, the direction of its offset, and the hours and
minutes of it. -/
structure Stamp where
  year : Nat
  month : Nat
  day : Nat
  hour : Nat
  minute : Nat
  second : Nat
  west : Bool
  offsetHours : Nat
  offsetMinutes : Nat

namespace Stamp

/-- The stamp as it is written. -/
def text (s : Stamp) : List Char :=
  padded 4 s.year ++ '-' :: padded 2 s.month ++ '-' :: padded 2 s.day ++
    'T' :: padded 2 s.hour ++ ':' :: padded 2 s.minute ++ ':' :: padded 2 s.second ++
    (if s.west then '-' else '+') :: padded 2 s.offsetHours ++ padded 2 s.offsetMinutes

/-- The reading on the clock beside which the stamp was made. -/
def civil (s : Stamp) : Civil := ⟨⟨s.year, s.month, s.day⟩, s.hour, s.minute, s.second, 0⟩

/-- The offset in seconds, east positive. -/
def offset (s : Stamp) : Int :=
  if s.west then -(s.offsetHours * 3600 + s.offsetMinutes * 60 : Int)
  else s.offsetHours * 3600 + s.offsetMinutes * 60

/-- The instant: the reading less the offset. -/
def instant (s : Stamp) : Instant := ⟨s.civil.seconds - s.offset⟩

/-- The parts exist: a reading of the calendar and an offset of hours and
minutes. -/
def Valid (s : Stamp) : Prop := s.civil.Valid ∧ s.offsetHours ≤ 23 ∧ s.offsetMinutes ≤ 59

instance (s : Stamp) : Decidable s.Valid := by
  unfold Valid; infer_instance

/-- The numbers of the stamp, as the reader finds them. -/
def fields (s : Stamp) : Fields :=
  ⟨s.year, s.month, s.day, s.hour, s.minute, s.second, s.offset⟩

/-- Every part has as many digits as it is written with. -/
def Fits (s : Stamp) : Prop :=
  s.year < 10000 ∧ s.month < 100 ∧ s.day < 100 ∧ s.hour < 100 ∧ s.minute < 100 ∧
    s.second < 100 ∧ s.offsetHours < 100 ∧ s.offsetMinutes < 100

/-- Every part is one that the patterns of the fields admit. -/
def Shaped (s : Stamp) : Prop :=
  (1 ≤ s.month ∧ s.month ≤ 12) ∧ (1 ≤ s.day ∧ s.day ≤ 31) ∧ s.hour ≤ 23 ∧ s.minute ≤ 59 ∧
    s.second ≤ 61 ∧ s.offsetMinutes ≤ 59

instance (s : Stamp) : Decidable s.Shaped := by
  unfold Shaped; infer_instance

end Stamp

/-! ### Digits of ASCII -/

/-- A text of ASCII characters. -/
def IsAscii (cs : List Char) : Prop := ∀ c ∈ cs, c.toNat < 128

instance (cs : List Char) : Decidable (IsAscii cs) :=
  List.decidableBAll (fun c : Char => c.toNat < 128) cs

/-- The digit of a value below ten. -/
def decimalChar (d : Nat) : Char := Char.ofNat (0x30 + d)

theorem padded_two (n : Nat) : padded 2 n = [decimalChar (n / 10 % 10), decimalChar (n % 10)] :=
  rfl

theorem padded_four (n : Nat) : padded 4 n = padded 2 (n / 100) ++ padded 2 (n % 100) := by
  have h₁ : n / 10 / 10 / 10 % 10 = n / 100 / 10 % 10 := by omega
  have h₂ : n / 10 / 10 % 10 = n / 100 % 10 := by omega
  have h₃ : n / 10 % 10 = n % 100 / 10 % 10 := by omega
  have h₄ : n % 10 = n % 100 % 10 := by omega
  simp only [padded, List.nil_append, List.cons_append, h₁, h₂, h₃, h₄]

theorem decimalValue?_decimalChar {d : Nat} (h : d < 10) :
    decimalValue? (decimalChar d) = some d := by
  have all : ∀ d < 10, decimalValue? (decimalChar d) = some d := by decide
  exact all d h

theorem isDecimal_decimalChar {d : Nat} (h : d < 10) : isDecimal (decimalChar d) = true := by
  rw [isDecimal, decimalValue?_decimalChar h]
  rfl

theorem toNat_decimalChar_lt {d : Nat} (h : d < 10) : (decimalChar d).toNat < 128 := by
  have all : ∀ d < 10, (decimalChar d).toNat < 128 := by decide
  exact all d h

/-- The digits among the characters of ASCII are the ten that are written. -/
theorem exists_decimalChar {c : Char} (ascii : c.toNat < 128) (h : isDecimal c = true) :
    ∃ d < 10, c = decimalChar d := by
  have all : ∀ n < 128, isDecimal (Char.ofNat n) = true →
      ∃ d < 10, Char.ofNat n = decimalChar d := by
    decide +kernel
  obtain ⟨d, hd, hc⟩ := all c.toNat ascii (by rw [Char.ofNat_toNat]; exact h)
  exact ⟨d, hd, by rw [← hc, Char.ofNat_toNat]⟩

/-- Two digits of ASCII write a number below a hundred. -/
theorem exists_padded_two {tens ones : Char} (htens : tens.toNat < 128) (hones : ones.toNat < 128)
    (dtens : isDecimal tens = true) (dones : isDecimal ones = true) :
    ∃ n < 100, padded 2 n = [tens, ones] := by
  obtain ⟨a, ha, rfl⟩ := exists_decimalChar htens dtens
  obtain ⟨b, hb, rfl⟩ := exists_decimalChar hones dones
  refine ⟨10 * a + b, by omega, ?_⟩
  rw [padded_two, show (10 * a + b) / 10 % 10 = a by omega, show (10 * a + b) % 10 = b by omega]

theorem twoDigits_padded {n : Nat} (h : n < 100) :
    twoDigits (decimalChar (n / 10 % 10)) (decimalChar (n % 10)) = n := by
  rw [twoDigits, decimalValue?_decimalChar (Nat.mod_lt _ (by decide)),
    decimalValue?_decimalChar (Nat.mod_lt _ (by decide)), Option.getD_some, Option.getD_some]
  omega

/-! ### The form of a text -/

/-- Characters of ASCII that fill places in turn. -/
def Fills (slots : List Slot) (front : List Char) : Prop :=
  List.Forall₂ (fun slot c => slot.admits c = true ∧ c.toNat < 128) slots front

theorem fills_cons_iff {slot : Slot} {slots : List Slot} {front : List Char} :
    Fills (slot :: slots) front ↔
      ∃ c rest, front = c :: rest ∧ (slot.admits c = true ∧ c.toNat < 128) ∧ Fills slots rest := by
  rw [Fills, List.forall₂_cons_left_iff]
  constructor
  · rintro ⟨c, rest, hc, hrest, rfl⟩
    exact ⟨c, rest, rfl, hc, hrest⟩
  · rintro ⟨c, rest, rfl, hc, hrest⟩
    exact ⟨c, rest, hc, hrest, rfl⟩

/-- The places leave a rest iff characters that fill them stand before it. -/
theorem afterSlots_eq_some_iff (slots : List Slot) {cs : List Char} (ascii : IsAscii cs)
    (rest : List Char) :
    afterSlots slots cs = some rest ↔ ∃ front, cs = front ++ rest ∧ Fills slots front := by
  induction slots generalizing cs with
  | nil =>
    constructor
    · intro h
      exact ⟨[], Option.some.inj h, List.Forall₂.nil⟩
    · rintro ⟨front, rfl, hfront⟩
      cases hfront
      rfl
  | cons slot slots ih =>
    cases cs with
    | nil =>
      constructor
      · intro h
        cases h
      · rintro ⟨front, hcs, hfront⟩
        obtain ⟨c, tail, rfl, -, -⟩ := fills_cons_iff.1 hfront
        cases hcs
    | cons c cs =>
      have hascii : IsAscii cs := fun d hd => ascii d (List.mem_cons_of_mem c hd)
      by_cases hc : slot.admits c = true
      · rw [afterSlots, if_pos hc, ih hascii]
        constructor
        · rintro ⟨front, rfl, hfront⟩
          exact ⟨c :: front, rfl, hfront.cons ⟨hc, ascii c List.mem_cons_self⟩⟩
        · rintro ⟨front, hcs, hfront⟩
          obtain ⟨d, tail, rfl, -, htail⟩ := fills_cons_iff.1 hfront
          obtain ⟨rfl, rfl⟩ := List.cons.inj hcs
          exact ⟨tail, rfl, htail⟩
      · rw [afterSlots, if_neg hc]
        constructor
        · intro h
          cases h
        · rintro ⟨front, hcs, hfront⟩
          obtain ⟨d, tail, rfl, hd, -⟩ := fills_cons_iff.1 hfront
          obtain ⟨rfl, rfl⟩ := List.cons.inj hcs
          exact absurd hd.1 hc

/-- Two places for digits are filled by a number below a hundred. -/
theorem fills_digits_iff {slots : List Slot} {front : List Char} :
    Fills (.digit :: .digit :: slots) front ↔
      ∃ n < 100, ∃ rest, front = padded 2 n ++ rest ∧ Fills slots rest := by
  constructor
  · intro h
    obtain ⟨tens, front', rfl, htens, h'⟩ := fills_cons_iff.1 h
    obtain ⟨ones, rest, rfl, hones, hrest⟩ := fills_cons_iff.1 h'
    obtain ⟨n, hn, hpadded⟩ := exists_padded_two htens.2 hones.2 htens.1 hones.1
    exact ⟨n, hn, rest, by rw [hpadded]; rfl, hrest⟩
  · rintro ⟨n, -, rest, rfl, hrest⟩
    have digit (d : Nat) (hd : d < 10) :
        Slot.digit.admits (decimalChar d) = true ∧ (decimalChar d).toNat < 128 :=
      ⟨isDecimal_decimalChar hd, toNat_decimalChar_lt hd⟩
    rw [padded_two]
    exact List.Forall₂.cons (digit _ (Nat.mod_lt _ (by decide)))
      (List.Forall₂.cons (digit _ (Nat.mod_lt _ (by decide))) hrest)

/-- A place for a separator is filled by it. -/
theorem fills_exactly_iff (mark : Char) (ascii : mark.toNat < 128) {slots : List Slot}
    {front : List Char} :
    Fills (.exactly mark :: slots) front ↔ ∃ rest, front = mark :: rest ∧ Fills slots rest := by
  rw [fills_cons_iff]
  constructor
  · rintro ⟨c, rest, rfl, hc, hrest⟩
    obtain rfl : c = mark := beq_iff_eq.1 hc.1
    exact ⟨rest, rfl, hrest⟩
  · rintro ⟨rest, rfl, hrest⟩
    exact ⟨mark, rest, rfl, ⟨beq_self_eq_true mark, ascii⟩, hrest⟩

/-- The place of the sign is filled by a direction. -/
theorem fills_sign_iff {slots : List Slot} {front : List Char} :
    Fills (.sign :: slots) front ↔
      ∃ (west : Bool) (rest : List Char),
        front = (if west then '-' else '+') :: rest ∧ Fills slots rest := by
  rw [fills_cons_iff]
  constructor
  · rintro ⟨c, rest, rfl, hc, hrest⟩
    have hsign : c = '+' ∨ c = '-' := by simpa [Slot.admits] using hc.1
    rcases hsign with rfl | rfl
    · exact ⟨false, rest, rfl, hrest⟩
    · exact ⟨true, rest, rfl, hrest⟩
  · rintro ⟨west, rest, rfl, hrest⟩
    refine ⟨_, rest, rfl, ?_, hrest⟩
    cases west <;> decide

/-- A stamp and what follows it, part by part. -/
theorem text_append (s : Stamp) (rest : List Char) :
    s.text ++ rest =
      padded 2 (s.year / 100) ++ (padded 2 (s.year % 100) ++ '-' :: (padded 2 s.month ++
        '-' :: (padded 2 s.day ++ 'T' :: (padded 2 s.hour ++ ':' :: (padded 2 s.minute ++
        ':' :: (padded 2 s.second ++ (if s.west then '-' else '+') :: (padded 2 s.offsetHours ++
        (padded 2 s.offsetMinutes ++ rest)))))))) := by
  simp only [Stamp.text, padded_four, List.append_assoc, List.cons_append]

/-- The texts that fill the places of a timestamp are the stamps. -/
theorem fills_timestampSlots_iff (front : List Char) :
    Fills timestampSlots front ↔ ∃ s : Stamp, s.Fits ∧ front = s.text := by
  constructor
  · intro h
    -- from the first place to the last, each with what stands there
    obtain ⟨century, hcentury, _, rfl, h₁⟩ := fills_digits_iff.1 h
    obtain ⟨year, hyear, _, rfl, h₂⟩ := fills_digits_iff.1 h₁
    obtain ⟨_, rfl, h₃⟩ := (fills_exactly_iff _ (by decide)).1 h₂
    obtain ⟨month, hmonth, _, rfl, h₄⟩ := fills_digits_iff.1 h₃
    obtain ⟨_, rfl, h₅⟩ := (fills_exactly_iff _ (by decide)).1 h₄
    obtain ⟨day, hday, _, rfl, h₆⟩ := fills_digits_iff.1 h₅
    obtain ⟨_, rfl, h₇⟩ := (fills_exactly_iff _ (by decide)).1 h₆
    obtain ⟨hour, hhour, _, rfl, h₈⟩ := fills_digits_iff.1 h₇
    obtain ⟨_, rfl, h₉⟩ := (fills_exactly_iff _ (by decide)).1 h₈
    obtain ⟨minute, hminute, _, rfl, h₁₀⟩ := fills_digits_iff.1 h₉
    obtain ⟨_, rfl, h₁₁⟩ := (fills_exactly_iff _ (by decide)).1 h₁₀
    obtain ⟨second, hsecond, _, rfl, h₁₂⟩ := fills_digits_iff.1 h₁₁
    obtain ⟨west, _, rfl, h₁₃⟩ := fills_sign_iff.1 h₁₂
    obtain ⟨offsetHours, hoffsetHours, _, rfl, h₁₄⟩ := fills_digits_iff.1 h₁₃
    obtain ⟨offsetMinutes, hoffsetMinutes, _, rfl, h₁₅⟩ := fills_digits_iff.1 h₁₄
    cases h₁₅
    refine ⟨⟨100 * century + year, month, day, hour, minute, second, west, offsetHours,
      offsetMinutes⟩, ⟨by show 100 * century + year < 10000; omega, hmonth, hday, hhour, hminute,
      hsecond, hoffsetHours, hoffsetMinutes⟩, ?_⟩
    rw [← List.append_nil (Stamp.text _), text_append]
    simp only [show (100 * century + year) / 100 = century by omega,
      show (100 * century + year) % 100 = year by omega]
  · rintro ⟨s, ⟨hyear, hmonth, hday, hhour, hminute, hsecond, hoffsetHours, hoffsetMinutes⟩, rfl⟩
    have hcentury : s.year / 100 < 100 := Nat.div_lt_of_lt_mul hyear
    have hrest : s.year % 100 < 100 := Nat.mod_lt _ (by decide)
    -- and from the last part back to the first
    have h : Fills [] [] := List.Forall₂.nil
    have h := fills_digits_iff.2 ⟨_, hoffsetMinutes, _, rfl, h⟩
    have h := fills_digits_iff.2 ⟨_, hoffsetHours, _, rfl, h⟩
    have h := fills_sign_iff.2 ⟨s.west, _, rfl, h⟩
    have h := fills_digits_iff.2 ⟨_, hsecond, _, rfl, h⟩
    have h := (fills_exactly_iff ':' (by decide)).2 ⟨_, rfl, h⟩
    have h := fills_digits_iff.2 ⟨_, hminute, _, rfl, h⟩
    have h := (fills_exactly_iff ':' (by decide)).2 ⟨_, rfl, h⟩
    have h := fills_digits_iff.2 ⟨_, hhour, _, rfl, h⟩
    have h := (fills_exactly_iff 'T' (by decide)).2 ⟨_, rfl, h⟩
    have h := fills_digits_iff.2 ⟨_, hday, _, rfl, h⟩
    have h := (fills_exactly_iff '-' (by decide)).2 ⟨_, rfl, h⟩
    have h := fills_digits_iff.2 ⟨_, hmonth, _, rfl, h⟩
    have h := (fills_exactly_iff '-' (by decide)).2 ⟨_, rfl, h⟩
    have h := fills_digits_iff.2 ⟨_, hrest, _, rfl, h⟩
    have h := fills_digits_iff.2 ⟨_, hcentury, _, rfl, h⟩
    rw [← List.append_nil s.text, text_append]
    exact h

/-- **The form of a timestamp.**  In ASCII it is a stamp whose parts have the
right number of digits, or such a stamp before a line feed. -/
theorem hasForm_iff {cs : List Char} (ascii : IsAscii cs) :
    hasForm cs = true ↔ ∃ s : Stamp, s.Fits ∧ (cs = s.text ∨ cs = s.text ++ ['\n']) := by
  have hpasses (rest : List Char) : afterSlots timestampSlots cs = some rest ↔
      ∃ s : Stamp, s.Fits ∧ cs = s.text ++ rest := by
    rw [afterSlots_eq_some_iff timestampSlots ascii]
    constructor
    · rintro ⟨front, hcs, hfront⟩
      obtain ⟨s, hs, rfl⟩ := (fills_timestampSlots_iff front).1 hfront
      exact ⟨s, hs, hcs⟩
    · rintro ⟨s, hs, hcs⟩
      exact ⟨s.text, hcs, (fills_timestampSlots_iff _).2 ⟨s, hs, rfl⟩⟩
  have hform : hasForm cs = true ↔
      afterSlots timestampSlots cs = some [] ∨ afterSlots timestampSlots cs = some ['\n'] := by
    unfold hasForm
    split <;> simp_all
  -- nothing else than one line feed may be left behind the places
  rw [hform, hpasses, hpasses, ← exists_or]
  simp only [List.append_nil, and_or_left]

theorem isAscii_of_fills {slots : List Slot} {front : List Char} (h : Fills slots front) :
    IsAscii front := by
  induction h with
  | nil => exact fun c hc => absurd hc List.not_mem_nil
  | cons hc _ ih => exact List.forall_mem_cons.2 ⟨hc.2, ih⟩

theorem hasForm_text {s : Stamp} (h : s.Fits) : hasForm s.text = true :=
  (hasForm_iff (isAscii_of_fills ((fills_timestampSlots_iff _).2 ⟨s, h, rfl⟩))).2 ⟨s, h, .inl rfl⟩

/-! ### The fields of a stamp -/

/-- A pattern of two digits admits the numbers from `low` to `high`. -/
def Admits (pattern : Char → Char → Bool) (low high : Nat) : Prop :=
  ∀ n < 100, pattern (decimalChar (n / 10 % 10)) (decimalChar (n % 10)) =
    decide (low ≤ n ∧ n ≤ high)

instance (pattern : Char → Char → Bool) (low high : Nat) : Decidable (Admits pattern low high) := by
  unfold Admits; infer_instance

theorem admits_month : Admits isMonthField 1 12 := by decide +kernel

theorem admits_day : Admits isDayField 1 31 := by decide +kernel

theorem admits_hour : Admits isHourField 0 23 := by decide +kernel

theorem admits_minute : Admits isMinuteField 0 59 := by decide +kernel

theorem admits_second : Admits isSecondField 0 61 := by decide +kernel

/-- **The fields of a timestamp.**  The reader gives back the parts of a stamp
if the patterns admit them, with whatever follows it. -/
theorem fields?_text {s : Stamp} (h : s.Fits) (rest : List Char) :
    fields? (s.text ++ rest) = if s.Shaped then some (s.fields, rest) else none := by
  obtain ⟨hyear, hmonth, hday, hhour, hminute, hsecond, hoffsetHours, hoffsetMinutes⟩ := h
  have hsign : ((if s.west then '-' else '+' : Char) = '-') ↔ s.west = true := by
    cases s.west <;> decide
  rw [text_append]
  simp only [padded_two, List.cons_append, List.nil_append, fields?, admits_month _ hmonth,
    admits_day _ hday, admits_hour _ hhour, admits_minute _ hminute, admits_second _ hsecond,
    admits_minute _ hoffsetMinutes, twoDigits_padded hmonth, twoDigits_padded hday,
    twoDigits_padded hhour, twoDigits_padded hminute, twoDigits_padded hsecond,
    twoDigits_padded hoffsetHours, twoDigits_padded hoffsetMinutes,
    twoDigits_padded (Nat.div_lt_of_lt_mul hyear : s.year / 100 < 100),
    twoDigits_padded (Nat.mod_lt s.year (by decide) : s.year % 100 < 100), Nat.div_add_mod,
    Nat.zero_le, true_and, Bool.and_eq_true, decide_eq_true_eq, and_assoc, hsign]
  simp only [Stamp.Shaped, Stamp.fields, Stamp.offset, and_assoc]

/-! ### The checks on the numbers -/

/-- The instant that fields name if nothing is wrong with them. -/
def Fields.named (f : Fields) : Instant :=
  (Moment.mk ⟨⟨f.year, f.month, f.day⟩, f.hour, f.minute, f.second, 0⟩ f.offset).instant

/-- The checks on the numbers, in their order. -/
theorem instant?_eq (f : Fields) :
    f.instant? =
      if f.year < firstYear then .error (.year f.year)
      else if daysInMonth f.year f.month < f.day then .error .day
      else if ¬ OffsetOk f.offset then .error (.offset f.offset)
      else if 59 < f.second then .error .second
      else if f.named.InRange then .ok f.named else .error .outOfRange := by
  -- both sides ask the same questions in the same order
  by_cases hyear : f.year < firstYear
  · exact (if_pos hyear).trans (if_pos hyear).symm
  refine (if_neg hyear).trans (Eq.trans ?_ (if_neg hyear).symm)
  by_cases hday : daysInMonth f.year f.month < f.day
  · exact (if_pos hday).trans (if_pos hday).symm
  refine (if_neg hday).trans (Eq.trans ?_ (if_neg hday).symm)
  by_cases hoffset : ¬ OffsetOk f.offset
  · exact (if_pos hoffset).trans (if_pos hoffset).symm
  refine (if_neg hoffset).trans (Eq.trans ?_ (if_neg hoffset).symm)
  by_cases hsecond : 59 < f.second
  · exact (if_pos hsecond).trans (if_pos hsecond).symm
  exact (if_neg hsecond).trans (if_neg hsecond).symm

theorem inRange_of_instant? {f : Fields} {t : Instant} (h : f.instant? = .ok t) : t.InRange := by
  rw [instant?_eq] at h
  repeat' split at h
  all_goals cases h
  assumption

/-- Whatever is read lies in the calendar. -/
theorem inRange_of_readTimestamp {v : String} {t : Instant} (h : readTimestamp v = .ok t) :
    t.InRange := by
  unfold readTimestamp at h
  split at h
  · split at h
    · cases h
    · exact inRange_of_instant? h
    · cases h
  · cases h

/-! ### The instant of a stamp -/

/-- A stamp with parts that exist is written with the digits they have, and
with parts that the patterns admit. -/
theorem fits_and_shaped_of_valid {s : Stamp} (h : s.Valid) : s.Fits ∧ s.Shaped := by
  obtain ⟨⟨⟨-, hyear, hmonth, hmonth', hday, hday'⟩, hhour, hminute, hsecond, -⟩, hhours,
    hminutes⟩ := h
  have hdays := daysInMonth_le s.civil.date.year s.civil.date.month
  simp only [Stamp.civil, lastYear] at *
  simp only [Stamp.Fits, Stamp.Shaped]
  omega

/-- An offset of hours and minutes is less than a day iff its hours are. -/
theorem offsetOk_iff {s : Stamp} (h : s.offsetMinutes ≤ 59) :
    OffsetOk s.offset ↔ s.offsetHours ≤ 23 := by
  simp only [OffsetOk, Stamp.offset]
  cases s.west
  · simp only [Bool.false_eq_true, if_false]
    omega
  · simp only [if_true]
    omega

/-- What the patterns leave open: a year zero, a day beyond its month, an offset
of a day or more, a leap second. -/
theorem valid_iff_of_shaped {s : Stamp} (hfits : s.Fits) (h : s.Shaped) :
    s.Valid ↔ ¬ s.year < firstYear ∧ ¬ daysInMonth s.year s.month < s.day ∧
      OffsetOk s.offset ∧ ¬ 59 < s.second := by
  obtain ⟨hmonth, hday, hhour, hminute, -, hminutes⟩ := h
  have hyear := hfits.1
  rw [offsetOk_iff hminutes]
  simp only [Stamp.Valid, Civil.Valid, Date.Valid, Stamp.civil, lastYear]
  omega

theorem instant?_fields (s : Stamp) :
    s.fields.instant? =
      if s.year < firstYear then .error (.year s.year)
      else if daysInMonth s.year s.month < s.day then .error .day
      else if ¬ OffsetOk s.offset then .error (.offset s.offset)
      else if 59 < s.second then .error .second
      else if s.instant.InRange then .ok s.instant else .error .outOfRange :=
  instant?_eq s.fields

/-- The numbers of a stamp that exists name its instant if that lies in the
calendar, and are out of range otherwise. -/
theorem instant?_of_valid {s : Stamp} (h : s.Valid) :
    s.fields.instant? =
      if s.instant.InRange then .ok s.instant else .error .outOfRange := by
  obtain ⟨hfits, hshaped⟩ := fits_and_shaped_of_valid h
  obtain ⟨hyear, hday, hoffset, hsecond⟩ := (valid_iff_of_shaped hfits hshaped).1 h
  rw [instant?_fields, if_neg hyear, if_neg hday, if_neg (not_not_intro hoffset), if_neg hsecond]

/-- The numbers of a stamp that does not exist are refused for their value. -/
theorem instant?_of_not_valid {s : Stamp} (hfits : s.Fits) (hshaped : s.Shaped) (h : ¬ s.Valid) :
    ∃ e, s.fields.instant? = .error e ∧ e ≠ .outOfRange := by
  rw [valid_iff_of_shaped hfits hshaped] at h
  rw [instant?_fields]
  by_cases hyear : s.year < firstYear
  · exact ⟨.year s.year, if_pos hyear, nofun⟩
  rw [if_neg hyear]
  by_cases hday : daysInMonth s.year s.month < s.day
  · exact ⟨.day, if_pos hday, nofun⟩
  rw [if_neg hday]
  by_cases hoffset : OffsetOk s.offset
  · rw [if_neg (not_not_intro hoffset)]
    have hsecond : 59 < s.second := by
      by_contra hsecond
      exact h ⟨hyear, hday, hoffset, hsecond⟩
    exact ⟨.second, if_pos hsecond, nofun⟩
  · exact ⟨.offset s.offset, if_pos hoffset, nofun⟩

/-! ### The domain of the reader -/

theorem family_time_eq_range_iff (e : Error) : (Fault.time e).family = .range ↔ e = .outOfRange := by
  cases e <;> simp [Fault.family]

theorem family_time_eq_value_iff (e : Error) : (Fault.time e).family = .value ↔ e ≠ .outOfRange := by
  cases e <;> simp [Fault.family]

/-- A stamp that exists is read as its instant, if that lies in the calendar. -/
theorem readTimestamp_of_valid {v : String} {s : Stamp} (hv : v.toList = s.text) (h : s.Valid) :
    readTimestamp v = if s.instant.InRange then .ok s.instant else .error .outOfRange := by
  obtain ⟨hfits, hshaped⟩ := fits_and_shaped_of_valid h
  have hform : hasForm v.toList = true := by
    rw [hv]
    exact hasForm_text hfits
  have hfields : fields? v.toList = some (s.fields, []) := by
    rw [hv, ← List.append_nil s.text, fields?_text hfits, if_pos hshaped]
  rw [readTimestamp, if_pos hform, hfields]
  exact instant?_of_valid h

/-- A text in ASCII that is no stamp, or one that does not exist, is refused
for its value. -/
theorem readTimestamp_of_not_valid {v : String} (ascii : IsAscii v.toList)
    (h : ¬ ∃ s : Stamp, v.toList = s.text ∧ s.Valid) :
    ∃ e, readTimestamp v = .error e ∧ e ≠ .outOfRange := by
  unfold readTimestamp
  by_cases hform : hasForm v.toList = true
  · rw [if_pos hform]
    obtain ⟨s, hfits, hv | hv⟩ := (hasForm_iff ascii).1 hform
    · have hvalid : ¬ s.Valid := fun hvalid => h ⟨s, hv, hvalid⟩
      rw [hv, ← List.append_nil s.text, fields?_text hfits]
      by_cases hshaped : s.Shaped
      · rw [if_pos hshaped]
        exact instant?_of_not_valid hfits hshaped hvalid
      · rw [if_neg hshaped]
        exact ⟨.fields v, rfl, nofun⟩
    · rw [hv, fields?_text hfits]
      -- the line feed that the form lets through is what follows the fields
      by_cases hshaped : s.Shaped
      · rw [if_pos hshaped]
        exact ⟨.trailing (String.ofList ['\n']), rfl, nofun⟩
      · rw [if_neg hshaped]
        exact ⟨.fields v, rfl, nofun⟩
  · rw [if_neg hform]
    exact ⟨.form v, rfl, nofun⟩

/-- **The domain of the timestamp reader.**  A text in ASCII is read iff it is
a stamp, character by character, whose parts exist and whose instant a valid
UTC reading names; what is read is that instant, the reading less the offset,
and its UTC reading has no microseconds.  If only the instant is missing from
the calendar the fault is one of range, in every other case one of value. -/
theorem readTimestamp_ascii (v : String) (ascii : IsAscii v.toList) :
    (∀ t, readTimestamp v = .ok t ↔
      ∃ s : Stamp, v.toList = s.text ∧ s.Valid ∧
        (∃ c : Civil, c.Valid ∧ c.seconds = s.instant.seconds) ∧ t = s.instant) ∧
    (∀ t, readTimestamp v = .ok t →
      ∃ c : Civil, t.civilAt? 0 = some c ∧ c.Valid ∧ c.microsecond = 0 ∧
        c.seconds = t.seconds) ∧
    ((∃ e, readTimestamp v = .error e ∧ (Fault.time e).family = .range) ↔
      ∃ s : Stamp, v.toList = s.text ∧ s.Valid ∧
        ¬ ∃ c : Civil, c.Valid ∧ c.seconds = s.instant.seconds) ∧
    ((∃ e, readTimestamp v = .error e ∧ (Fault.time e).family = .value) ↔
      ¬ ∃ s : Stamp, v.toList = s.text ∧ s.Valid) := by
  simp only [← inRange_iff, family_time_eq_range_iff, family_time_eq_value_iff]
  have hread (t : Instant) : readTimestamp v = .ok t ↔
      ∃ s : Stamp, v.toList = s.text ∧ s.Valid ∧ s.instant.InRange ∧ t = s.instant := by
    constructor
    · intro ht
      by_cases hstamp : ∃ s : Stamp, v.toList = s.text ∧ s.Valid
      · obtain ⟨s, hv, hvalid⟩ := hstamp
        rw [readTimestamp_of_valid hv hvalid] at ht
        split at ht
        · next hrange => exact ⟨s, hv, hvalid, hrange, (Except.ok.inj ht).symm⟩
        · cases ht
      · obtain ⟨e, he, -⟩ := readTimestamp_of_not_valid ascii hstamp
        rw [he] at ht
        cases ht
    · rintro ⟨s, hv, hvalid, hrange, rfl⟩
      rw [readTimestamp_of_valid hv hvalid, if_pos hrange]
  refine ⟨hread, ?_, ?_, ?_⟩
  · intro t ht
    obtain ⟨s, -, -, hrange, rfl⟩ := (hread t).1 ht
    obtain ⟨c, hc⟩ := exists_civilAt? hrange
    obtain ⟨hvalid, hmicrosecond, hseconds⟩ := ofSeconds?_spec hc
    exact ⟨c, hc, hvalid, hmicrosecond, hseconds.trans (Int.add_zero _)⟩
  · constructor
    · rintro ⟨e, he, rfl⟩
      by_cases hstamp : ∃ s : Stamp, v.toList = s.text ∧ s.Valid
      · obtain ⟨s, hv, hvalid⟩ := hstamp
        rw [readTimestamp_of_valid hv hvalid] at he
        split at he
        · cases he
        · next hrange => exact ⟨s, hv, hvalid, hrange⟩
      · obtain ⟨e, he', hne⟩ := readTimestamp_of_not_valid ascii hstamp
        exact absurd (Except.error.inj (he'.symm.trans he)) hne
    · rintro ⟨s, hv, hvalid, hrange⟩
      exact ⟨.outOfRange, by rw [readTimestamp_of_valid hv hvalid, if_neg hrange], rfl⟩
  · constructor
    · rintro ⟨e, he, hne⟩ ⟨s, hv, hvalid⟩
      rw [readTimestamp_of_valid hv hvalid] at he
      split at he
      · cases he
      · exact hne (Except.error.inj he).symm
    · exact readTimestamp_of_not_valid ascii

/-- The last second of the calendar in UTC, read from a text in ASCII. -/
theorem readTimestamp_last_second :
    IsAscii "9999-12-31T18:29:59-0530".toList ∧
      readTimestamp "9999-12-31T18:29:59-0530" = .ok ⟨253402300799⟩ := by
  have ascii : IsAscii "9999-12-31T18:29:59-0530".toList := by decide
  refine ⟨ascii, ((readTimestamp_ascii _ ascii).1 _).2 ?_⟩
  let s : Stamp := ⟨9999, 12, 31, 18, 29, 59, true, 5, 30⟩
  exact ⟨s, by decide, by decide, ⟨⟨⟨9999, 12, 31⟩, 23, 59, 59, 0⟩, by decide, by decide⟩, by decide⟩

end StartupReport.Calendar
