/-
StartupReport/Proofs/Calendar/BerlinChanges.lean

Which offset is in force in Berlin.

`BerlinChange` holds of the changes of the offset one by one: those on record up to
1996, and two in every year since then, at one in the morning, UTC, of the last Sunday
of March and of October.  `InForce` says what they amount to at an instant: the offset
is the one that the last change not after the instant brought, or that of local mean
time if there was none yet.

The zone finds that offset in another way, by walking through the record and, after
it, by comparing with the two changes of the instant's year.  `inForce_iff` says that
this is the one offset in force, at every instant: the record is in order
(`offsetFrom_spec`), and from 1996 on summers and winters follow each other with no
other change between them (`change_around_summer`, `change_around_winter`).  Only local
mean time, which ended with March 1893, was off by seconds (`minutes_of_inForce`).
-/
import Mathlib.Data.List.Nodup
import StartupReport.Calendar.Zone
import StartupReport.Proofs.Calendar.DayNumber

namespace StartupReport.Calendar

/-! ### Changes -/

/-- A Sunday.  The first day of the calendar is a Monday. -/
def Date.IsSunday (d : Date) : Prop := d.dayNumber % 7 = 6

/-- The last Sunday of a month of 31 days: a week later the month is over. -/
structure Date.IsLastSunday (d : Date) (month : Nat) : Prop where
  inMonth : d.month = month
  sunday : d.IsSunday
  day_le : d.day ≤ 31
  last : 31 < d.day + 7

/-- The offset in Berlin changes at an instant to a new one. -/
inductive BerlinChange : (since : Int) → (offset : Int) → Prop
  | recorded {since offset : Int} (h : (since, offset) ∈ berlinChanges) :
      BerlinChange since offset
  | spring {d : Date} (hyear : 1996 ≤ d.year) (hd : d.IsLastSunday 3) :
      BerlinChange (oneOClock d.dayNumber) 7200
  | autumn {d : Date} (hyear : 1996 ≤ d.year) (hd : d.IsLastSunday 10) :
      BerlinChange (oneOClock d.dayNumber) 3600

/-- An offset is in force in Berlin at an instant. -/
inductive InForce (t : Instant) : Int → Prop
  | meanTime (hbefore : ∀ since offset, BerlinChange since offset → t.seconds < since) :
      InForce t berlinMeanOffset
  | since {since offset : Int} (hchange : BerlinChange since offset) (hreached : since ≤ t.seconds)
      (hlast : ∀ later o, BerlinChange later o → later ≤ t.seconds → later ≤ since) :
      InForce t offset

/-! ### The record -/

/-- Changes in the order of time, looked up at an instant: the first offset holds
before all of them, and later the one of the last change that has come. -/
theorem offsetFrom_spec {changes : List (Int × Int)}
    (hsorted : changes.Pairwise fun a b => a.1 < b.1) (start seconds : Int) :
    (offsetFrom start changes seconds = start ∧ ∀ c ∈ changes, seconds < c.1) ∨
      ∃ since, (since, offsetFrom start changes seconds) ∈ changes ∧ since ≤ seconds ∧
        ∀ c ∈ changes, c.1 ≤ seconds → c.1 ≤ since := by
  induction changes generalizing start with
  | nil => exact .inl ⟨rfl, fun c hc => absurd hc List.not_mem_nil⟩
  | cons change changes ih =>
    obtain ⟨first, offset⟩ := change
    obtain ⟨hfirst, hrest⟩ := List.pairwise_cons.1 hsorted
    rw [offsetFrom]
    by_cases hlt : seconds < first
    · rw [if_pos hlt]
      exact .inl ⟨rfl, List.forall_mem_cons.2 ⟨hlt, fun c hc => hlt.trans (hfirst c hc)⟩⟩
    · rw [if_neg hlt]
      refine .inr ?_
      rcases ih hrest offset with ⟨heq, hlater⟩ | ⟨since, hmem, hreached, hlast⟩
      · rw [heq]
        refine ⟨first, List.mem_cons_self, not_lt.1 hlt, List.forall_mem_cons.2 ⟨fun _ => le_rfl, ?_⟩⟩
        intro c hc hcs
        exact absurd (hlater c hc) (not_lt.2 hcs)
      · refine ⟨since, List.mem_cons_of_mem _ hmem, hreached, List.forall_mem_cons.2 ⟨?_, hlast⟩⟩
        exact fun _ => (hfirst _ hmem).le

theorem sorted_berlinChanges : berlinChanges.Pairwise fun a b => a.1 < b.1 := by
  decide +kernel

/-- The record ends where the yearly changes begin, with the same change. -/
theorem berlinChanges_le : ∀ c ∈ berlinChanges, c.1 ≤ berlinRuleStart ∧
    (c.1 = berlinRuleStart → c.2 = 7200) := by
  decide

/-! ### Years and their summers -/

/-- The first second of a year, UTC. -/
def yearBegin (year : Nat) : Int := ((daysBeforeYear year : Int) - epochDay) * 86400

/-- The first second of summer time in a year. -/
def summerBegin (year : Nat) : Int := oneOClock (lastSunday year 3)

/-- The first second after summer time in a year. -/
def summerEnd (year : Nat) : Int := oneOClock (lastSunday year 10)

theorem lastSunday_eq (year month : Nat) :
    lastSunday year month = daysBeforeYear year + daysBeforeMonth year month + 30 -
      (daysBeforeYear year + daysBeforeMonth year month + 31) % 7 := rfl

/-- A last Sunday is the one that is computed. -/
theorem dayNumber_of_isLastSunday {d : Date} {month : Nat} (h : d.IsLastSunday month) :
    d.dayNumber = lastSunday d.year month := by
  obtain ⟨rfl, hsunday, hle, hlast⟩ := h
  rw [lastSunday_eq]
  simp only [Date.IsSunday, Date.dayNumber] at hsunday ⊢
  omega

/-- And the one that is computed is a last Sunday. -/
theorem exists_isLastSunday (year month : Nat) : ∃ d : Date, d.year = year ∧
    d.IsLastSunday month ∧ d.dayNumber = lastSunday year month := by
  let day := 31 - (daysBeforeYear year + daysBeforeMonth year month + 31) % 7
  refine ⟨⟨year, month, day⟩, rfl, ⟨rfl, ?_, ?_, ?_⟩, ?_⟩
  · show (daysBeforeYear year + daysBeforeMonth year month + (day - 1)) % 7 = 6
    omega
  · show day ≤ 31
    omega
  · show 31 < day + 7
    omega
  · rw [lastSunday_eq]
    show daysBeforeYear year + daysBeforeMonth year month + (day - 1) = _
    omega

theorem daysBeforeMonth_of_summer (year : Nat) :
    daysBeforeMonth year 3 = yearLength year - 306 ∧
      daysBeforeMonth year 10 = yearLength year - 92 := by
  cases h : isLeap year <;> simp [daysBeforeMonth, monthLengths, yearLength, h]

theorem yearLength_cases (year : Nat) : yearLength year = 365 ∨ yearLength year = 366 := by
  rw [yearLength]
  split
  · exact .inr rfl
  · exact .inl rfl

theorem yearBegin_lt_summerBegin (year : Nat) : yearBegin year < summerBegin year := by
  obtain ⟨hmarch, -⟩ := daysBeforeMonth_of_summer year
  have hlength := yearLength_cases year
  rw [summerBegin, lastSunday_eq, hmarch, yearBegin, oneOClock]
  omega

theorem summerBegin_lt_summerEnd (year : Nat) : summerBegin year < summerEnd year := by
  obtain ⟨hmarch, hoctober⟩ := daysBeforeMonth_of_summer year
  have hlength := yearLength_cases year
  rw [summerBegin, summerEnd, lastSunday_eq, lastSunday_eq, hmarch, hoctober, oneOClock, oneOClock]
  omega

theorem daysBeforeYear_next {year : Nat} (h : 1 ≤ year) :
    daysBeforeYear (year + 1) = daysBeforeYear year + yearLength year := by
  obtain ⟨y, rfl⟩ := Nat.exists_eq_add_of_le' h
  exact daysBeforeYear_succ y

theorem summerEnd_lt_yearBegin {year : Nat} (h : 1 ≤ year) :
    summerEnd year < yearBegin (year + 1) := by
  obtain ⟨-, hoctober⟩ := daysBeforeMonth_of_summer year
  have hlength := yearLength_cases year
  rw [summerEnd, lastSunday_eq, hoctober, yearBegin, daysBeforeYear_next h, oneOClock]
  omega

theorem yearBegin_mono {y z : Nat} (h : y ≤ z) : yearBegin y ≤ yearBegin z := by
  have hdays := daysBeforeYear_mono h
  unfold yearBegin
  omega

/-- The summers of two years do not meet. -/
theorem summerEnd_lt_summerBegin {y z : Nat} (hy : 1 ≤ y) (h : y < z) :
    summerEnd y < summerBegin z :=
  calc summerEnd y < yearBegin (y + 1) := summerEnd_lt_yearBegin hy
    _ ≤ yearBegin z := yearBegin_mono h
    _ < summerBegin z := yearBegin_lt_summerBegin z

theorem summerBegin_mono {y z : Nat} (hy : 1 ≤ y) (h : y ≤ z) : summerBegin y ≤ summerBegin z := by
  rcases Nat.eq_or_lt_of_le h with rfl | hlt
  · exact le_rfl
  · exact ((summerBegin_lt_summerEnd y).trans (summerEnd_lt_summerBegin hy hlt)).le

theorem summerEnd_mono {y z : Nat} (hy : 1 ≤ y) (h : y ≤ z) : summerEnd y ≤ summerEnd z := by
  rcases Nat.eq_or_lt_of_le h with rfl | hlt
  · exact le_rfl
  · exact ((summerEnd_lt_summerBegin hy hlt).trans (summerBegin_lt_summerEnd z)).le

theorem summerBegin_of_ruleStart : summerBegin 1996 = berlinRuleStart := by decide

/-- An instant lies in its year. -/
theorem yearOfSeconds_spec {seconds : Int} (h : 0 ≤ seconds + epochDay * 86400) :
    1 ≤ yearOfSeconds seconds ∧ yearBegin (yearOfSeconds seconds) ≤ seconds ∧
      seconds < yearBegin (yearOfSeconds seconds + 1) := by
  obtain ⟨hfirst, hday, hlength⟩ := splitYear_spec ((seconds + epochDay * 86400) / 86400).toNat
  change 1 ≤ yearOfSeconds seconds at hfirst
  change daysBeforeYear (yearOfSeconds seconds) + _ = _ at hday
  change _ < yearLength (yearOfSeconds seconds) at hlength
  refine ⟨hfirst, ?_, ?_⟩
  · unfold yearBegin
    omega
  · rw [yearBegin, daysBeforeYear_next hfirst]
    omega

/-! ### The offset in force -/

/-- The changes by the year: those on record, and the beginning and the end of summer
time from 1996 on. -/
theorem berlinChange_iff {since offset : Int} :
    BerlinChange since offset ↔ (since, offset) ∈ berlinChanges ∨
      ∃ year, 1996 ≤ year ∧ (since = summerBegin year ∧ offset = 7200 ∨
        since = summerEnd year ∧ offset = 3600) := by
  constructor
  · intro h
    cases h with
    | recorded h => exact .inl h
    | @spring d hyear hd =>
      exact .inr ⟨d.year, hyear, .inl ⟨by rw [dayNumber_of_isLastSunday hd, summerBegin], rfl⟩⟩
    | @autumn d hyear hd =>
      exact .inr ⟨d.year, hyear, .inr ⟨by rw [dayNumber_of_isLastSunday hd, summerEnd], rfl⟩⟩
  · rintro (h | ⟨year, hyear, ⟨rfl, rfl⟩ | ⟨rfl, rfl⟩⟩)
    · exact .recorded h
    · obtain ⟨d, rfl, hd, hnumber⟩ := exists_isLastSunday year 3
      rw [summerBegin, ← hnumber]
      exact .spring hyear hd
    · obtain ⟨d, rfl, hd, hnumber⟩ := exists_isLastSunday year 10
      rw [summerEnd, ← hnumber]
      exact .autumn hyear hd

theorem ruleStart_le_summerBegin {year : Nat} (h : 1996 ≤ year) :
    berlinRuleStart ≤ summerBegin year :=
  summerBegin_of_ruleStart ▸ summerBegin_mono (by decide) h

theorem summerBegin_ne_summerEnd {y z : Nat} (hy : 1996 ≤ y) (hz : 1996 ≤ z) :
    summerBegin y ≠ summerEnd z := by
  rcases Nat.lt_or_ge z y with hlt | hle
  · exact (summerEnd_lt_summerBegin (le_trans (by decide) hz) hlt).ne'
  · have hbegin := summerBegin_mono (le_trans (by decide) hy) hle
    exact (hbegin.trans_lt (summerBegin_lt_summerEnd z)).ne

/-- A change on record and a yearly one at the same instant are that of 1996. -/
theorem offset_of_recorded {since offset : Int} (hmem : (since, offset) ∈ berlinChanges)
    {year : Nat} (hyear : 1996 ≤ year) {o : Int}
    (hyearly : since = summerBegin year ∧ o = 7200 ∨ since = summerEnd year ∧ o = 3600) :
    offset = o := by
  obtain ⟨hle, hlast⟩ := berlinChanges_le _ hmem
  have hstart := ruleStart_le_summerBegin hyear
  have hend := summerBegin_lt_summerEnd year
  rcases hyearly with ⟨rfl, rfl⟩ | ⟨rfl, rfl⟩
  · exact hlast (le_antisymm hle hstart)
  · exact absurd (hstart.trans_lt hend) (not_lt.2 hle)

/-- The offset changes to one offset at a time. -/
theorem BerlinChange.unique {since o o' : Int} (h : BerlinChange since o)
    (h' : BerlinChange since o') : o = o' := by
  rcases berlinChange_iff.1 h with hmem | ⟨y, hy, hyearly⟩ <;>
    rcases berlinChange_iff.1 h' with hmem' | ⟨z, hz, hyearly'⟩
  · have hnodup : (berlinChanges.map Prod.fst).Nodup :=
      List.pairwise_map.2 (sorted_berlinChanges.imp ne_of_lt)
    exact congrArg Prod.snd (List.inj_on_of_nodup_map hnodup hmem hmem' rfl)
  · exact offset_of_recorded hmem hz hyearly'
  · exact (offset_of_recorded hmem' hy hyearly).symm
  · rcases hyearly with ⟨rfl, rfl⟩ | ⟨rfl, rfl⟩ <;> rcases hyearly' with ⟨heq, rfl⟩ | ⟨heq, rfl⟩
    · rfl
    · exact absurd heq (summerBegin_ne_summerEnd hy hz)
    · exact absurd heq.symm (summerBegin_ne_summerEnd hz hy)
    · rfl

/-- One offset at most is in force. -/
theorem InForce.unique {t : Instant} {o o' : Int} (h : InForce t o) (h' : InForce t o') :
    o = o' := by
  cases h with
  | meanTime hbefore =>
    cases h' with
    | meanTime => rfl
    | since hchange hreached => exact absurd (hbefore _ _ hchange) (not_lt.2 hreached)
  | since hchange hreached hlast =>
    cases h' with
    | meanTime hbefore => exact absurd (hbefore _ _ hchange) (not_lt.2 hreached)
    | since hchange' hreached' hlast' =>
      obtain rfl := le_antisymm (hlast' _ _ hchange hreached) (hlast _ _ hchange' hreached')
      exact hchange.unique hchange'

/-- Before the yearly changes begin, the record decides. -/
theorem inForce_of_record {t : Instant} (h : t.seconds < berlinRuleStart) :
    InForce t (offsetFrom berlinMeanOffset berlinChanges t.seconds) := by
  -- no yearly change has come
  have hrecorded {since offset : Int} (hchange : BerlinChange since offset) :
      (since, offset) ∈ berlinChanges ∨ t.seconds < since := by
    rcases berlinChange_iff.1 hchange with hmem | ⟨year, hyear, ⟨rfl, -⟩ | ⟨rfl, -⟩⟩
    · exact .inl hmem
    · exact .inr (h.trans_le (ruleStart_le_summerBegin hyear))
    · exact .inr ((h.trans_le (ruleStart_le_summerBegin hyear)).trans (summerBegin_lt_summerEnd year))
  rcases offsetFrom_spec sorted_berlinChanges berlinMeanOffset t.seconds with
    ⟨heq, hlater⟩ | ⟨since, hmem, hreached, hlast⟩
  · rw [heq]
    refine .meanTime fun since offset hchange => ?_
    rcases hrecorded hchange with hmem | hlt
    · exact hlater _ hmem
    · exact hlt
  · refine .since (.recorded hmem) hreached fun later o hchange hle => ?_
    rcases hrecorded hchange with hmem | hlt
    · exact hlast _ hmem hle
    · exact absurd hle (not_le.2 hlt)

/-- Around the summer of a year there are no changes but those that begin and end it. -/
theorem change_around_summer {year : Nat} (hyear : 1996 ≤ year) {since offset : Int}
    (h : BerlinChange since offset) : since ≤ summerBegin year ∨ summerEnd year ≤ since := by
  have hfirst {z : Nat} (hz : 1996 ≤ z) : 1 ≤ z := le_trans (by decide) hz
  rcases berlinChange_iff.1 h with hmem | ⟨z, hz, ⟨rfl, -⟩ | ⟨rfl, -⟩⟩
  · exact .inl ((berlinChanges_le _ hmem).1.trans (ruleStart_le_summerBegin hyear))
  · rcases Nat.lt_or_ge year z with hlt | hle
    · exact .inr (summerEnd_lt_summerBegin (hfirst hyear) hlt).le
    · exact .inl (summerBegin_mono (hfirst hz) hle)
  · rcases Nat.lt_or_ge z year with hlt | hle
    · exact .inl (summerEnd_lt_summerBegin (hfirst hz) hlt).le
    · exact .inr (summerEnd_mono (hfirst hyear) hle)

/-- Around the winter behind it there are none but its end and the beginning of the next
summer. -/
theorem change_around_winter {year : Nat} (hyear : 1996 ≤ year) {since offset : Int}
    (h : BerlinChange since offset) : since ≤ summerEnd year ∨ summerBegin (year + 1) ≤ since := by
  have hfirst {z : Nat} (hz : 1996 ≤ z) : 1 ≤ z := le_trans (by decide) hz
  rcases berlinChange_iff.1 h with hmem | ⟨z, hz, ⟨rfl, -⟩ | ⟨rfl, -⟩⟩
  · have hbefore := (berlinChanges_le _ hmem).1.trans (ruleStart_le_summerBegin hyear)
    exact .inl (hbefore.trans (summerBegin_lt_summerEnd year).le)
  · rcases Nat.lt_or_ge year z with hlt | hle
    · exact .inr (summerBegin_mono (Nat.le_add_left 1 year) hlt)
    · exact .inl ((summerBegin_mono (hfirst hz) hle).trans (summerBegin_lt_summerEnd year).le)
  · rcases Nat.lt_or_ge year z with hlt | hle
    · have hnext := summerBegin_mono (Nat.le_add_left 1 year) hlt
      exact .inr (hnext.trans (summerBegin_lt_summerEnd z).le)
    · exact .inl (summerEnd_mono (hfirst hz) hle)

/-- Until the next change an offset stays in force. -/
theorem inForce_between {since next offset : Int} (hchange : BerlinChange since offset)
    (hnone : ∀ {later o : Int}, BerlinChange later o → later ≤ since ∨ next ≤ later) {t : Instant}
    (hfrom : since ≤ t.seconds) (hto : t.seconds < next) : InForce t offset := by
  refine .since hchange hfrom fun later o hlater hle => ?_
  rcases hnone hlater with hbefore | hafter
  · exact hbefore
  · exact absurd (hafter.trans hle) (not_le.2 hto)

theorem inForce_of_summer {year : Nat} (hyear : 1996 ≤ year) {t : Instant}
    (hfrom : summerBegin year ≤ t.seconds) (hto : t.seconds < summerEnd year) : InForce t 7200 :=
  inForce_between (berlinChange_iff.2 (.inr ⟨year, hyear, .inl ⟨rfl, rfl⟩⟩))
    (change_around_summer hyear) hfrom hto

theorem inForce_of_winter {year : Nat} (hyear : 1996 ≤ year) {t : Instant}
    (hfrom : summerEnd year ≤ t.seconds) (hto : t.seconds < summerBegin (year + 1)) :
    InForce t 3600 :=
  inForce_between (berlinChange_iff.2 (.inr ⟨year, hyear, .inr ⟨rfl, rfl⟩⟩))
    (change_around_winter hyear) hfrom hto

/-- From 1996 on it is summer in the year of an instant, or one of the two winters that
the year has part in. -/
theorem inForce_of_rule {t : Instant} (h : berlinRuleStart ≤ t.seconds) :
    InForce t (if isSummer t.seconds then 7200 else 3600) := by
  have hcalendar : 0 ≤ t.seconds + epochDay * 86400 := by
    have hstart : (0 : Int) ≤ berlinRuleStart := by decide
    omega
  obtain ⟨hfirst, hbegin, hend⟩ := yearOfSeconds_spec hcalendar
  have hsummer : isSummer t.seconds = true ↔ summerBegin (yearOfSeconds t.seconds) ≤ t.seconds ∧
      t.seconds < summerEnd (yearOfSeconds t.seconds) := by
    simp only [isSummer, summerBegin, summerEnd, Bool.and_eq_true, decide_eq_true_eq]
  generalize yearOfSeconds t.seconds = year at hfirst hbegin hend hsummer
  rw [← summerBegin_of_ruleStart] at h
  have hrule : 1996 ≤ year := by
    by_contra hearly
    have hbefore : yearBegin (year + 1) ≤ yearBegin 1996 := yearBegin_mono (Nat.lt_of_not_le hearly)
    have hspring := yearBegin_lt_summerBegin 1996
    omega
  -- a winter lies in two years, so before the summer it is still that of the year before
  by_cases hbegun : summerBegin year ≤ t.seconds
  · by_cases hended : summerEnd year ≤ t.seconds
    · rw [if_neg fun hs => absurd (hsummer.1 hs).2 (not_lt.2 hended)]
      exact inForce_of_winter hrule hended (hend.trans (yearBegin_lt_summerBegin (year + 1)))
    · rw [if_pos (hsummer.2 ⟨hbegun, not_le.1 hended⟩)]
      exact inForce_of_summer hrule hbegun (not_le.1 hended)
  · rw [if_neg fun hs => hbegun (hsummer.1 hs).1]
    obtain ⟨before, rfl⟩ := Nat.exists_eq_add_of_le' hfirst
    have hbefore : 1996 ≤ before := by
      by_contra hlt
      have hle : before + 1 ≤ 1996 := Nat.lt_of_not_le hlt
      exact hbegun ((summerBegin_mono hfirst hle).trans h)
    have hended := summerEnd_lt_yearBegin (le_trans (by decide) hbefore)
    exact inForce_of_winter hbefore (hended.le.trans hbegin) (not_le.1 hbegun)

/-- **The offset in force.**  It is the one that the zone finds, and no other. -/
theorem inForce_iff {t : Instant} {offset : Int} :
    InForce t offset ↔ offset = Zone.berlin.offsetAt t := by
  have hfound : InForce t (Zone.berlin.offsetAt t) := by
    show InForce t (berlinOffset t)
    rw [berlinOffset]
    by_cases h : t.seconds < berlinRuleStart
    · rw [if_pos h]
      exact inForce_of_record h
    · rw [if_neg h]
      exact inForce_of_rule (not_lt.1 h)
  constructor
  · exact fun h => h.unique hfound
  · rintro rfl
    exact hfound

/-! ### Local mean time -/

/-- The end of local mean time, at midnight before the first of April 1893. -/
def meanTimeEnd : Int := (Civil.mk ⟨1893, 4, 1⟩ 0 0 0 0).seconds - berlinMeanOffset

/-- The offset changes at the end of local mean time, and from then on to whole
minutes. -/
theorem minutes_of_change {since offset : Int} (h : BerlinChange since offset) :
    meanTimeEnd ≤ since ∧ offset % 60 = 0 := by
  rcases berlinChange_iff.1 h with hmem | ⟨year, hyear, hyearly⟩
  · have all : ∀ c ∈ berlinChanges, meanTimeEnd ≤ c.1 ∧ c.2 % 60 = 0 := by decide
    exact all _ hmem
  · have hrule : meanTimeEnd ≤ berlinRuleStart := by decide
    have hbegin := hrule.trans (ruleStart_le_summerBegin hyear)
    rcases hyearly with ⟨rfl, rfl⟩ | ⟨rfl, rfl⟩
    · exact ⟨hbegin, rfl⟩
    · exact ⟨hbegin.trans (summerBegin_lt_summerEnd year).le, rfl⟩

/-- The offset in force has seconds as long as local mean time is kept. -/
theorem minutes_of_inForce {t : Instant} {offset : Int} (h : InForce t offset) :
    offset % 60 = 0 ↔ meanTimeEnd ≤ t.seconds := by
  cases h with
  | meanTime hbefore =>
    have hfirst : BerlinChange meanTimeEnd 3600 := .recorded (by decide)
    exact iff_of_false (by decide) (not_le.2 (hbefore _ _ hfirst))
  | since hchange hreached =>
    obtain ⟨hend, hminutes⟩ := minutes_of_change hchange
    exact iff_of_true hminutes (hend.trans hreached)

end StartupReport.Calendar
