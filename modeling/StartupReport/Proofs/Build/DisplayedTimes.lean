/-
StartupReport/Proofs/Build/DisplayedTimes.lean

What the displayed times of a build tell.

A text tells an instant in Berlin if reading it as a local date and time with its
offset gives the instant back and the offset is the one in force (`TellsInBerlin`).
Everything that the zone shows does so (`tells_of_display`), and since a text is read
in one way only, it tells one instant (`TellsInBerlin.unique`).

For a build that means: whatever its properties are, once they resolve, both times
can be recovered from what is shown of them, and times that differ are shown
differently, in one build or in two (`shownTimes_lossless`).  When summer time ends an
hour is repeated, and there it is the offset that keeps them apart.
-/
import StartupReport.Proofs.Build.MetadataFields
import StartupReport.Proofs.Calendar.BerlinChanges
import StartupReport.Proofs.Calendar.Display
import StartupReport.Proofs.Calendar.IsoReading

namespace StartupReport

/-! ### Texts that tell an instant -/

namespace Calendar

/-- A text tells an instant in Berlin: it reads as a local date and time at the offset in
force, which together name the instant, and it is longer by the seconds of the offset
as long as local mean time is kept. -/
structure TellsInBerlin (text : String) (t : Instant) : Prop where
  moment : ∃ c offset, Moment.ofIso? text = some ⟨c, some offset⟩ ∧
    (Moment.mk c (some offset)).instant = t ∧ InForce t offset
  length : text.toList.length = if t.seconds < meanTimeEnd then 28 else 25

/-- A text tells one instant. -/
theorem TellsInBerlin.unique {text : String} {t u : Instant} (ht : TellsInBerlin text t)
    (hu : TellsInBerlin text u) : t = u := by
  obtain ⟨c, offset, hread, rfl, -⟩ := ht.moment
  obtain ⟨c', offset', hread', rfl, -⟩ := hu.moment
  rw [hread, Option.some.injEq] at hread'
  rw [hread']

/-- What the clocks in Berlin show of an instant tells it. -/
theorem tells_of_display {t : Instant} {text : String} (h : Zone.berlin.display t = .ok text) :
    TellsInBerlin text t := by
  obtain ⟨c, hvalid, hmicrosecond, hseconds, rfl⟩ := exists_civil_of_display h
  have hforce : InForce t (Zone.berlin.offsetAt t) := inForce_iff.2 rfl
  have hoffset : OffsetOk (Zone.berlin.offsetAt t) := by
    obtain ⟨hpos, hle⟩ := berlin_offset_bounds t
    unfold OffsetOk
    omega
  refine ⟨⟨c, _, ofIso?_isoAt hvalid hmicrosecond hoffset, ?_, hforce⟩, ?_⟩
  · -- the reading lies ahead of UTC by the offset, which is taken off again
    rw [Moment.instant, Option.getD_some, hseconds, Int.add_sub_cancel]
  · simp only [length_isoAt, minutes_of_inForce hforce, ← not_lt, ite_not]

end Calendar

/-! ### Builds -/

namespace Build

open Calendar (Instant TellsInBerlin Zone tells_of_display)

/-- The times of a build, each with the text that shows it. -/
def Metadata.shownTimes (m : Metadata) : List (Instant × String) :=
  [(m.commitTime, m.commitTimeDisplay), (m.buildTime, m.buildTimeDisplay)]

/-- Both times of a build that resolves are told by their texts. -/
theorem tells_of_ofProperties {ps : Properties} {m : Metadata}
    (h : (Metadata.ofProperties ps).outcome = .ok m) :
    ∀ shown ∈ m.shownTimes, TellsInBerlin shown.2 shown.1 := by
  obtain ⟨zone, hzone, hdescribes⟩ := ofProperties_eq_ok_iff.1 h
  obtain rfl : Zone.berlin = zone := Option.some.inj (named?_displayZone.symm.trans hzone)
  have hcommit := tells_of_display hdescribes.commitTimeDisplay
  have hbuild := tells_of_display hdescribes.buildTimeDisplay
  exact List.forall_mem_cons.2 ⟨hcommit, List.forall_mem_singleton.2 hbuild⟩

/-- **Displayed times lose nothing.**  If properties resolve, what is shown of the commit
time and of the build time tells these instants.  So different instants are shown
differently, also in the metadata of different properties. -/
theorem shownTimes_lossless {ps : Properties} {m : Metadata}
    (h : (Metadata.ofProperties ps).outcome = .ok m) :
    TellsInBerlin m.commitTimeDisplay m.commitTime ∧
      TellsInBerlin m.buildTimeDisplay m.buildTime ∧
      ∀ (qs : Properties) (n : Metadata), (Metadata.ofProperties qs).outcome = .ok n →
        ∀ a ∈ m.shownTimes, ∀ b ∈ n.shownTimes, a.1 ≠ b.1 → a.2 ≠ b.2 := by
  have htells := tells_of_ofProperties h
  refine ⟨htells _ List.mem_cons_self, htells _ (List.mem_cons_of_mem _ List.mem_cons_self), ?_⟩
  intro qs n hn a ha b hb hne heq
  have hb' := tells_of_ofProperties hn b hb
  rw [← heq] at hb'
  exact hne ((htells a ha).unique hb')

/-- A commit half an hour before summer time ended, and its build an hour later. -/
def repeatedHour : Properties :=
  [(commitTimeKey, "2020-10-25T00:30:00+0000"), (buildTimeKey, "2020-10-25T01:30:00+0000")]

/-- The clocks show half past two both times, at different offsets. -/
def repeatedHourBuild : Metadata :=
  { Metadata.default with
    commitTime := ⟨1603585800⟩, commitTimeDisplay := "2020-10-25T02:30:00+02:00"
    buildTime := ⟨1603589400⟩, buildTimeDisplay := "2020-10-25T02:30:00+01:00" }

theorem shownTimes_lossless_repeatedHour :
    (Metadata.ofProperties repeatedHour).outcome = .ok repeatedHourBuild ∧
      TellsInBerlin "2020-10-25T02:30:00+02:00" ⟨1603585800⟩ ∧
      TellsInBerlin "2020-10-25T02:30:00+01:00" ⟨1603589400⟩ := by
  have hdescribes : Describes .berlin repeatedHour repeatedHourBuild :=
    { projectVersion := by decide
      toolchainVersion := by decide
      commitId := by decide
      commitIdAbbrev := by decide
      commitTime := by decide +kernel
      buildTime := by decide +kernel
      commitTimeDisplay := by decide +kernel
      buildTimeDisplay := by decide +kernel }
  have hresolved : (Metadata.ofProperties repeatedHour).outcome = .ok repeatedHourBuild :=
    ofProperties_eq_ok_iff.2 ⟨.berlin, named?_displayZone, hdescribes⟩
  obtain ⟨hcommit, hbuild, -⟩ := shownTimes_lossless hresolved
  exact ⟨hresolved, hcommit, hbuild⟩

end Build

end StartupReport
