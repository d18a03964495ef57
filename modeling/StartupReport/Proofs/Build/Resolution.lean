/-
StartupReport/Proofs/Build/Resolution.lean

What comes of a version file that is there and can be read.

`Resolves` is what the resolution promises: metadata, or a fault that names
the file and the key of a timestamp, after one log record of an error.  It
holds for a file with malformed timestamps as for one with good ones, but not
for every file.  A timestamp of the right form may name an instant outside the
calendar, or one that UTC still shows and Berlin no longer does; `Overflows`
lists the three places where that happens.  Then the fault is one of range,
it names no key, and nothing is logged.  `load_resolves_iff` says that these
are the only files without the promise.
-/
import StartupReport.Build.Resource
import StartupReport.Proofs.Calendar.Display
import StartupReport.Proofs.Calendar.TimestampForm

namespace StartupReport.Build

open Calendar (Error Instant Zone Zones readTimestamp)

/-! ### The promise and what breaks it -/

/-- The resource is a file that can be opened. -/
def Resource.IsReadable (r : Resource) : Prop :=
  (∃ v, r.isFile = .ok v ∧ v.isPresent = true) ∧ r.opening = .ok ()

/-- The log records of errors among events. -/
def errorRecords (events : List Event) : List Record :=
  (records events).filter fun r => r.level = Log.Level.error

/-- Metadata, or a fault that names the version file and the key of a timestamp
after a single log record of an error. -/
inductive Resolves (x : Traced Metadata) : Prop
  | metadata {m : Metadata} (outcome : x.outcome = .ok m)
  | malformed {text key : String} {cause : Option Fault}
      (isTimeKey : key = commitTimeKey ∨ key = buildTimeKey)
      (outcome : x.outcome = .error (.resolution text (some versionFileName) (some key) cause))
      (once : (errorRecords x.events).length = 1)

/-- The text that stands for the timestamp of a key. -/
def timeText (ps : Properties) (key : String) : String := property ps key epochText

/-- The timestamps of a version file leave the calendar: the commit is made
outside its years, or the commit is not and the build is, or both are made in
its years and one of them so late that Berlin is in the year 10000. -/
inductive Overflows (ps : Properties) : Prop
  | commit (outside : readTimestamp (timeText ps commitTimeKey) = .error .outOfRange)
  | build {t : Instant} (commit : readTimestamp (timeText ps commitTimeKey) = .ok t)
      (outside : readTimestamp (timeText ps buildTimeKey) = .error .outOfRange)
  | shown {t u : Instant} (commit : readTimestamp (timeText ps commitTimeKey) = .ok t)
      (build : readTimestamp (timeText ps buildTimeKey) = .ok u)
      (late : t.InLastHour ∨ u.InLastHour)

theorem not_resolves_of_outOfRange {x : Traced Metadata}
    (h : x.outcome = .error (.time .outOfRange)) : ¬ Resolves x := by
  intro hresolves
  cases hresolves with
  | metadata outcome =>
    rw [h] at outcome
    cases outcome
  | malformed _ outcome _ =>
    rw [h] at outcome
    cases outcome

/-! ### One timestamp -/

section
variable {ps : Properties} {key : String}

theorem timeOf_of_ok {t : Instant} (h : readTimestamp (timeText ps key) = .ok t) :
    timeOf ps key = pure t := by
  unfold timeOf
  rw [show property ps key epochText = timeText ps key from rfl, h]

theorem timeOf_of_outOfRange (h : readTimestamp (timeText ps key) = .error .outOfRange) :
    timeOf ps key = Traced.fail (.time .outOfRange) := by
  unfold timeOf
  rw [show property ps key epochText = timeText ps key from rfl, h]

/-- A malformed timestamp is logged, then reported with its key. -/
theorem timeOf_of_malformed {e : Error} (h : readTimestamp (timeText ps key) = .error e)
    (he : e ≠ .outOfRange) :
    timeOf ps key =
      ⟨.error (.resolution malformedText (some versionFileName) (some key) (some (.time e))),
        [.logged ⟨resolutionLogger, Log.Level.error, s!"{malformedText} : {e.message}", none⟩]⟩ := by
  unfold timeOf
  rw [show property ps key epochText = timeText ps key from rfl, h]
  cases e with
  | outOfRange => exact absurd rfl he
  | _ => rfl

theorem displayIn_of_ok {zone : Zone} {t : Instant} {text : String}
    (h : zone.display t = .ok text) : displayIn zone t = pure text := by
  rw [displayIn, h]
  rfl

theorem displayIn_of_error {zone : Zone} {t : Instant} {e : Error}
    (h : zone.display t = .error e) : displayIn zone t = Traced.fail (.time e) := by
  rw [displayIn, h]
  rfl

end

/-! ### The whole file -/

section
variable {ps : Properties} {zoneName : String} {zones : Zones} {zone : Zone}

/-- The resolution, once the zone is found. -/
theorem ofProperties_of_zone (hzone : zones zoneName = some zone) (ps : Properties) :
    Metadata.ofProperties ps zoneName zones = (do
      let commitTime ← timeOf ps commitTimeKey
      let buildTime ← timeOf ps buildTimeKey
      let buildTimeDisplay ← displayIn zone buildTime
      let commitTimeDisplay ← displayIn zone commitTime
      return {
        projectVersion := property ps projectVersionKey unknown
        toolchainVersion := property ps toolchainVersionKey unknown
        buildTime, buildTimeDisplay
        commitId := property ps commitIdKey unknownCommitId
        commitIdAbbrev := property ps commitIdAbbrevKey unknownCommitIdAbbrev
        commitTime, commitTimeDisplay }) := by
  unfold Metadata.ofProperties
  rw [hzone]

theorem ofProperties_of_commit_error (hzone : zones zoneName = some zone) {f : Fault}
    {es : List Event} (hcommit : timeOf ps commitTimeKey = ⟨.error f, es⟩) :
    Metadata.ofProperties ps zoneName zones = ⟨.error f, es⟩ := by
  rw [ofProperties_of_zone hzone, hcommit]
  rfl

theorem ofProperties_of_build_error (hzone : zones zoneName = some zone) {t : Instant} {f : Fault}
    {es : List Event} (hcommit : timeOf ps commitTimeKey = pure t)
    (hbuild : timeOf ps buildTimeKey = ⟨.error f, es⟩) :
    Metadata.ofProperties ps zoneName zones = ⟨.error f, es⟩ := by
  rw [ofProperties_of_zone hzone, hcommit, hbuild]
  rfl

/-- With two instants of the calendar only their texts in Berlin can be missing,
and the build is shown first. -/
theorem ofProperties_of_times {t u : Instant}
    (hcommit : readTimestamp (timeText ps commitTimeKey) = .ok t)
    (hbuild : readTimestamp (timeText ps buildTimeKey) = .ok u) :
    (¬ (t.InLastHour ∨ u.InLastHour) → ∃ m, Metadata.ofProperties ps = pure m) ∧
      (t.InLastHour ∨ u.InLastHour →
        Metadata.ofProperties ps = Traced.fail (.time .outOfRange)) := by
  obtain ⟨htext, htlate⟩ := Calendar.display_berlin (Calendar.inRange_of_readTimestamp hcommit)
  obtain ⟨hutext, hulate⟩ := Calendar.display_berlin (Calendar.inRange_of_readTimestamp hbuild)
  rw [ofProperties_of_zone named?_displayZone, timeOf_of_ok hcommit, timeOf_of_ok hbuild,
    Traced.pure_bind, Traced.pure_bind]
  constructor
  · intro hlate
    obtain ⟨commitText, hcommitText⟩ := htext fun h => hlate (.inl h)
    obtain ⟨buildText, hbuildText⟩ := hutext fun h => hlate (.inr h)
    rw [displayIn_of_ok hbuildText, displayIn_of_ok hcommitText]
    exact ⟨_, rfl⟩
  · intro hlate
    -- one of the two texts is missing, whichever is asked for first
    by_cases hu : u.InLastHour
    · rw [displayIn_of_error (hulate hu), Traced.fail_bind]
    · obtain ⟨buildText, hbuildText⟩ := hutext hu
      rw [displayIn_of_ok hbuildText, Traced.pure_bind,
        displayIn_of_error (htlate (hlate.resolve_right hu)), Traced.fail_bind]

end

/-! ### The resource -/

section
variable {r : Resource} {zoneName : String} {zones : Zones} (h : r.IsReadable)
include h

/-- A readable resource is opened, and then its properties are resolved. -/
theorem load_of_readable :
    load r zoneName zones =
      ⟨(Metadata.ofProperties (Properties.parseBytes r.bytes) zoneName zones).outcome,
        .opened :: (Metadata.ofProperties (Properties.parseBytes r.bytes) zoneName zones).events⟩ := by
  obtain ⟨⟨v, hfile, hpresent⟩, hopening⟩ := h
  have hread : r.read = ⟨.ok (some (Properties.parseBytes r.bytes)), [.opened]⟩ := by
    unfold Resource.read
    rw [hfile, hopening]
    simp only [Traced.bind_def, Traced.ask, Traced.bind, hpresent, if_true]
    rfl
  unfold load
  rw [hread]
  rfl

/-- An error of one timestamp, and the log record of it, are all there is. -/
theorem resolves_of_malformed {key : String} {e : Error}
    (hkey : key = commitTimeKey ∨ key = buildTimeKey)
    (hresolution : Metadata.ofProperties (Properties.parseBytes r.bytes) =
      ⟨.error (.resolution malformedText (some versionFileName) (some key) (some (.time e))),
        [.logged ⟨resolutionLogger, Log.Level.error, s!"{malformedText} : {e.message}", none⟩]⟩) :
    Resolves (load r) := by
  have houtcome : (load r).outcome =
      .error (.resolution malformedText (some versionFileName) (some key) (some (.time e))) := by
    rw [load_of_readable h, hresolution]
  have honce : (errorRecords (load r).events).length = 1 := by
    rw [load_of_readable h, hresolution]
    rfl
  exact .malformed hkey houtcome honce

/-- Timestamps that leave the calendar leave the resolution with a fault of
range, and the log empty. -/
theorem load_of_overflows (hoverflow : Overflows (Properties.parseBytes r.bytes)) :
    (load r).outcome = .error (.time .outOfRange) ∧ records (load r).events = [] := by
  have hescapes : Metadata.ofProperties (Properties.parseBytes r.bytes) =
      Traced.fail (.time .outOfRange) := by
    cases hoverflow with
    | commit outside =>
      exact ofProperties_of_commit_error named?_displayZone (timeOf_of_outOfRange outside)
    | build commit outside =>
      exact ofProperties_of_build_error named?_displayZone (timeOf_of_ok commit)
        (timeOf_of_outOfRange outside)
    | shown commit build late => exact (ofProperties_of_times commit build).2 late
  rw [load_of_readable h, hescapes]
  exact ⟨rfl, rfl⟩

/-- Timestamps that stay in the calendar are good, or the first that is not is
malformed. -/
theorem resolves_of_not_overflows (hoverflow : ¬ Overflows (Properties.parseBytes r.bytes)) :
    Resolves (load r) := by
  -- the timestamps are read in turn, and the first that is malformed decides
  cases hcommit : readTimestamp (timeText (Properties.parseBytes r.bytes) commitTimeKey) with
  | error e =>
    have he : e ≠ .outOfRange := by
      rintro rfl
      exact hoverflow (.commit hcommit)
    exact resolves_of_malformed h (.inl rfl)
      (ofProperties_of_commit_error named?_displayZone (timeOf_of_malformed hcommit he))
  | ok t =>
    cases hbuild : readTimestamp (timeText (Properties.parseBytes r.bytes) buildTimeKey) with
    | error e =>
      have he : e ≠ .outOfRange := by
        rintro rfl
        exact hoverflow (.build hcommit hbuild)
      exact resolves_of_malformed h (.inr rfl)
        (ofProperties_of_build_error named?_displayZone (timeOf_of_ok hcommit)
          (timeOf_of_malformed hbuild he))
    | ok u =>
      obtain ⟨m, hm⟩ := (ofProperties_of_times hcommit hbuild).1 fun late =>
        hoverflow (.shown hcommit hbuild late)
      have houtcome : (load r).outcome = .ok m := by
        rw [load_of_readable h, hm]
        rfl
      exact .metadata houtcome

/-- **Resolution of a readable version file.**  It gives metadata, or a fault
that names the malformed timestamp after one log record of an error, unless a
timestamp leaves the calendar.  In that case the fault is that a time is out of
range, and no log record is written. -/
theorem load_resolves_iff :
    (Resolves (load r) ↔ ¬ Overflows (Properties.parseBytes r.bytes)) ∧
      (Overflows (Properties.parseBytes r.bytes) →
        (load r).outcome = .error (.time .outOfRange) ∧ records (load r).events = []) := by
  refine ⟨⟨?_, resolves_of_not_overflows h⟩, load_of_overflows h⟩
  intro hresolves hoverflow
  exact not_resolves_of_outOfRange (load_of_overflows h hoverflow).1 hresolves

end

/-- A version file with a build in the last hour of the calendar. -/
def lateFile : Resource where
  isFile := .ok (.bool true)
  opening := .ok ()
  bytes := "git.build.time=9999-12-31T23:30:00+0000\n".toList.map fun c => c.toNat.toUInt8

/-- The late file is readable; UTC shows its time, and Berlin does not. -/
theorem not_resolves_lateFile : lateFile.IsReadable ∧ ¬ Resolves (load lateFile) := by
  have hreadable : lateFile.IsReadable := ⟨⟨.bool true, rfl, rfl⟩, rfl⟩
  have hcommit : readTimestamp (timeText (Properties.parseBytes lateFile.bytes) commitTimeKey) =
      .ok Instant.epoch := by
    decide +kernel
  have hbuild : readTimestamp (timeText (Properties.parseBytes lateFile.bytes) buildTimeKey) =
      .ok ⟨253402299000⟩ := by
    decide +kernel
  have hlate : (Instant.mk 253402299000).InLastHour := by decide
  refine ⟨hreadable, fun hresolves => ?_⟩
  exact (load_resolves_iff hreadable).1.1 hresolves (.shown hcommit hbuild (.inr hlate))

/-- A version file with a commit one hour before the start of the calendar. -/
def earlyFile : Resource where
  isFile := .ok (.bool true)
  opening := .ok ()
  bytes := "git.commit.time=0001-01-01T00:00:00+0100\n".toList.map fun c => c.toNat.toUInt8

/-- The early file is readable; its commit is out of range, and nothing says
which timestamp that is. -/
theorem not_resolves_earlyFile :
    earlyFile.IsReadable ∧ (load earlyFile).outcome = .error (.time .outOfRange) ∧
      records (load earlyFile).events = [] ∧ ¬ Resolves (load earlyFile) := by
  have hreadable : earlyFile.IsReadable := ⟨⟨.bool true, rfl, rfl⟩, rfl⟩
  have hcommit : readTimestamp (timeText (Properties.parseBytes earlyFile.bytes) commitTimeKey) =
      .error .outOfRange := by
    decide +kernel
  obtain ⟨houtcome, hrecords⟩ := load_of_overflows hreadable (.commit hcommit)
  exact ⟨hreadable, houtcome, hrecords, not_resolves_of_outOfRange houtcome⟩

end StartupReport.Build
