/-
StartupReport/Proofs/CommandLine/WrittenBuild.lean

From the replies of `git` to the metadata: writing a version file and loading it.

The values that a build records besides its version all survive in the file, and
its timestamps name instants that Berlin can show.  So loading the file succeeds
and gives back the time of the build, the version of the interpreter and what
`git` reported about the commit, whatever the version and whichever calls of
`git` are refused (`exists_load_of_dependable`).
-/
import StartupReport.Proofs.Build.Detection
import StartupReport.Proofs.CommandLine.VersionFileWriting

namespace StartupReport.CommandLine

open Build
open Calendar (Moment Zone readTimestamp writeTimestamp)
open Properties (OnOneLine Survives)

/-- What is collected about a build when `git` has replied. -/
def recordedBuild (version : Option String) (interpreter : Int × Int) (time : Moment)
    (git : Replies) : Properties :=
  collected ⟨version, none, interpreter⟩ time (commitProperties git)

section
variable (version : Option String) (interpreter : Int × Int) {time : Moment} {git : Replies}

/-- Everything that is collected besides the version survives. -/
theorem survives_recordedBuild (hgit : Dependable git)
    (hread : readTimestamp (writeTimestamp time) = .ok time.instant) :
    ∀ key ∈ laterKeys,
      Survives (valueOf (recordedBuild version interpreter time git) key).toList := by
  obtain ⟨hid, habbrev, htime⟩ := survives_commitProperties hgit
  have hbuild : Survives (writeTimestamp time).toList :=
    survives_of_fillsPlaces (Calendar.fillsPlaces_of_readTimestamp hread)
  intro key hkey
  simp only [laterKeys, keyOrder, List.tail_cons, List.mem_cons, List.not_mem_nil, or_false] at hkey
  rcases hkey with rfl | rfl | rfl | rfl | rfl
  · exact survives_interpreter interpreter
  · exact hid
  · exact habbrev
  · exact htime
  · exact hbuild

/-- There are metadata that what is collected describes. -/
theorem exists_describes_recordedBuild (hgit : Dependable git)
    (hread : readTimestamp (writeTimestamp time) = .ok time.instant)
    (hshown : ∃ text, Zone.berlin.display time.instant = .ok text) :
    ∃ m, Describes .berlin (recordedBuild version interpreter time git) m ∧
      m.buildTime = time.instant ∧ m.toolchainVersion = interpreterText interpreter ∧
      Reports git m := by
  obtain ⟨commitTime, commitText, hcommit, hcommitText⟩ := exists_commitTime hgit
  obtain ⟨buildText, hbuildText⟩ := hshown
  let ps := recordedBuild version interpreter time git
  have hproperty (key fallback : String) :
      property ps key fallback = valueOr fallback (valueOf ps key) :=
    property_eq_valueOr ps key fallback
  refine ⟨{
    projectVersion := property ps projectVersionKey unknown
    toolchainVersion := interpreterText interpreter
    buildTime := time.instant, buildTimeDisplay := buildText
    commitId := valueOr unknownCommitId (recordedCommit git)
    commitIdAbbrev := valueOr unknownCommitIdAbbrev (recordedAbbrev git)
    commitTime, commitTimeDisplay := commitText }, ?_, rfl, rfl,
    reports_of_recorded hgit rfl rfl hcommit⟩
  constructor
  case projectVersion => rfl
  case toolchainVersion =>
    rw [hproperty]
    exact (valueOr_interpreter unknown interpreter).symm
  case commitId => exact (hproperty commitIdKey unknownCommitId).symm
  case commitIdAbbrev => exact (hproperty commitIdAbbrevKey unknownCommitIdAbbrev).symm
  case commitTime =>
    rw [timeText, hproperty]
    exact hcommit
  case buildTime =>
    rw [timeText, hproperty]
    show readTimestamp (valueOr epochText (writeTimestamp time)) = .ok time.instant
    rw [valueOr_of_readTimestamp _ hread]
    exact hread
  case commitTimeDisplay => exact hcommitText
  case buildTimeDisplay => exact hbuildText

/-- A build whose time can be read and shown is written, and the file is loaded. -/
theorem exists_load_recordedBuild {h : Host} {output : Option String} (directory : String)
    (hwritable : Writable h output) (hgit : Dependable git)
    (hread : readTimestamp (writeTimestamp time) = .ok time.instant)
    (hshown : ∃ text, Zone.berlin.display time.instant = .ok text) :
    ∃ bytes m,
      Writes (writeVersionFile h output ⟨version, none, interpreter⟩ (.ok time)
        (detect directory git)) bytes ∧
      (load (.holding bytes)).outcome = .ok m ∧ m.buildTime = time.instant ∧
      m.toolchainVersion = interpreterText interpreter ∧ Reports git m := by
  have hdetection := outcome_detect directory hgit.refused
  have hwritten : ∃ bytes, Writes (writeVersionFile h output ⟨version, none, interpreter⟩ (.ok time)
      (detect directory git)) bytes :=
    exists_writes hwritable time hdetection (holdsCommit_commitProperties git)
  obtain ⟨bytes, hwrites⟩ := hwritten
  obtain ⟨t, ps, ht, rfl, hcomplete, hheld⟩ := exists_held_of_writes hdetection hwrites
  obtain rfl : time = t := Except.ok.inj ht
  -- what was collected describes metadata, and all that it says besides the version survives
  obtain ⟨m, hdescribes, hbuild, htoolchain, hreports⟩ :=
    exists_describes_recordedBuild version interpreter hgit hread hshown
  have hload := outcome_load_of_survives hcomplete hheld
    (survives_recordedBuild version interpreter hgit hread) hdescribes
  -- the version that was read is put into these metadata, and nothing else changes
  exact ⟨bytes, _, hwrites, hload, hbuild, htoolchain,
    ⟨hreports.commit, hreports.noCommit, hreports.time, hreports.noTime⟩⟩

end

/-- A time that a version file can record: in UTC, from the year 1000 on, and one
that Berlin can show. -/
structure Recordable (time : Moment) : Prop where
  utc : time.offset = some 0
  valid : time.civil.Valid
  year : 1000 ≤ time.civil.date.year
  shown : ∃ text, Zone.berlin.display time.instant = .ok text

theorem Recordable.read {time : Moment} (h : Recordable time) :
    readTimestamp (writeTimestamp time) = .ok time.instant :=
  Calendar.readTimestamp_writeTimestamp h.utc h.valid h.year

/-- **From `git` to the metadata.**  A version file that can be written, of a build at
a time that can be recorded, is written, and loading it succeeds.  The metadata
have the time of the build to the second, the version of the interpreter and what
`git` reported, whatever the version and whichever calls of `git` were refused. -/
theorem exists_load_of_dependable {h : Host} {output : Option String}
    (hwritable : Writable h output) (version : Option String) (interpreter : Int × Int)
    {time : Moment} (htime : Recordable time) (directory : String) {git : Replies}
    (hgit : Dependable git) :
    ∃ bytes m,
      Writes (writeVersionFile h output ⟨version, none, interpreter⟩ (.ok time)
        (detect directory git)) bytes ∧
      (load (.holding bytes)).outcome = .ok m ∧ m.buildTime = ⟨time.civil.seconds⟩ ∧
      m.toolchainVersion = s!"{interpreter.1}.{interpreter.2}" ∧ Reports git m := by
  have hinstant : time.instant = ⟨time.civil.seconds⟩ := by
    rw [Moment.instant, htime.utc, Option.getD_some, Int.sub_zero]
  rw [← hinstant]
  exact exists_load_recordedBuild version interpreter directory hwritable hgit htime.read
    htime.shown

/-! ### A build at noon -/

/-- Noon of the second of January 2020. -/
def noon : Moment := ⟨⟨⟨2020, 1, 2⟩, 12, 0, 0, 0⟩, some 0⟩

theorem recordable_noon : Recordable noon where
  utc := rfl
  valid := by decide
  year := by decide
  shown := ⟨"2020-01-02T13:00:00+01:00", by decide +kernel⟩

/-- The replies of a repository that prints a commit of New Year's Day. -/
def repliesOf (commit : String) : Replies :=
  [.ok ⟨0, ".git\n"⟩, .ok ⟨0, commit⟩, .ok ⟨0, "2020-01-01T00:00:00+0000\n"⟩]

theorem dependable_repliesOf {commit : String} (h : OnOneLine (Text.trim commit.toList)) :
    Dependable (repliesOf commit) where
  refused e he := by simp [repliesOf] at he
  commit output _ hprints := by
    obtain rfl : commit = output := congrArg Completed.output (Except.ok.inj hprints.1)
    exact h
  time output _ hprints := by
    obtain rfl : "2020-01-01T00:00:00+0000\n" = output :=
      congrArg Completed.output (Except.ok.inj hprints.1)
    exact ⟨⟨1577836800⟩, "2020-01-01T01:00:00+01:00", by decide +kernel, by decide +kernel⟩

/-- The replies of a repository with an ordinary commit. -/
def someReplies : Replies := repliesOf "4f6b2a9c0d1e\n"

theorem dependable_someReplies : Dependable someReplies := dependable_repliesOf (by decide +kernel)

/-- A build at noon is written and loaded. -/
theorem exists_load_noon :
    Writable bareHost (some "v.properties") ∧ Recordable noon ∧
      Dependable someReplies ∧
      ∃ bytes m,
        Writes (writeVersionFile bareHost (some "v.properties") ⟨some "1.0", none, (3, 11)⟩
          (.ok noon) (detect "/" someReplies)) bytes ∧
        (load (.holding bytes)).outcome = .ok m ∧ m.buildTime = ⟨1577966400⟩ ∧
        m.toolchainVersion = "3.11" ∧ m.commitId = "4f6b2a9c0d1e" ∧
        m.commitIdAbbrev = "4f6b2a9c" ∧ Reports someReplies m := by
  refine ⟨writable_bareHost, recordable_noon, dependable_someReplies, ?_⟩
  obtain ⟨bytes, m, hwrites, hload, hbuild, htoolchain, hreports⟩ :=
    exists_load_of_dependable writable_bareHost (some "1.0") (3, 11) recordable_noon "/"
      dependable_someReplies
  obtain ⟨hid, habbrev⟩ := hreports.commit "4f6b2a9c0d1e\n" ⟨".git\n", rfl, by decide⟩
    ⟨rfl, by decide⟩ (by decide)
  refine ⟨bytes, m, hwrites, hload, hbuild, htoolchain, hid.trans ?_, habbrev.trans ?_, hreports⟩
  · decide
  · decide

/-- It is the trimmed output that must not begin with the mark of a placeholder.  This
output does not begin with it, and still the default stands for the commit. -/
theorem commitId_ne_trimmed :
    Recordable noon ∧ Dependable (repliesOf " $abc\n") ∧ Available (repliesOf " $abc\n") ∧
      Prints (commitReply (repliesOf " $abc\n")) " $abc\n" ∧ " $abc\n".toList.head? ≠ some '$' ∧
      ∃ bytes m,
        Writes (writeVersionFile bareHost (some "v.properties") ⟨some "1.0", none, (3, 11)⟩
          (.ok noon) (detect "/" (repliesOf " $abc\n"))) bytes ∧
        (load (.holding bytes)).outcome = .ok m ∧ m.commitId ≠ trimmed " $abc\n" := by
  have hgit : Dependable (repliesOf " $abc\n") := dependable_repliesOf (by decide +kernel)
  obtain ⟨bytes, m, hwrites, hload, -, -, hreports⟩ :=
    exists_load_recordedBuild (some "1.0") (3, 11) "/" writable_bareHost hgit recordable_noon.read
      recordable_noon.shown
  refine ⟨recordable_noon, hgit, ⟨".git\n", rfl, by decide⟩, ⟨rfl, by decide⟩, by decide, bytes, m,
    hwrites, hload, ?_⟩
  have hnone : ∀ output, Available (repliesOf " $abc\n") →
      Prints (commitReply (repliesOf " $abc\n")) output →
      (Text.trim output.toList).head? = some '$' := by
    intro output _ hprints
    obtain rfl : " $abc\n" = output := congrArg Completed.output (Except.ok.inj hprints.1)
    decide
  rw [(hreports.noCommit hnone).1]
  decide

end StartupReport.CommandLine
