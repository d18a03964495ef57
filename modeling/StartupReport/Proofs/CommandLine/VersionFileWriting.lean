/-
StartupReport/Proofs/CommandLine/VersionFileWriting.lean

What the writing of a version file writes.

`Writes` says that a run succeeds and what the bytes of the file are that it
writes last.  For the run that writes a version file this is known exactly
(`writes_writeVersionFile_iff`): the file system has to let the file be
written, the time has to be told and the properties have to be collected and
rendered, and then the bytes are those of the rendered text.  With a commit a
file is written (`exists_writes`), and what is read from it is held by its lines
(`exists_held_of_writes`).
-/
import StartupReport.CommandLine.Run
import StartupReport.Proofs.BareHost
import StartupReport.Proofs.Build.Collection

namespace StartupReport.CommandLine

open Build (Complete Description HoldsCommit collect collected held keyOrder render)
open Calendar (Moment)

/-! ### Files that a run writes -/

/-- The files that events write, in order. -/
def filesWritten (events : List Event) : List Written := events.filterMap Event.written?

/-- A run succeeds, and the file that it writes last has these bytes. -/
def Writes {α : Type} (x : Traced α) (bytes : List UInt8) : Prop :=
  (∃ a, x.outcome = .ok a) ∧
    ∃ file, (filesWritten x.events).getLast? = some file ∧
      Text.Latin1.encode? file.text = some bytes

/-- The name of the version file to write. -/
def targetName (h : Host) (output : Option String) : PathName :=
  (output.map PathName.ofString).getD (ownVersionFile h)

/-- The file system lets a version file be written: the directories above it can
be made, and then it has a place. -/
def Writable (h : Host) (output : Option String) : Prop :=
  ∃ files place, h.files.prepare (targetName h output) = .ok files ∧
    files.placeToWrite (targetName h output).text = .ok place

/-- In its working directory even a host with nothing on it lets a file be written. -/
theorem writable_bareHost : Writable bareHost (some "v.properties") :=
  ⟨bareHost.files, ["v.properties"], rfl, rfl⟩

/-! ### The run that writes a version file -/

section
variable {h : Host} {output : Option String} {d : Description} {time : Outcome Moment}
  {detection : Traced Properties}

/-- The run succeeds iff all its steps do. -/
theorem outcome_writeVersionFile_eq_ok_iff {path : PathName} :
    (writeVersionFile h output d time detection).outcome = .ok path ↔
      ∃ files, h.files.prepare (targetName h output) = .ok files ∧
      ∃ t, time = .ok t ∧
      ∃ ps, (collect d t detection).outcome = .ok ps ∧
      ∃ text, render ps = .ok text ∧
      ∃ place, files.placeToWrite (targetName h output).text = .ok place ∧
        targetName h output = path := by
  have hname : (output.map PathName.ofString).getD (ownVersionFile h) = targetName h output := rfl
  unfold writeVersionFile
  simp only [hname, Traced.outcome_bind_eq_ok_iff, Traced.outcome_ask, mapError_eq_ok_iff,
    Traced.log, Traced.outcome_emit, Traced.outcome_pure, Except.ok.injEq, exists_const,
    true_and]

/-- A run whose steps succeed writes the rendered text, and nothing after it. -/
theorem getLast?_filesWritten {files : Files} {t : Moment} {ps : Properties} {text : List Char}
    {place : Place} (hfiles : h.files.prepare (targetName h output) = .ok files)
    (htime : time = .ok t) (hcollect : (collect d t detection).outcome = .ok ps)
    (hrender : render ps = .ok text)
    (hplace : files.placeToWrite (targetName h output).text = .ok place) :
    (filesWritten (writeVersionFile h output d time detection).events).getLast?
      = some ⟨place, text⟩ := by
  have hfiles' : (Traced.ask ((h.files.prepare (targetName h output)).mapError Fault.file)).outcome
      = .ok files := mapError_eq_ok_iff.2 hfiles
  have hplace' : (Traced.ask ((files.placeToWrite (targetName h output).text).mapError
      Fault.file)).outcome = .ok place := mapError_eq_ok_iff.2 hplace
  have hevents : (writeVersionFile h output d time detection).events
      = (collect d t detection).events ++ [.wrote ⟨place, text⟩,
          .logged ⟨Build.gitLogger, .info, "Wrote version file " ++ (targetName h output).text,
            none⟩] := by
    unfold writeVersionFile
    rw [← targetName, Traced.events_bind_ok hfiles', Traced.events_bind_ok htime,
      Traced.events_bind_ok hcollect, Traced.events_bind_ok hrender, Traced.events_bind_ok hplace']
    rfl
  rw [hevents, filesWritten, List.filterMap_append]
  exact List.getLast?_concat

/-- **What is written.**  A run that writes a version file writes the bytes of the
rendered properties, and it succeeds whenever the file can be written, the time
is told and the properties are collected and rendered. -/
theorem writes_writeVersionFile_iff {bytes : List UInt8} :
    Writes (writeVersionFile h output d time detection) bytes ↔
      Writable h output ∧ ∃ t ps text, time = .ok t ∧ (collect d t detection).outcome = .ok ps ∧
        render ps = .ok text ∧ Text.Latin1.encode? text = some bytes := by
  constructor
  · rintro ⟨⟨path, hpath⟩, file, hlast, hbytes⟩
    obtain ⟨files, hfiles, t, htime, ps, hcollect, text, hrender, place, hplace, -⟩ :=
      outcome_writeVersionFile_eq_ok_iff.1 hpath
    rw [getLast?_filesWritten hfiles htime hcollect hrender hplace] at hlast
    obtain rfl := Option.some.inj hlast
    exact ⟨⟨files, place, hfiles, hplace⟩, t, ps, text, htime, hcollect, hrender, hbytes⟩
  · rintro ⟨⟨files, place, hfiles, hplace⟩, t, ps, text, htime, hcollect, hrender, hbytes⟩
    have hpath := outcome_writeVersionFile_eq_ok_iff.2
      ⟨files, hfiles, t, htime, ps, hcollect, text, hrender, place, hplace, rfl⟩
    exact ⟨⟨_, hpath⟩, ⟨place, text⟩, getLast?_filesWritten hfiles htime hcollect hrender hplace,
      hbytes⟩

/-- With a commit a version file is written wherever one can be. -/
theorem exists_writes (hwritable : Writable h output) (t : Moment) {detected : Properties}
    (hdetection : detection.outcome = .ok detected) (hcommit : HoldsCommit detected) :
    ∃ bytes, Writes (writeVersionFile h output d (.ok t) detection) bytes := by
  have hrender := Build.render_eq (Build.complete_collected d t hcommit)
  obtain ⟨bytes, hbytes⟩ := Build.exists_encode?_of_render hrender
  exact ⟨bytes, writes_writeVersionFile_iff.2 ⟨hwritable, t, _, _, rfl,
    Build.outcome_collect_eq_ok_iff.2 ⟨detected, hdetection, rfl⟩, hrender, hbytes⟩⟩

/-- A version file that is written holds what was collected. -/
theorem exists_held_of_writes {detected : Properties}
    (hdetection : detection.outcome = .ok detected) {bytes : List UInt8}
    (hwrites : Writes (writeVersionFile h output d time detection) bytes) :
    ∃ t ps, time = .ok t ∧ ps = collected d t detected ∧ Complete ps ∧
      Properties.parseBytes bytes = Entries.ofPairs (held ps keyOrder) := by
  obtain ⟨-, t, ps, text, htime, hcollect, hrender, hbytes⟩ :=
    writes_writeVersionFile_iff.1 hwrites
  obtain ⟨detected', hdetection', hps⟩ := Build.outcome_collect_eq_ok_iff.1 hcollect
  obtain rfl : detected = detected' := Except.ok.inj (hdetection.symm.trans hdetection')
  have hcomplete := (Build.render_eq_ok_iff.1 hrender).1
  exact ⟨t, ps, htime, hps, hcomplete, Build.parseBytes_eq_ofPairs_held hcomplete hrender hbytes⟩

end

end StartupReport.CommandLine
