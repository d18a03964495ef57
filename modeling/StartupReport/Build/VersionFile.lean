/-
StartupReport/Build/VersionFile.lean

The version file of a build: what goes into it and how it is written.

Six keys are written in a fixed order, one to a line, with their values
escaped.  `collect` gathers the values; what is detected about the commit comes
last and so may replace any other value.
-/
import StartupReport.Build.Git
import StartupReport.Properties.Escape

namespace StartupReport.Build

open Calendar (Moment writeTimestamp)

/-- The keys of a version file in the order in which they are written. -/
def keyOrder : List String :=
  [projectVersionKey, toolchainVersionKey, commitIdKey, commitIdAbbrevKey, commitTimeKey,
   buildTimeKey]

/-- What is told about a build: its version, the toolchain it is made for, and
the version of the interpreter that stands in for an untold toolchain. -/
structure Description where
  projectVersion : Option String
  toolchainVersion : Option String
  interpreter : Int × Int

/-- A text that was told, if it is there and not empty. -/
def told? (text : Option String) : Option String := text.filter (· ≠ "")

/-- The version to record. -/
def Description.recordedVersion (d : Description) : String :=
  (told? d.projectVersion).getD (placeholder projectVersionKey)

/-- The toolchain to record. -/
def Description.recordedToolchain (d : Description) : String :=
  (told? d.toolchainVersion).getD s!"{d.interpreter.1}.{d.interpreter.2}"

/-- The properties of a build made at a time, with what is detected about its
commit. -/
def collect (d : Description) (time : Moment) (detection : Traced Properties) :
    Traced Properties := do
  let detected ← detection
  return Entries.update
    [(projectVersionKey, d.recordedVersion), (toolchainVersionKey, d.recordedToolchain),
     (buildTimeKey, writeTimestamp time)] detected

/-- The line of a key. -/
def renderEntry (ps : Properties) (key : String) : Outcome (List Char) :=
  match Entries.get? ps key with
  | some value => .ok (key.toList ++ '=' :: Properties.escape value.toList)
  | none => .error (.missingKey key)

/-- The comment at the head of a version file. -/
def headline : List Char := "# Generated by envinfo generate-version-file".toList

/-- The text of a version file, every line ended by a line feed. -/
def render (ps : Properties) : Outcome (List Char) := do
  let lines ← keyOrder.mapM (renderEntry ps)
  return (headline :: lines).flatMap (· ++ ['\n'])

/-- The properties of a version file that nothing has been filled in to. -/
def unfilled : Properties := keyOrder.map fun key => (key, placeholder key)

end StartupReport.Build
