/-
StartupReport/Build/Metadata.lean

Build metadata: what the version file says about a build.

A value that is missing, empty or still a placeholder gives way to a default.
The two timestamps are read strictly: a text that is there and is no timestamp
stops the resolution with a log record and a fault that names the key.  Their
display strings are the same instants on the clocks of a time zone.
-/
import StartupReport.Calendar.Zone
import StartupReport.Properties.Reader
import StartupReport.Traced

namespace StartupReport.Build

open Calendar (Instant Zone Zones readTimestamp)

/-! ### Names and defaults -/

/-- What stands for a value that could not be determined. -/
def unknown : String := "<unknown>"

def unknownCommitId : String := "DecafC0ffeeD0d0F00d"

def unknownCommitIdAbbrev : String := "DeadD0d0"

/-- The name of the version file. -/
def versionFileName : String := ".envinfo.version.properties"

/-- The first character of a placeholder that nothing was put in for. -/
def placeholderMarker : Char := '$'

/-- The text of the epoch, as a default for timestamps. -/
def epochText : String := "1970-01-01T00:00:00+0000"

/-- The zone in which times are shown unless another one is asked for. -/
def displayZone : String := "Europe/Berlin"

theorem named?_displayZone : Zone.named? displayZone = some .berlin := rfl

def projectVersionKey : String := "project.version"
def toolchainVersionKey : String := "toolchain.version"
def commitIdKey : String := "git.commit.id"
def commitIdAbbrevKey : String := "git.commit.id.abbrev"
def commitTimeKey : String := "git.commit.time"
def buildTimeKey : String := "git.build.time"

/-- What is said about a version file with a malformed timestamp. -/
def malformedText : String :=
  s!"The file {versionFileName} has not been generated correctly. " ++
    "You MUST run 'envinfo generate-version-file' before packaging envinfo."

/-- The name under which the resolution of build metadata writes to the log. -/
def resolutionLogger : String := "envinfo.build.versions"

/-! ### The metadata -/

/-- A build: its version, the toolchain it was made for, when it was made, and
the commit it was made from. -/
structure Metadata where
  projectVersion : String
  toolchainVersion : String
  buildTime : Instant
  buildTimeDisplay : String
  commitId : String
  commitIdAbbrev : String
  commitTime : Instant
  commitTimeDisplay : String
deriving DecidableEq, Repr

/-- The commit of a build, in short. -/
structure Revision where
  commitId : String
  commitDate : String
deriving DecidableEq, Repr

/-- The commit of a build: its abbreviated identifier and the day it shows. -/
def Metadata.revision (m : Metadata) : Revision := ⟨m.commitIdAbbrev, m.commitTimeDisplay⟩

/-- The metadata of a build without a version file. -/
def Metadata.default : Metadata where
  projectVersion := unknown
  toolchainVersion := unknown
  buildTime := Instant.epoch
  buildTimeDisplay := epochText
  commitId := unknownCommitId
  commitIdAbbrev := unknownCommitIdAbbrev
  commitTime := Instant.epoch
  commitTimeDisplay := epochText

/-! ### Resolution -/

/-- A value that stands for nothing: empty, or still a placeholder. -/
def isUnset (value : String) : Bool :=
  match value.toList with
  | [] => true
  | c :: _ => c == placeholderMarker

/-- The value of a key, or a default if the key is missing or unset. -/
def property (ps : Properties) (key fallback : String) : String :=
  match Entries.get? ps key with
  | some value => if isUnset value then fallback else value
  | none => fallback

/-- The instant that the value of a key names.  A malformed one is logged and
reported with its key; an instant outside the calendar is reported as it is. -/
def timeOf (ps : Properties) (key : String) : Traced Instant :=
  match readTimestamp (property ps key epochText) with
  | .ok t => pure t
  | .error .outOfRange => Traced.fail (.time .outOfRange)
  | .error e => do
    Traced.log resolutionLogger Log.Level.error s!"{malformedText} : {e.message}"
    Traced.fail (.resolution malformedText (some versionFileName) (some key) (some (.time e)))

/-- An instant on the clocks of a zone. -/
def displayIn (zone : Zone) (t : Instant) : Traced String :=
  Traced.ask ((zone.display t).mapError .time)

/-- The metadata that properties describe, with times shown in the zone of a name,
one of the zones that there are. -/
def Metadata.ofProperties (ps : Properties) (zoneName : String := displayZone)
    (zones : Zones := Zone.named?) : Traced Metadata := do
  match zones zoneName with
  | none => Traced.fail (.zone zoneName)
  | some zone =>
    let commitTime ← timeOf ps commitTimeKey
    let buildTime ← timeOf ps buildTimeKey
    let buildTimeDisplay ← displayIn zone buildTime
    let commitTimeDisplay ← displayIn zone commitTime
    return {
      projectVersion := property ps projectVersionKey unknown
      toolchainVersion := property ps toolchainVersionKey unknown
      buildTime, buildTimeDisplay
      commitId := property ps commitIdKey unknownCommitId
      commitIdAbbrev := property ps commitIdAbbrevKey unknownCommitIdAbbrev
      commitTime, commitTimeDisplay }

end StartupReport.Build
