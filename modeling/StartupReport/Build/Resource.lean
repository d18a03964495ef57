/-
StartupReport/Build/Resource.lean

The version resource and the metadata it resolves to.

A resource that is absent, or that the operating system refuses to open, gives
the default metadata and one log record that says so.  A resource that is read
is resolved, and what goes wrong then is not hidden.
-/
import StartupReport.Build.Metadata

namespace StartupReport.Build

/-- A version resource: whether it says it is a file, what comes of opening it,
and its bytes. -/
structure Resource where
  isFile : Outcome Value
  opening : Outcome Unit
  bytes : List UInt8

/-- The resource of a build that has none. -/
def Resource.absent : Resource := ⟨.ok (.bool false), .ok (), []⟩

/-- The properties of a resource, if it is there. -/
def Resource.read (r : Resource) : Traced (Option Properties) := do
  let isFile ← Traced.ask r.isFile
  if isFile.isPresent then
    Traced.emit .opened
    Traced.ask r.opening
    return some (Properties.parseBytes r.bytes)
  else return none

/-- The metadata of a resource, with times shown in the zone of a name. -/
def load (r : Resource) (zoneName : String := displayZone)
    (zones : Calendar.Zones := Calendar.Zone.named?) : Traced Metadata := do
  match ← r.read.attempt with
  | .ok (some ps) => Metadata.ofProperties ps zoneName zones
  | .ok none =>
    Traced.log resolutionLogger Log.Level.debug
      s!"Version property file {versionFileName} not found, using defaults"
    return Metadata.default
  | .error e =>
    if e.family = .system then
      Traced.log resolutionLogger Log.Level.info <|
        "Cannot determine code revision: Unable to read version property file.: " ++ e.message
      return Metadata.default
    else Traced.fail e

end StartupReport.Build
