/-
StartupReport/CommandLine/Run.lean

Running a command.

A failure that is meant to stop the program is shown on the console with exit
code 2, like a malformed command line; an interrupt and the end of the input
have exit codes of their own, and a request to leave brings its own.  Every
other failure leaves the program as it is.
-/
import StartupReport.Banner.Report
import StartupReport.Build.VersionFile
import StartupReport.Configuration.Discover
import StartupReport.Console
import StartupReport.Log.Setup

namespace StartupReport.CommandLine

/-- What the program is asked to do. -/
inductive Command
  /-- Write the banner of a component. -/
  | banner (arguments : List String) (component config : Option String)
  /-- Show the metadata of the build. -/
  | version
  /-- Show what the probes of the process find. -/
  | runtime (config : Option String)
  /-- Write a version file. -/
  | generate (output version repository : Option String)
  /-- Show how the program is used. -/
  | help
deriving DecidableEq, Repr

/-- How a run ends. -/
inductive Exit
  | code (n : Nat)
  | text (message : String)
  | failed (fault : Fault)

/-- The exit code of a malformed command line and of a failure that is meant to
stop the program. -/
def refusalCode : Nat := 2

def interruptCode : Nat := 130
def endOfInputCode : Nat := 1

/-! ### Steps of the commands -/

/-- Shows something on the console. -/
def present (what : Shown) : Traced Unit := Traced.emit (.shown what)

/-- Shows a failure that is meant to stop the program, and stops. -/
def presentFault (f : Fault) : Traced Nat := do
  present (.line ("❌ " ++ f.message) "bold red")
  return refusalCode

/-- Does something and goes on with its result, except after a failure that is
meant to stop the program. -/
def guarded {α : Type} (x : Traced α) (next : α → Traced Unit) : Traced Nat := do
  match ← x.attempt with
  | .ok a => do
    next a
    return 0
  | .error f => if f.family = .startup then presentFault f else Traced.fail f

/-- The settings of a run. -/
def settings (h : Host) (asked : Option String) : Traced Value :=
  Traced.ask <|
    Configuration.discover h.readDocument h.files asked (h.valueOf? Configuration.pathVariable)

/-! ### The banner -/

/-- The entry of a value under a name, which must be there. -/
def required (v : Value) (name : String) : Outcome Value :=
  match v with
  | .map es =>
    match Value.lookup? es (.str name) with
    | some w => .ok w
    | none => .error (.missingKey name)
  | .str _ => .error (.misuse (.index .str))
  | .list _ => .error (.misuse (.index .list))
  | v => .error (.misuse (.lookup v.shape))

/-- The logger of a component: the root logger for one that is null or empty. -/
def componentLogger (component : Value) : Outcome String :=
  if component.isPresent then
    match component with
    | .str name => .ok (Log.loggerName name)
    | _ => .error (.misuse .loggerName)
  else .ok Log.rootName

/-- Only those events that are no log record below a threshold. -/
def passing (threshold : Log.Level) (e : Event) : Bool :=
  match e.record? with
  | some r => Log.passes threshold r.level
  | none => true

/-- A computation whose log records below a threshold are dropped. -/
def above {α : Type} (threshold : Log.Level) (x : Traced α) : Traced α :=
  ⟨x.outcome, x.events.filter (passing threshold)⟩

def runBanner (h : Host) (arguments : List String) (component config : Option String) :
    Traced Nat := do
  let config ← settings h config
  let config ← Traced.use (Configuration.withComponent config
    (match component with
    | some name => .str name
    | none => .null))
  let setup ← Traced.ask (Log.Setup.of config)
  Traced.emit (.patterned setup.pattern)
  let component ← Traced.ask (do required (← required config "banner") "component_name")
  above setup.level <| guarded
    (do
      let logger ← Traced.ask (componentLogger component)
      Banner.write h logger setup.level component (.list (arguments.map .str)) config none)
    fun _ => pure ()

/-! ### Reports -/

/-- The table of a build. -/
def buildTable (m : Build.Metadata) : Table :=
  factsTable "Build"
    [("Version", .str m.projectVersion), ("Python toolchain", .str m.toolchainVersion),
     ("Commit", .str m.commitId), ("Commit (abbrev)", .str m.commitIdAbbrev),
     ("Commit time", .str m.commitTimeDisplay), ("Build time", .str m.buildTimeDisplay)]

def runVersion (h : Host) : Traced Nat :=
  guarded (Build.load h.versionResource) fun m => present (.table (buildTable m))

/-- The table of the probes of a process whose memory is known. -/
def runtimeTable (h : Host) (ceiling free : Value) : Traced Table := do
  let user ← Probe.osUser h
  let principal ← Probe.securityUser h
  let security ← Probe.securityVersion h
  let runtime ← Probe.runtimeVersion h
  let options := Probe.startupOptionLine h.interpreter
  let ceiling ← MemorySource.mebibytes ceiling
  let free ← MemorySource.mebibytes free
  let handles ← Probe.openFileLimit h
  let directory ← Traced.ask h.temporaryDirectory
  return factsTable "Runtime"
    [("OS user", user), ("Kerberos user", .str principal),
     ("Kerberos (gssapi) version", security.orElse (.str "(not available)")),
     ("Python runtime", .str runtime),
     ("Interpreter options", (Value.str options).orElse (.str "(none)")),
     ("Maximum memory (MiB)", ceiling), ("Free memory estimate (MiB)", free),
     ("Open file handles limit", .int handles), ("Temporary directory", directory)]

def runRuntime (h : Host) (config : Option String) : Traced Nat := do
  let config ← settings h config
  let source := MemorySource.ofProcess h (← Traced.use (Banner.configuredCeiling config))
  guarded
    (do
      let ceiling ← source.maxMemory
      let free ← source.freeMemory
      return (ceiling, free))
    fun (ceiling, free) => do present (.table (← runtimeTable h ceiling free))

/-! ### Version files -/

/-- The version file of the package itself. -/
def ownVersionFile (h : Host) : PathName :=
  .ofString (h.packageDirectory ++ "/" ++ Build.versionFileName)

/-- Writes the version file of a build made at a time, whose commit is detected
by `detection`, and answers with its name. -/
def writeVersionFile (h : Host) (output : Option String) (d : Build.Description)
    (time : Outcome Calendar.Moment) (detection : Traced Properties) : Traced PathName := do
  let path := (output.map PathName.ofString).getD (ownVersionFile h)
  let files ← Traced.ask ((h.files.prepare path).mapError .file)
  let time ← Traced.ask time
  let properties ← Build.collect d time detection
  let text ← Traced.ask (Build.render properties)
  let place ← Traced.ask ((files.placeToWrite path.text).mapError .file)
  Traced.emit (.wrote ⟨place, text⟩)
  Traced.log Build.gitLogger Log.Level.info ("Wrote version file " ++ path.text)
  return path

/-- The present time in UTC. -/
def presentTime (h : Host) : Outcome Calendar.Moment :=
  (do (← h.now).toUtc?).mapError .time

def runGenerate (h : Host) (output version repository : Option String) : Traced Nat := do
  let directory := Build.workingDirectory repository h.currentDirectory
  let path ← writeVersionFile h output ⟨version, none, h.interpreter.version⟩ (presentTime h)
    (Build.detect directory h.git)
  present (.line ("✅ Version file written to " ++ path.text) "green")
  return 0

/-! ### Running -/

/-- Runs a command and answers with the exit code. -/
def Command.run (h : Host) : Command → Traced Nat
  | .banner arguments component config => runBanner h arguments component config
  | .version => runVersion h
  | .runtime config => runRuntime h config
  | .generate output recorded repository => runGenerate h output recorded repository
  | .help => pure 0

/-- How a run ends that comes to an outcome. -/
def Exit.of : Outcome Nat → Exit
  | .ok n => .code n
  | .error f =>
    match f.family with
    | .interrupt => .code interruptCode
    | .endOfInput => .code endOfInputCode
    | .exit => .text f.message
    | _ => .failed f

/-- Runs the program with the command that the words of its command line ask for, if
they ask for one. -/
def run (h : Host) (asked : Option Command) : Exit × List Event :=
  match asked with
  | none => (.code refusalCode, [])
  | some command =>
    let r := command.run h
    (Exit.of r.outcome, r.events)

end StartupReport.CommandLine
