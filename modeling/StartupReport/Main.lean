/-
StartupReport/Main.lean

The command line of the program.

What the program may ask of its host is looked up first and put into a `Host`.
The command itself then runs as a function of that, and what it leaves behind
is shown and written in the order in which it happened.  What cannot be looked
up is refused in the host, and the program goes on without it: it calls no
other program, so there is no `git`, and it runs in no interpreter.  For the
libraries that read documents and command lines there are stand-ins.
-/
import StartupReport.StandIn.CommandWords
import StartupReport.StandIn.Yaml.Document

namespace StartupReport.CommandLine

/-! ### Looking up -/

/-- The answer to a question that cannot be put to the host. -/
def unanswered {α : Type} : Outcome α := .error (.external "Unanswered" .other "not available")

/-- The environment variables that are looked at. -/
def variableNames : List String :=
  [Banner.homeVariable, Banner.inheritedVariable, Configuration.pathVariable,
   "LOGNAME", "USER", "LNAME", "USERNAME", "TMPDIR", "TEMP", "TMP", "PYTHONPATH"]

/-- The first of some variables that is set to more than nothing. -/
def firstSet (environment : Entries String) (names : List String) : Option String :=
  names.findSome? fun name => (Entries.get? environment name).filter (· ≠ "")

/-- The place that a name leads to if no part of it is a link. -/
def placeOf (working : Place) (path : String) : Place :=
  (PathName.ofString path).parts.foldl (fun p c => if c = ".." then p.dropLast else p ++ [c])
    (if Files.isAbsolute path then [] else working)

/-- The full name of a place. -/
def fullName (place : Place) : String := (PathName.mk true place).text

/-- The text of a file, empty if it cannot be read. -/
def textOf (path : String) : IO String := do
  try IO.FS.readFile path catch _ => return ""

/-- What is found under some names and on the way to them. -/
def lookAround (working : Place) (paths : List String) : IO Files := do
  let here ← IO.currentDir
  let places := (paths.map (placeOf working)).flatMap fun p =>
    (List.range (p.length + 1)).map p.take
  let mut found : Files := ⟨working, [], []⟩
  for place in places.eraseDups do
    let path := here / fullName place
    if ← path.isDir then
      found := { found with directories := place :: found.directories }
    else if ← path.pathExists then
      found := { found with texts := (place, ← textOf (fullName place)) :: found.texts }
  return found

/-- The word behind a label at the beginning of a line. -/
def wordBehind? (label text : String) : Option (List Char) :=
  ((Text.splitLines text.toList).find? fun line => label.toList.isPrefixOf line).map fun line =>
    (Text.trimStart (line.drop label.length)).takeWhile fun c => !Text.isBlank c

/-- The number behind a label, in bytes where the line has kibibytes. -/
def bytesBehind (label text : String) : Outcome Value :=
  match (wordBehind? label text).bind (Text.readInteger 10) with
  | some n => .ok (.int (n * 1024))
  | none => unanswered

/-- The limit behind a label; a word that is no number stands for no limit. -/
def limitBehind? (label text : String) : Option (Outcome Value) :=
  (wordBehind? label text).map fun word =>
    let soft := Value.int ((Text.readInteger 10 word).getD (-1))
    .ok (.list [soft, soft])

/-- The names of the files that a command reads or writes. -/
def Command.paths : Command → List String
  | .banner _ _ config | .runtime config => config.toList
  | .generate output _ _ => output.toList
  | .version | .help => []

/-- The version resource at a place: absent if there is no file. -/
def versionResource (path : String) : IO Build.Resource := do
  try
    return ⟨.ok (.bool true), .ok (), (← IO.FS.readBinFile path).toList⟩
  catch _ => return .absent

/-- The time of the clock, in UTC: the system dates its own files by it. -/
def presentTime? : IO (Except Calendar.Error Calendar.Moment) := do
  let here ← IO.currentDir
  let seconds := (← (here / "/proc/self/stat").metadata).modified.sec
  return match (Calendar.Instant.mk seconds).civilAt? 0 with
    | some c => .ok ⟨c, some 0⟩
    | none => .error .outOfRange

/-- The host as far as a command may ask for it. -/
def lookUp (command : Command) : IO Host := do
  let mut environment : Entries String := []
  for name in variableNames do
    if let some value ← IO.getEnv name then
      environment := environment ++ [(name, value)]
  let current := toString (← IO.currentDir)
  let package := toString ((← IO.appPath).parent.getD (← IO.currentDir))
  let named := (Entries.get? environment Configuration.pathVariable).toList
  let own := package ++ "/" ++ Build.versionFileName
  let paths := own :: Configuration.localFile :: named ++ command.paths
  let limits ← textOf "/proc/self/limits"
  return {
    environment
    files := ← lookAround (PathName.ofString current).parts paths
    readDocument := Yaml.reader
    interpreter :=
      { flags := [], warningOptions := .list [], extraOptions := none
        modulePath := .list
          (((Entries.get? environment "PYTHONPATH").map fun path =>
            (Text.pieces ':' path.toList).map fun cs => Value.str (String.ofList cs)).getD [])
        version := (3, 11)
        longestText := 0x10000000000 }
    platform :=
      { system := .ok (.str "Linux"), implementation := unanswered, compiler := unanswered
        version := unanswered }
    user := ((firstSet environment ["LOGNAME", "USER", "LNAME", "USERNAME"]).map fun user =>
      .ok (.str user)).getD unanswered
    temporaryDirectory := .ok (.str ((firstSet environment ["TMPDIR", "TEMP", "TMP"]).getD "/tmp"))
    memory :=
      { resident := bytesBehind "VmRSS:" (← textOf "/proc/self/status")
        physical := bytesBehind "MemTotal:" (← textOf "/proc/meminfo") }
    limits := .ok
      { name := Probe.limitModuleName, canAsk := true
        addressSpace := limitBehind? "Max address space" limits
        openFiles := limitBehind? "Max open files" limits
        infinity := some (.int (-1)) }
    security := .error (.noModule Probe.securityModuleName)
    securityErrors := fun name => .error (.noModule name)
    distribution := fun name => .error (.noDistribution name)
    versionResource := ← versionResource own
    packageDirectory := package
    currentDirectory := current
    git := []
    now := ← presentTime?
    terminal := ← (← IO.getStdout).isTty }

/-! ### Showing -/

/-- The lines of a table. -/
def tableLines (t : Table) : List String :=
  let width := t.rows.foldl (fun n row => max n row.1.length) 0
  t.title :: t.rows.map fun row =>
    "  " ++ row.1 ++ "".pushn ' ' (width - row.1.length) ++ "  " ++ row.2

/-- A time as log lines have it. -/
def stamp (m : Calendar.Moment) : String :=
  String.ofList (m.civil.date.iso ++ ' ' :: m.civil.clockText ++ ',' ::
    Text.padded 3 (m.civil.microsecond / 1000))

/-- Shows or writes what happened, in order.  A log record has the pattern that
is set when it comes; before one is set, only warnings are shown. -/
def showEvents (time : Option String) (pattern : Option String) : List Event → IO Unit
  | [] => return
  | e :: es => do
    match e, pattern with
    | .logged r, some p => IO.eprint (Log.line p time r.logger r.level r.message)
    | .logged r, none => if Log.Level.warning ≤ r.level then IO.eprintln r.message
    | .shown (.line text _), _ => IO.println text
    | .shown (.table t), _ => (tableLines t).forM fun line => IO.println line
    | .wrote w, _ =>
      IO.FS.createDirAll (fullName w.place.dropLast)
      IO.FS.writeBinFile (fullName w.place)
        (ByteArray.mk ((Text.Latin1.encode? w.text).getD []).toArray)
    | _, _ => pure ()
    match e with
    | .patterned p => showEvents time (some p) es
    | _ => showEvents time pattern es

/-- How the program is used. -/
def usage : List String :=
  ["Usage: envinfo [banner|version|runtime|generate-version-file] [OPTIONS] [ARGS]",
   "  banner [-n|--component NAME] [-c|--config FILE] [ARGS]",
   "  version",
   "  runtime [-c|--config FILE]",
   "  generate-version-file [-o|--output FILE] [--project-version TEXT] [--repository TEXT]"]

/-- Runs a command and answers with the exit code. -/
def runOn (h : Host) (command : Command) : IO UInt32 := do
  let (exit, events) := run h (some command)
  showEvents ((h.now.toOption).map stamp) none events
  match exit with
  | .code n => return UInt32.ofNat n
  | .text message => IO.eprintln message
  | .failed f => IO.eprintln f.message
  return 1

end StartupReport.CommandLine

open StartupReport.CommandLine

def main (words : List String) : IO UInt32 := do
  match Command.read words with
  | .error _ =>
    usage.forM fun line => IO.eprintln line
    return UInt32.ofNat refusalCode
  | .ok .help =>
    usage.forM fun line => IO.println line
    return 0
  | .ok command => runOn (← lookUp command) command
