/-
StartupReport/Configuration/Discover.lean

Finding the settings of a run.

At most one file of settings is read: the one that is asked for, else the one
that the environment names, else the one in the working directory.  The first
two must exist; without any of the three the settings that come with the package
hold as they are.  How a text spells out settings is the business of a reader of
documents, which is a parameter throughout.
-/
import StartupReport.Configuration.Defaults
import StartupReport.Configuration.Merge
import StartupReport.Files
import StartupReport.Text.Line

namespace StartupReport.Configuration

/-- The environment variable that names a file of settings. -/
def pathVariable : String := "ENVINFO_CONFIG"

/-- The file of settings in the working directory. -/
def localFile : String := "envinfo.config.yaml"

section
variable (read : String → Outcome Value) (fs : Files)

/-- The document in a text whose line breaks, of whatever kind, count as line feeds. -/
def document (text : String) : Outcome Value :=
  read (String.ofList (Text.normalizeNewlines text.toList))

/-- The settings in a file; a document that is null, zero or empty counts as an
empty mapping. -/
def load (path : String) : Outcome Value := do
  let text ← (fs.read path).mapError .file
  return (← document read text).orElse (.map [])

/-- The settings that come with the package. -/
def loadPackaged : Outcome Value := read packagedText

/-- The settings in a file on top of those that come with the package. -/
def loadOver (path : String) : Outcome Value := do
  let packaged ← loadPackaged read
  let settings ← load read fs path
  Outcome.ofMisuse (mergeValues packaged settings)

/-- The settings in a file that must exist; `source` is what named it, if that
was not the user. -/
def loadNamed (path : String) (source : Option String) : Outcome Value :=
  if fs.existsAt path then loadOver read fs path else .error (.noConfiguration path source)

end

/-- A name that was given and is not empty. -/
def given? (name : Option String) : Option String := name.filter (· ≠ "")

/-- The settings of a run: `asked` is the file that the user asks for and `named`
the one that the environment names. -/
def discover (read : String → Outcome Value) (fs : Files) (asked named : Option String) :
    Outcome Value :=
  match given? asked, given? named with
  | some path, _ => loadNamed read fs path none
  | none, some path => loadNamed read fs path (some pathVariable)
  | none, none =>
    if fs.existsAt localFile then loadOver read fs localFile else loadPackaged read

end StartupReport.Configuration
