/-
StartupReport/Banner/Report.lean

Gathering the facts of a banner and writing it to a log.

The settings come first, then the build, then what can be asked of the host.
Arguments that hold a sensitive key are covered before anything else is done
with them.  A logger that would drop the lines costs nothing: the facts are
not even gathered.
-/
import StartupReport.Banner.Facts
import StartupReport.Banner.Sensitive
import StartupReport.Build.Holder
import StartupReport.Memory
import StartupReport.Probe.Identity

namespace StartupReport.Banner

/-- The settings of a banner: the keys that make an argument sensitive, what is
shown in place of such an argument, and the part that sizes the memory. -/
structure Settings where
  keys : Value
  cover : Value

/-- The settings in a configuration; what is absent, null or empty has a
default. -/
def Settings.of (config : Value) : Except Misuse Settings := do
  let banner ← config.group "banner"
  let keys ← banner.entry "sensitive_keys"
  let cover ← banner.entry "hidden_content"
  return ⟨keys.orElse defaultKeysValue, cover.orElse (.str defaultCover)⟩

/-- The memory ceiling in a configuration, null if there is none. -/
def configuredCeiling (config : Value) : Except Misuse Value := do
  (← config.group "memory").entry "max_bytes"

/-- An argument as a banner shows it. -/
def shownArgument (settings : Settings) (argument : Value) : Except Misuse String := do
  if ← isSensitive argument settings.keys then
    return settings.cover.text ++ " (sensitive information)"
  else return argument.text

/-- The arguments as a banner shows them. -/
def shownArguments (settings : Settings) (arguments : Value) : Except Misuse (List String) := do
  if arguments.isPresent then (← arguments.items).mapM (shownArgument settings) else return []

/-- The loader of the metadata of a host's own build. -/
def ownBuild (h : Host) : Build.Loader Build.Metadata := fun _ =>
  some <$> Build.load h.versionResource

/-- The revision, the version and the toolchain of a build. -/
def provenance (loader : Build.Loader Build.Metadata) :
    Build.Reading Build.Metadata (Build.Revision × String × String) := do
  let revision ← Build.revision loader
  let version ← Build.version loader
  let toolchain ← Build.toolchainVersion loader
  return (revision, version, toolchain)

/-- The facts of a banner.  The memory is that of the running process unless
another source of readings is given. -/
def gather (h : Host) (component arguments config : Value) (source : Option MemorySource) :
    Traced Facts := do
  let config := config.orElse (.map [])
  let settings ← Traced.use (Settings.of config)
  let source ← match source with
    | some source => pure source
    | none => MemorySource.ofProcess h <$> Traced.use (configuredCeiling config)
  let (revision, version, toolchain) ← (provenance (ownBuild h) {}).1
  let runtime ← Probe.runtimeVersion h
  let memory ← MemorySource.mebibytes (← source.maxMemory)
  let user ← Probe.osUser h
  let principal ← Probe.securityUser h
  let security ← Probe.securityVersion h
  let arguments ← Traced.use (shownArguments settings arguments)
  let modulePath ← Traced.ask (Probe.modulePath h.interpreter)
  return {
    component, version, toolchain, revision, user, principal, runtime, memory, security, arguments,
    modulePath
    inherited := h.valueOf? inheritedVariable
    home := h.valueOf? homeVariable
    options := Probe.startupOptionList h.interpreter }

/-- The lines of a banner. -/
def lines (h : Host) (component arguments config : Value) (source : Option MemorySource) :
    Traced (List String) :=
  Facts.lines <$> gather h component arguments config source

/-- Writes a banner to a logger that lets records from a threshold on through. -/
def write (h : Host) (logger : String) (threshold : Log.Level) (component arguments config : Value)
    (source : Option MemorySource) : Traced Unit := do
  if threshold ≤ Log.Level.info then
    (← lines h component arguments config source).forM
      fun line => Traced.log logger Log.Level.info line

end StartupReport.Banner
