/-
StartupReport/Log/Setup.lean

The setup of the root logger.

The level comes from a name in any letter case, a name that is unknown stands
for INFO, and two names stand for something that is no level at all.  The
pattern of the lines is looked at before the level is set, so of two faults
the one in the pattern is reported.
-/
import StartupReport.Configuration.Defaults
import StartupReport.Fault
import StartupReport.Log.Level
import StartupReport.Log.Pattern

namespace StartupReport.Log

/-- What the root logger is set to: the level from which records pass, and the
pattern of their lines. -/
structure Setup where
  level : Level
  pattern : String
deriving DecidableEq, Repr

/-- The names of levels. -/
def levelNames : List (String × Level) :=
  [("CRITICAL", .critical), ("FATAL", .critical), ("ERROR", .error), ("WARNING", .warning),
   ("WARN", .warning), ("INFO", .info), ("DEBUG", .debug), ("NOTSET", .notset)]

/-- The pattern that stands under the name of a level. -/
def basicPattern : String := "%(levelname)s:%(name)s:%(message)s"

/-- The styles that stand under the name of a level, as they are shown. -/
def stylesText : String :=
  "\x7b'%': (<class 'logging.PercentStyle'>, '%(levelname)s:%(name)s:%(message)s'), " ++
  "'\x7b': (<class 'logging.StrFormatStyle'>, '\x7blevelname\x7d:\x7bname\x7d:\x7bmessage\x7d'), " ++
  "'$': (<class 'logging.StringTemplateStyle'>, " ++
  "'$\x7blevelname\x7d:$\x7bname\x7d:$\x7bmessage\x7d')\x7d"

/-- The level of a name in upper case. -/
def levelOfName (name : String) : Outcome Level :=
  match levelNames.lookup name with
  | some level => .ok level
  | none =>
    if name = "BASIC_FORMAT" then .error (.logLevelText basicPattern)
    else if name = "_STYLES" then .error (.logLevelShape stylesText)
    else .ok .info

/-- The level that a setting names. -/
def levelOf (setting : Value) : Outcome Level :=
  levelOfName (String.ofList (Text.upperIntoAscii setting.text.toList))

/-- A pattern in which there is a field. -/
def patternOf (setting : Value) : Outcome String :=
  match setting with
  | .str pattern => if hasField pattern.toList then .ok pattern else .error (.logFormat pattern)
  | v => .error (.misuse (.pattern v.shape))

/-- The setting of a level, which is INFO only if there is none at all. -/
def levelSetting (logging : Value) : Except Misuse Value := do
  return (Value.lookup? (← logging.entriesFor "get") (.str "level")).getD (.str "INFO")

/-- The setup that a configuration asks for. -/
def Setup.of (config : Value) : Outcome Setup := do
  let logging ← Outcome.ofMisuse (config.group "logging")
  let level ← Outcome.ofMisuse (levelSetting logging)
  let format ← Outcome.ofMisuse (logging.entry "format")
  let pattern ← patternOf (format.orElse (.str Configuration.defaultPattern))
  return ⟨← levelOf level, pattern⟩

/-! ### Records -/

/-- A record of a level passes a threshold; a level of zero never does. -/
def passes (threshold level : Level) : Bool := 0 < level && threshold ≤ level

/-- The name of the root logger. -/
def rootName : String := "root"

/-- The logger of a name; the empty name is that of the root logger. -/
def loggerName (name : String) : String := if name = "" then rootName else name

/-- The fields of a record without a failure attached to it; the time is one of
them if it is known. -/
def fieldsOf (time : Option String) (logger : String) (level : Level) (message : String) :
    List (String × Value) :=
  (time.toList.map fun t => ("asctime", .str t)) ++
  [("name", .str logger), ("msg", .str message), ("levelname", .str level.name),
   ("levelno", .int level), ("message", .str message), ("threadName", .str "MainThread"),
   ("processName", .str "MainProcess"), ("exc_info", .null), ("exc_text", .null),
   ("stack_info", .null)]

/-- The line of a record in a pattern, empty if the pattern cannot be filled in. -/
def line (pattern : String) (time : Option String) (logger : String) (level : Level)
    (message : String) : String :=
  match fill (fun name => (fieldsOf time logger level message).lookup name) pattern.toList with
  | some cs => String.ofList (cs ++ ['\n'])
  | none => ""

end StartupReport.Log
