/-
StartupReport/Log/Level.lean

Log levels: numbers, of which six have names.
-/

namespace StartupReport.Log

/-- The weight of a log record; a logger lets a record through if its own level
is not higher. -/
abbrev Level := Int

namespace Level

def notset : Level := 0
def debug : Level := 10
def info : Level := 20
def warning : Level := 30
def error : Level := 40
def critical : Level := 50

/-- The name of a level; a number without a name of its own is shown as such. -/
def name (level : Level) : String :=
  if level = notset then "NOTSET"
  else if level = debug then "DEBUG"
  else if level = info then "INFO"
  else if level = warning then "WARNING"
  else if level = error then "ERROR"
  else if level = critical then "CRITICAL"
  else s!"Level {level}"

end Level

end StartupReport.Log
