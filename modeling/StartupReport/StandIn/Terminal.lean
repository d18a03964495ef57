/-
StartupReport/StandIn/Terminal.lean

A stand-in for the library that finds out what a console can show.

It goes by three variables of the environment.  Runs use it; nothing that is said of
the program depends on it.
-/
import StartupReport.Console

namespace StartupReport.Console

/-- The variable that turns colours off if it is not empty. -/
def noColorVariable : String := "NO_COLOR"

/-- The variable that forces colours on, or off if it is empty. -/
def forceColorVariable : String := "FORCE_COLOR"

/-- The variable that says outright whether the output is a terminal. -/
def terminalVariable : String := "TTY_COMPATIBLE"

/-- The output is a terminal unless a variable says otherwise. -/
def countsAsTerminal (environment : Entries String) : Bool :=
  let said := (Entries.get? environment terminalVariable).getD ""
  if said = "0" then false
  else if said = "1" then true
  else Entries.get? environment forceColorVariable != some ""

/-- The console that is found under some variables. -/
def detect (environment : Entries String) : Console :=
  ⟨(Entries.get? environment noColorVariable).getD "" != "", countsAsTerminal environment⟩

end StartupReport.Console
