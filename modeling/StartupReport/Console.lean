/-
StartupReport/Console.lean

The console of a program: whether it is a terminal, and the tables of facts
that it shows.

A run counts as automated if a variable of an automation service is set, to
whatever value, or if the output is no terminal.  An automated run has neither
colours nor a terminal.
-/
import StartupReport.Host

namespace StartupReport

/-- How a console may show things. -/
structure Console where
  noColor : Bool
  isTerminal : Bool
deriving DecidableEq, Repr

namespace Console

/-- The variables of automation services. -/
def automationVariables : List String := ["CI", "GITHUB_ACTIONS"]

/-- The run is automated. -/
def isAutomated (environment : Entries String) (terminal : Bool) : Bool :=
  automationVariables.any (fun name => (Entries.get? environment name).isSome) || !terminal

/-- The console of a run; `detected` is the one that is found if nothing is asked for. -/
def of (environment : Entries String) (terminal : Bool) (detected : Console) : Console :=
  if isAutomated environment terminal then ⟨true, false⟩ else detected

end Console

/-! ### Tables of facts -/

/-- A table of facts, each with its label. -/
def factsTable (title : String) (facts : Entries Value) : Table where
  title := title
  showHeader := true
  headerStyle := "bold cyan"
  columns := [⟨"Property", true, "white"⟩, ⟨"Value", false, "white"⟩]
  rows := facts.map fun f => (f.1, f.2.text)

end StartupReport
