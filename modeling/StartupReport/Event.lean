/-
StartupReport/Event.lean

What a computation leaves behind besides its answer.

An event is a log record, a pattern for the log records from there on, an
opening of the version resource, a call of `git`, a garbage collection,
something shown on the console or a file written.  The order of the events is
the order in which they happened.
-/
import StartupReport.Fault
import StartupReport.Log.Level

namespace StartupReport

/-- A log record: who says it, how weighty it is, what it says, and the failure
it is about if one is attached. -/
structure Record where
  logger : String
  level : Log.Level
  message : String
  cause : Option Fault := none

/-- A call of `git`: its arguments, the time it is given in seconds, and the
directory it runs in. -/
structure Invocation where
  args : List String
  timeout : Nat
  directory : String
deriving DecidableEq, Repr

/-- A column of a table. -/
structure Column where
  header : String
  noWrap : Bool
  style : String
deriving DecidableEq, Repr

/-- A table of labelled facts. -/
structure Table where
  title : String
  showHeader : Bool
  headerStyle : String
  columns : List Column
  rows : List (String × String)
deriving DecidableEq, Repr

/-- Something shown on the console. -/
inductive Shown
  | line (text style : String)
  | table (table : Table)
deriving DecidableEq, Repr

/-- A file that was written: its place, by its components from the root, and its
text. -/
structure Written where
  place : List String
  text : List Char
deriving DecidableEq, Repr

/-- Something that happened on the way to an answer. -/
inductive Event
  | logged (record : Record)
  | patterned (pattern : String)
  | opened
  | ran (call : Invocation)
  | collected
  | shown (what : Shown)
  | wrote (file : Written)

namespace Event

/-- The log record of an event. -/
def record? : Event → Option Record
  | logged r => some r
  | _ => none

/-- The call of `git` of an event. -/
def invocation? : Event → Option Invocation
  | ran i => some i
  | _ => none

/-- What an event shows on the console. -/
def shown? : Event → Option Shown
  | shown s => some s
  | _ => none

/-- The file that an event writes. -/
def written? : Event → Option Written
  | wrote w => some w
  | _ => none

/-- The event is an opening of the version resource. -/
def isOpening : Event → Bool
  | opened => true
  | _ => false

/-- The event is a garbage collection. -/
def isCollection : Event → Bool
  | collected => true
  | _ => false

end Event

/-- The log records among events. -/
def records (events : List Event) : List Record := events.filterMap Event.record?

/-- The calls of `git` among events. -/
def invocations (events : List Event) : List Invocation := events.filterMap Event.invocation?

end StartupReport
