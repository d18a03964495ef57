/-
StartupReport/Host.lean

What the host of a program can be asked, and what it answers.

Every answer is an outcome: the host may refuse any of them.  Nothing here
changes while a report is made, except that `git` gives its replies one after
another.
-/
import StartupReport.Build.Git
import StartupReport.Build.Resource
import StartupReport.Files

namespace StartupReport

/-- The interpreter of a program: the flags it was started with, its warning
options and its options for the implementation, the places where it looks for
modules, its version, and the length of the longest text that it can put together
of its options. -/
structure Interpreter where
  flags : Entries Value
  warningOptions : Value
  extraOptions : Option Value
  modulePath : Value
  version : Int × Int
  longestText : Nat

/-- The platform of a program: its operating system, and the name, compiler and
full version of the implementation of its interpreter. -/
structure Platform where
  system : Outcome Value
  implementation : Outcome Value
  compiler : Outcome Value
  version : Outcome Value

/-- The memory of a process and of its host, in bytes. -/
structure Memory where
  resident : Outcome Value
  physical : Outcome Value

/-- The module that knows the limits of a process.  A limit is a pair of which
the first counts; a limit or the mark of infinity may be absent. -/
structure LimitModule where
  name : String
  canAsk : Bool
  addressSpace : Option (Outcome Value)
  openFiles : Option (Outcome Value)
  infinity : Option Value

/-- The credentials of a user: what comes of asking for the principal in them. -/
structure Credentials where
  name : Outcome Value

/-- The module of the security service: its name, and what comes of asking for
the credentials of the current user, if it can be asked. -/
structure SecurityModule where
  name : String
  credentials : Option (Outcome Credentials)

/-- The module of the failures of the security service: its name, and whether
it has the failure of the service itself. -/
structure SecurityErrors where
  name : String
  hasServiceError : Bool

/-- A host. -/
structure Host where
  environment : Entries String
  files : Files
  /-- The settings that a text spells out. -/
  readDocument : String → Outcome Value
  interpreter : Interpreter
  platform : Platform
  user : Outcome Value
  temporaryDirectory : Outcome Value
  memory : Memory
  limits : Outcome LimitModule
  security : Outcome SecurityModule
  /-- The module of failures, by the name under which it is loaded. -/
  securityErrors : String → Outcome SecurityErrors
  /-- The version of an installed distribution, by its name. -/
  distribution : String → Outcome Value
  versionResource : Build.Resource
  /-- The directory of the package itself. -/
  packageDirectory : String
  /-- The current directory, as it is shown. -/
  currentDirectory : String
  git : Build.Replies
  now : Except Calendar.Error Calendar.Moment
  /-- The output goes to a terminal. -/
  terminal : Bool

/-- The value of an environment variable. -/
def Host.valueOf? (h : Host) (name : String) : Option String := Entries.get? h.environment name

end StartupReport
