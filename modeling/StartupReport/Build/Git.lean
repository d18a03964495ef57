/-
StartupReport/Build/Git.lean

The commit of a working tree, as `git` reports it.

Three questions are put to `git`: whether there is a repository, what the
commit is and when it was made.  A call that cannot be made, that fails or that
prints nothing but blanks leaves a question open, and a placeholder stands for
its answer.  The replies of `git` come from a queue, one for each call.
-/
import StartupReport.Build.Metadata
import StartupReport.Text.Blank

namespace StartupReport.Build

/-- A finished call of `git`: its exit code and what it printed. -/
structure Completed where
  exitCode : Int
  output : String
deriving DecidableEq, Repr

/-- The replies of `git`, in the order of the calls. -/
abbrev Replies := List (Outcome Completed)

/-- The reply to the next call; when no reply is left there is no `git`. -/
def Replies.next : Replies → Outcome Completed
  | reply :: _ => reply
  | [] => .error (.noProgram "git")

/-- The placeholder of a key. -/
def placeholder (key : String) : String := "$\x7b" ++ key ++ "\x7d"

/-- The length of an abbreviated commit identifier. -/
def abbrevLength : Nat := 8

/-- The name under which calls of `git` and written files are logged. -/
def gitLogger : String := "envinfo.build.git"

/-- The directory for calls of `git`: the one asked for, else the current one. -/
def workingDirectory (asked : Option String) (current : String) : String :=
  match asked with
  | some directory => if directory = "" then current else directory
  | none => current

/-- What a finished call answers: its output without the blanks around it, if
it succeeded and printed more than blanks. -/
def Completed.answer? (c : Completed) : Option String :=
  if c.exitCode = 0 then
    match Text.trim c.output.toList with
    | [] => none
    | cs => some (String.ofList cs)
  else none

/-- Failures that leave a question open: a call that ran out of time or that the
operating system refused. -/
def leavesOpen (f : Fault) : Bool := f.family == .timeout || f.family == .system

/-- One call of `git` and the answer to it. -/
def run (directory : String) (args : List String) (timeout : Nat) (reply : Outcome Completed) :
    Traced (Option String) := do
  Traced.emit (.ran ⟨"git" :: args, timeout, directory⟩)
  match reply with
  | .ok completed => return completed.answer?
  | .error e =>
    if leavesOpen e then
      Traced.log gitLogger Log.Level.debug
        ("git " ++ " ".intercalate args ++ " failed: " ++ e.message)
      return none
    else Traced.fail e

/-- The arguments that ask for the repository. -/
def repositoryArgs : List String := ["rev-parse", "--git-dir"]

/-- The arguments that ask for the commit. -/
def commitArgs : List String := ["rev-parse", "HEAD"]

/-- The arguments that ask for the time of the commit. -/
def commitTimeArgs : List String :=
  ["log", "-1", "--format=%cd", "--date=format:%Y-%m-%dT%H:%M:%S%z"]

/-- There is a repository. -/
def askAvailable (directory : String) (git : Replies) : Traced Bool := do
  return (← run directory repositoryArgs 10 git.next).isSome

/-- The commit of the working tree. -/
def askCommitId (directory : String) (git : Replies) : Traced (Option String) :=
  run directory commitArgs 5 git.next

/-- The time of the commit. -/
def askCommitTime (directory : String) (git : Replies) : Traced (Option String) :=
  run directory commitTimeArgs 5 git.next

/-- The properties of a working tree of which nothing is known. -/
def unknownCommit : Properties :=
  [(commitIdKey, placeholder commitIdKey), (commitIdAbbrevKey, placeholder commitIdAbbrevKey),
   (commitTimeKey, placeholder commitTimeKey)]

/-- The first characters of a commit identifier. -/
def abbreviate (id : String) : String := String.ofList (id.toList.take abbrevLength)

/-- The properties of the commit of a working tree. -/
def detect (directory : String) (git : Replies) : Traced Properties := do
  if ← askAvailable directory git then
    let id ← askCommitId directory git.tail
    let time ← askCommitTime directory git.tail.tail
    let known := match id with
      | some id =>
        Entries.set (Entries.set unknownCommit commitIdKey id) commitIdAbbrevKey (abbreviate id)
      | none => unknownCommit
    return match time with
      | some time => Entries.set known commitTimeKey time
      | none => known
  else
    Traced.log gitLogger Log.Level.warning
      "Git not available or not in a Git repository, writing placeholders"
    return unknownCommit

end StartupReport.Build
