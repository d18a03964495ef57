/-
StartupReport/Probe/Limit.lean

The limits of a process: its address space and its open files.

A limit is a pair of numbers of which the first is in force; the mark of
infinity stands for no limit.  Where the limits cannot be asked for, the
address space counts as unlimited and the number of open files as unknown.
-/
import StartupReport.Probe.Interpreter

namespace StartupReport.Probe

/-- The name under which the runtime probes write to the log. -/
def probeLogger : String := "envinfo.runtime.probe"

/-- The first item of a pair. -/
def firstOfPair (v : Value) : Outcome Value := do
  match ← Outcome.ofMisuse (v.items.mapError fun _ => .pair v.shape) with
  | [first, _] => return first
  | [] => throw (.tooFewItems 0)
  | [_] => throw (.tooFewItems 1)
  | _ => throw .tooManyItems

/-- A member of the module of limits, or the fault that it lacks. -/
def LimitModule.member {α : Type} (m : LimitModule) (name : String) (member : Option α) :
    Outcome α :=
  match member with
  | some a => .ok a
  | none => .error (.moduleMember m.name name)

/-- The limit in force, if there is one. -/
def LimitModule.inForce (m : LimitModule) (name : String) (limit : Option (Outcome Value)) :
    Outcome (Option Int) := do
  if ¬ m.canAsk then throw (.moduleMember m.name "getrlimit")
  let answer ← LimitModule.member m name limit
  let pair ← answer
  let soft ← firstOfPair pair
  let infinity ← LimitModule.member m "RLIM_INFINITY" m.infinity
  if soft.equal infinity then return none
  return some (← wholeNumber soft)

/-- The name of the module of limits. -/
def limitModuleName : String := "resource"

/-- The limit of the address space, null if there is none or it cannot be found
out. -/
def addressSpaceLimit (h : Host) : Traced Value := do
  let probed ← probe limitModuleName h.limits fun m =>
    Traced.ask (LimitModule.inForce m "RLIMIT_AS" m.addressSpace)
  return match probed.valueOr none with
    | some n => .int n
    | none => .null

/-- The host runs Windows. -/
def isWindows (h : Host) : Outcome Bool := do
  return (← h.platform.system).equal (.str "Windows")

/-- The limit of open files, or minus one: on Windows and where the module is
missing without a word, otherwise with a warning. -/
def openFileLimit (h : Host) : Traced Int := do
  if ← Traced.ask (isWindows h) then return -1
  let probed ← probe limitModuleName h.limits fun m =>
    Traced.ask (LimitModule.inForce m "RLIMIT_NOFILE" m.openFiles)
  match probed with
  | .available limit => return limit.getD (-1)
  | .missing _ => return -1
  | .incompatible f | .failed f =>
    Traced.log probeLogger Log.Level.warning
      "Unexpected error when accessing file handle limit" (some f)
    return -1

end StartupReport.Probe
