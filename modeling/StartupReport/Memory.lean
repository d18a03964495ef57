/-
StartupReport/Memory.lean

How much memory a process may use and how much of it is free.

The ceiling is the one that is configured or, without one, a quarter of the
physical memory.  The free memory is what the ceiling leaves over the memory
in use, kept between nothing and the ceiling.  The readings are taken in the
order in which they are needed, and the first that fails decides.
-/
import StartupReport.Probe.Limit

namespace StartupReport

/-- A source of readings, in bytes: the ceiling, null if there is none; the
memory in use; the part of it that is free; and the memory of the host, minus
one if it cannot be found out. -/
structure MemorySource where
  ceiling : Traced Value
  total : Traced Value
  free : Traced Value
  physical : Traced Value

namespace MemorySource

/-- The name under which the sizing of memory is logged. -/
def memoryLogger : String := "envinfo.runtime.memory"

/-- What is said when there is nothing to size the memory by. -/
def unsizedText : String := "Could not determine the amount of free memory."

/-- The readings of the running process, under a ceiling that may be given. -/
def ofProcess (h : Host) (given : Value) : MemorySource where
  ceiling :=
    match given with
    | .null => Probe.addressSpaceLimit h
    | v => pure v
  total := Traced.ask h.memory.resident
  free := pure (.int 0)
  physical := do
    match ← (Traced.ask h.memory.physical).attempt with
    | .ok v => return v
    | .error f =>
      if f.isOrdinary then
        Traced.log memoryLogger Log.Level.warning
          ("Cannot determine the size of the physical memory: " ++ f.message)
        return .int (-1)
      else Traced.fail f

/-- The memory that the process may use. -/
def maxMemory (m : MemorySource) : Traced Value := do
  match ← m.ceiling with
  | .null =>
    let physical ← m.physical
    if physical.equal (.int (-1)) then
      Traced.fail (.memorySizing unsizedText none)
    else Traced.use (physical.arithmetic "//" Int.fdiv (.int 4))
  | ceiling => return ceiling

/-- The number nearest to another one between zero and an upper bound, except
that the bound wins over zero. -/
def clamp (n : Int) (bound : Value) : Value :=
  let raised := if n < 0 then 0 else n
  match bound.number? with
  | some b => if b < raised then bound else .int raised
  | none => .int raised

/-- An estimate of the memory that the process can still use. -/
def freeMemory (m : MemorySource) : Traced Value := do
  let ceiling ← m.maxMemory
  let total ← m.total
  let unused ← Traced.use (ceiling.arithmetic "-" (· - ·) total)
  let free ← m.free
  let estimate ← Traced.use (unused.arithmetic "+" (· + ·) free)
  return clamp (estimate.number?.getD 0) ceiling

/-- The estimate after a garbage collection. -/
def freeMemoryAfterCollection (m : MemorySource) : Traced Value := do
  Traced.emit .collected
  m.freeMemory

/-- Whole mebibytes. -/
def mebibytes (v : Value) : Traced Value :=
  Traced.use (v.arithmetic ">>" (fun n k => Int.shiftRight n k.toNat) (.int 20))

end MemorySource

end StartupReport
