/-
StartupReport/Build/Holder.lean

A value that is loaded once.

The first reading calls the loader and keeps what it gives: a value for ever,
an ordinary failure for ever, nothing at all after anything else, so that the
next reading tries again.  The holder counts the calls of the loader, and its
outcomes may differ from call to call.
-/
import StartupReport.Build.Metadata

namespace StartupReport.Build

/-- What is kept of the calls of a loader so far. -/
structure Holder (α : Type) where
  value : Option α := none
  error : Option Fault := none
  loads : Nat := 0

/-- What a loader gives on each of its calls, counted from zero: a value,
nothing, or a failure. -/
abbrev Loader (α : Type) := Nat → Traced (Option α)

/-- A computation that reads a holder and leaves it in another state. -/
def Reading (α β : Type) := Holder α → Traced β × Holder α

namespace Reading

variable {α β γ : Type}

/-- Goes on with an answer, in the state that was reached; a failure ends the
computation and keeps the state. -/
protected def bind (x : Reading α β) (f : β → Reading α γ) : Reading α γ := fun h =>
  let (r, h') := x h
  match r.outcome with
  | .ok b =>
    let (s, h'') := f b h'
    (⟨s.outcome, r.events ++ s.events⟩, h'')
  | .error e => (⟨.error e, r.events⟩, h')

instance : Monad (Reading α) where
  pure b := fun h => (pure b, h)
  bind := Reading.bind

/-- A computation that does not look at the holder. -/
def lift (t : Traced β) : Reading α β := fun h => (t, h)

end Reading

namespace Holder

variable {α β : Type}

/-- The holder after a loader has given something: a value or an ordinary failure
is kept, anything else leaves it as it is. -/
def keep (h : Holder α) (given : Outcome (Option α)) : Holder α :=
  match given with
  | .ok (some v) => { h with value := some v }
  | .ok none => h
  | .error e => if e.isOrdinary then { h with error := some e } else h

/-- The value that is kept, loaded if nothing is kept yet. -/
def get (loader : Loader α) : Reading α (Option α) := fun h =>
  match h.value, h.error with
  | some v, _ => (pure (some v), h)
  | none, some e => (Traced.fail e, h)
  | none, none =>
    let r := loader h.loads
    (r, { h.keep r.outcome with loads := h.loads + 1 })

/-- A value is kept. -/
def isResolved (h : Holder α) : Bool := h.value.isSome

/-- A member of the value, by its name and the function that reads it. -/
def member (loader : Loader α) (name : String) (read : α → β) : Reading α β := do
  match ← get loader with
  | some v => return read v
  | none => Reading.lift (Traced.fail (.misuse (.member .null name)))

end Holder

/-! ### The members of the metadata -/

section

variable (loader : Loader Metadata)

/-- The metadata as a whole. -/
def metadata : Reading Metadata (Option Metadata) := Holder.get loader

def version : Reading Metadata String :=
  Holder.member loader "project_version" (·.projectVersion)

def toolchainVersion : Reading Metadata String :=
  Holder.member loader "toolchain_version" (·.toolchainVersion)

def buildTime : Reading Metadata Calendar.Instant :=
  Holder.member loader "build_time" (·.buildTime)

def buildTimeDisplay : Reading Metadata String :=
  Holder.member loader "build_time_display" (·.buildTimeDisplay)

def commitId : Reading Metadata String :=
  Holder.member loader "commit_id" (·.commitId)

def commitIdAbbrev : Reading Metadata String :=
  Holder.member loader "commit_id_abbrev" (·.commitIdAbbrev)

def commitTime : Reading Metadata Calendar.Instant :=
  Holder.member loader "commit_time" (·.commitTime)

def commitTimeDisplay : Reading Metadata String :=
  Holder.member loader "commit_time_display" (·.commitTimeDisplay)

/-- The commit in short: the abbreviated identifier is read first. -/
def revision : Reading Metadata Revision := do
  let id ← commitIdAbbrev loader
  let date ← commitTimeDisplay loader
  return ⟨id, date⟩

end

end StartupReport.Build
