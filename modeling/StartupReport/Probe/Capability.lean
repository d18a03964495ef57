/-
StartupReport/Probe/Capability.lean

Capabilities that an optional module may or may not provide.

A probe loads the module and applies an accessor to it.  What comes of it is
one of four: a value, or a failure that says that the module is missing, that
it is there but does not fit, or that something else went wrong.  The module
is missing only if the name that cannot be found is its own or that of a
package it lies in (`isSelfOrPackage`); a module that in turn lacks another one
does not fit.
-/
import StartupReport.Traced

namespace StartupReport.Probe

/-- What came of probing a capability. -/
inductive Probed (α : Type)
  | available (value : α)
  | missing (fault : Fault)
  | incompatible (fault : Fault)
  | failed (fault : Fault)

namespace Probed

variable {α : Type}

/-- The word for what came of a probe. -/
def status : Probed α → String
  | available _ => "available"
  | missing _ => "missing"
  | incompatible _ => "incompatible"
  | failed _ => "failed"

/-- The value of a capability that is available. -/
def value? : Probed α → Option α
  | available value => some value
  | _ => none

/-- The failure of a capability that is not available. -/
def fault? : Probed α → Option Fault
  | available _ => none
  | missing f | incompatible f | failed f => some f

/-- The value of a capability, or another one in its place. -/
def valueOr (p : Probed α) (other : α) : α := p.value?.getD other

end Probed

/-- A name is that of a module itself or of a package that it lies in. -/
def isSelfOrPackage (name module : List Char) : Bool :=
  name == module || (name ++ ['.']).isPrefixOf module

/-- What a failure to load a module says about it. -/
def ofLoadFailure {α : Type} (module : String) (f : Fault) : Probed α :=
  match f.family with
  | .moduleMissing name =>
    if isSelfOrPackage name.toList module.toList then .missing f else .incompatible f
  | .moduleBroken => .incompatible f
  | _ => .failed f

/-- What a failure of an accessor says about a module. -/
def ofAccessFailure {α : Type} (f : Fault) : Probed α :=
  match f.family with
  | .member => .incompatible f
  | _ => .failed f

/-- Turns an ordinary failure into a result; any other passes. -/
def absorb {α β : Type} (x : Traced α) (good : α → Traced β) (bad : Fault → β) : Traced β := do
  match ← x.attempt with
  | .ok a => good a
  | .error f => if f.isOrdinary then return bad f else Traced.fail f

/-- Probes a capability: `loading` is what comes of loading the module, and the
accessor is applied only to a module that was loaded. -/
def probe {μ α : Type} (module : String) (loading : Outcome μ) (accessor : μ → Traced α) :
    Traced (Probed α) :=
  absorb (Traced.ask loading)
    (fun m => absorb (accessor m) (fun a => return .available a) ofAccessFailure)
    (ofLoadFailure module)

end StartupReport.Probe
