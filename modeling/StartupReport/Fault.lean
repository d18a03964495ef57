/-
StartupReport/Fault.lean

What can go wrong, by cause.

A `Fault` is either a failure reported from outside, which carries its own
name and text, or one that this library finds itself.  Handlers do not look at
the cause but at the `Family` of a fault: whether the operating system
refused, a module is missing, a value is malformed, and so on.  Interrupts and
requests to leave belong to families that no handler for ordinary failures
takes (`Fault.isOrdinary`).

Three causes are meant to stop a program at its start rather than to be
handled: a version file that is there but malformed, a memory budget that
cannot be sized, and the general case of both.  Their message names an action
and the failure behind them.
-/
import StartupReport.Calendar.Timestamp
import StartupReport.Text.Digit
import StartupReport.Value

namespace StartupReport

/-- The families of failures that handlers tell apart. -/
inductive Family
  /-- A value of the right shape that is not acceptable. -/
  | value
  /-- A value of the wrong shape. -/
  | shape
  /-- A member that is not there. -/
  | member
  /-- An entry that is not there. -/
  | key
  /-- A number or a date beyond its range. -/
  | range
  /-- A refusal of the operating system. -/
  | system
  /-- A command that ran out of time. -/
  | timeout
  /-- A module that cannot be found; the name is empty if it is not known. -/
  | moduleMissing (name : String)
  /-- A module that cannot be loaded for another reason. -/
  | moduleBroken
  /-- A refusal of the security service. -/
  | security
  /-- A failure that is meant to stop the program at its start. -/
  | startup
  /-- The end of the input. -/
  | endOfInput
  /-- Any other failure that a handler takes. -/
  | other
  /-- An interrupt by the user. -/
  | interrupt
  /-- A request to leave the program. -/
  | exit
  /-- Anything else that no handler takes. -/
  | fatal
deriving DecidableEq, Repr

/-- What handlers for any ordinary failure take. -/
def Family.isOrdinary : Family → Bool
  | .interrupt | .exit | .fatal => false
  | _ => true

/-- A refusal of a file operation. -/
inductive FileError
  | missing (path : String)
  | directory (path : String)
  | notDirectory (path : String)
  | exists (path : String)
deriving DecidableEq, Repr

/-- The text of a refusal, with its number. -/
def FileError.message : FileError → String
  | .missing path => s!"[Errno 2] No such file or directory: {Text.quoted path}"
  | .directory path => s!"[Errno 21] Is a directory: {Text.quoted path}"
  | .notDirectory path => s!"[Errno 20] Not a directory: {Text.quoted path}"
  | .exists path => s!"[Errno 17] File exists: {Text.quoted path}"

/-- The most characters of a quoted text that are shown where it is no number. -/
def shownNumeralLength : Nat := 200

/-- What is said about a text that is no whole number in a base. -/
def notANumberText (base : Nat) (text : String) : String :=
  if Text.isTooLong base text.toList then
    s!"Exceeds the limit ({Text.digitLimit} digits) for integer string conversion: value has " ++
      s!"{Text.leadingDigits text.toList} digits; use sys.set_int_max_str_digits() to increase " ++
      "the limit"
  else
    s!"invalid literal for int() with base {base}: " ++
      String.ofList ((Text.quoted text).toList.take shownNumeralLength)

/-- A failure, by its cause. -/
inductive Fault
  /-- A failure reported from outside, under a name and with a text of its own. -/
  | external (name : String) (family : Family) (text : String)
  /-- An operation on a value of the wrong shape. -/
  | misuse (cause : Misuse)
  /-- A text or a set of numbers that names no time. -/
  | time (cause : Calendar.Error)
  /-- A time zone that does not exist. -/
  | zone (name : String)
  /-- An entry that is not there. -/
  | missingKey (key : String)
  /-- A module without a member. -/
  | moduleMember (module member : String)
  /-- A module that is not installed. -/
  | noModule (name : String)
  /-- A distribution that is not installed. -/
  | noDistribution (name : String)
  /-- A text that is no whole number. -/
  | notANumber (text : String)
  /-- A pair was wanted and this many items were there, if fewer than two. -/
  | tooFewItems (count : Nat)
  /-- A pair was wanted and more than two items were there. -/
  | tooManyItems
  /-- A program that is not installed. -/
  | noProgram (name : String)
  /-- A file operation was refused. -/
  | file (cause : FileError)
  /-- A configuration file that was asked for does not exist. -/
  | noConfiguration (path : String) (source : Option String)
  /-- A pattern for log lines that names no field. -/
  | logFormat (pattern : String)
  /-- A name of a log level that stands for a text. -/
  | logLevelText (text : String)
  /-- A name of a log level that stands for something else. -/
  | logLevelShape (shown : String)
  /-- The version file is there but malformed. -/
  | resolution (text : String) (resource key : Option String) (cause : Option Fault)
  /-- The memory budget cannot be sized. -/
  | memorySizing (text : String) (cause : Option Fault)
  /-- Any other failure that is meant to stop the program at its start. -/
  | startup (text : String) (action : Option String) (cause : Option Fault)

namespace Fault

/-- What to do about a malformed version file. -/
def resolutionAction : String :=
  "Regenerate the version file with 'envinfo generate-version-file'"

/-- What to do if the memory budget cannot be sized. -/
def memoryAction : String :=
  "Set the maximum memory explicitly, e.g. 'memory.max_bytes: 536870912' " ++
    "in envinfo.config.yaml for 512 megabytes"

/-- The parts of a message: the text, the action if one is named, and the text
of the failure behind it. -/
def joined (text : String) (action cause : Option String) : String :=
  " | ".intercalate
    (text :: (match action with
      | some a => if a = "" then [] else ["Action: " ++ a]
      | none => []) ++
      (match cause with
      | some c => ["Original error: " ++ c]
      | none => []))

mutual

/-- The text of a failure. -/
def message : Fault → String
  | external _ _ text => text
  | misuse cause => cause.message
  | time cause => cause.message
  | zone name => Text.quoted ("No time zone found with key " ++ name)
  | missingKey key => Text.quoted key
  | moduleMember module member => s!"module '{module}' has no attribute '{member}'"
  | noModule name => s!"No module named '{name}'"
  | noDistribution name => s!"No package metadata was found for {name}"
  | notANumber text => notANumberText 10 text
  | tooFewItems count => s!"not enough values to unpack (expected 2, got {count})"
  | tooManyItems => "too many values to unpack (expected 2)"
  | noProgram name => name
  | file cause => cause.message
  | noConfiguration path none => s!"Config file not found: {path}"
  | noConfiguration path (some source) => s!"Config file not found: {path} (from {source})"
  | logFormat pattern => s!"Invalid format '{pattern}' for '%' style"
  | logLevelText text => s!"Unknown level: {Text.quoted text}"
  | logLevelShape shown => s!"Level not an integer or a valid string: {shown}"
  | resolution text _ _ cause => joined text (some resolutionAction) (causeMessage cause)
  | memorySizing text cause => joined text (some memoryAction) (causeMessage cause)
  | startup text action cause => joined text action (causeMessage cause)

/-- The text of the failure behind another. -/
def causeMessage : Option Fault → Option String
  | none => none
  | some f => some (message f)

end

/-- The family of a misuse: a missing member is one of its own. -/
def ofMisuse : Misuse → Family
  | .member _ _ => .member
  | _ => .shape

/-- The family of a failure. -/
def family : Fault → Family
  | external _ family _ => family
  | misuse cause => ofMisuse cause
  | time .outOfRange => .range
  | time _ => .value
  | zone _ | missingKey _ => .key
  | moduleMember _ _ => .member
  | noModule name | noDistribution name => .moduleMissing name
  | notANumber _ | tooFewItems _ | tooManyItems => .value
  | noProgram _ | file _ | noConfiguration _ _ => .system
  | logFormat _ | logLevelText _ => .value
  | logLevelShape _ => .shape
  | resolution .. | memorySizing .. | startup .. => .startup

/-- A failure that a handler for any ordinary failure takes. -/
def isOrdinary (f : Fault) : Bool := f.family.isOrdinary

end Fault

/-- The answer of something outside: a value, or a failure in its place. -/
abbrev Outcome (α : Type u) := Except Fault α

/-- The outcome of an operation on a value. -/
def Outcome.ofMisuse {α : Type u} (r : Except Misuse α) : Outcome α := r.mapError .misuse

/-- Steps have an answer if each of them has one. -/
theorem Outcome.toOption_bind {α β : Type} (o : Outcome α) (g : α → Outcome β) :
    (o >>= g).toOption = o.toOption >>= fun a => (g a).toOption := by
  rcases o with f | a
  · rfl
  · rfl

/-- The answer of steps is that of the last one, behind an answer of the others. -/
theorem Outcome.bind_eq_ok_iff {α β : Type} {o : Outcome α} {g : α → Outcome β} {b : β} :
    (o >>= g) = .ok b ↔ ∃ a, o = .ok a ∧ g a = .ok b := by
  rcases o with f | a
  · exact ⟨nofun, nofun⟩
  · constructor
    · intro h
      exact ⟨a, rfl, h⟩
    · rintro ⟨a', ha, h⟩
      cases ha
      exact h

/-- Another name for the failure makes no answer. -/
theorem mapError_eq_ok_iff {ε ε' : Type v} {α : Type u} {f : ε → ε'} {x : Except ε α} {a : α} :
    x.mapError f = .ok a ↔ x = .ok a := by
  cases x with
  | error e => exact ⟨nofun, nofun⟩
  | ok b =>
    constructor
    · intro h
      rw [Except.ok.inj h]
    · intro h
      rw [Except.ok.inj h]
      rfl

/-- Steps of which each one has an answer answer with the list of these. -/
theorem mapM_eq_pure {m : Type u → Type v} [Monad m] [LawfulMonad m] {α : Type w} {β : Type u}
    {f : α → m β} {g : α → β} {xs : List α} (h : ∀ x ∈ xs, f x = pure (g x)) :
    xs.mapM f = pure (xs.map g) := by
  induction xs with
  | nil => rfl
  | cons x xs ih =>
    rw [List.mapM_cons, h x List.mem_cons_self, ih fun y hy => h y (List.mem_cons_of_mem _ hy),
      pure_bind, pure_bind, List.map_cons]

end StartupReport
