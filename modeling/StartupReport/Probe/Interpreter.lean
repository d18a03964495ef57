/-
StartupReport/Probe/Interpreter.lean

The interpreter of a program: its version, the options it was started with and
the places where it looks for modules.

The options are put together again from the flags, a letter for each level,
from the warning options and from the options for the implementation.  Flags
that come with isolation are left out when the interpreter is isolated.
-/
import StartupReport.Host
import StartupReport.Probe.Capability

namespace StartupReport.Probe

open Build (unknown)

/-! ### Numbers -/

/-- The whole number that a value denotes: a number, a truth value, or a text
that is a decimal numeral. -/
def wholeNumber (v : Value) : Outcome Int :=
  match v.number?, v with
  | some n, _ => .ok n
  | none, .str s =>
    match Text.readInteger 10 s.toList with
    | some n => .ok n
    | none => .error (.notANumber s)
  | none, v => .error (.misuse (.number v.shape))

/-! ### Startup options -/

/-- The flags that are reported, each with its letter, in the order of the
report. -/
def reportedFlags : List (String × Char) :=
  [("debug", 'd'), ("inspect", 'i'), ("isolated", 'I'), ("ignore_environment", 'E'),
   ("no_user_site", 's'), ("safe_path", 'P'), ("no_site", 'S'), ("dont_write_bytecode", 'B'),
   ("bytes_warning", 'b'), ("quiet", 'q'), ("verbose", 'v'), ("optimize", 'O')]

/-- The flags that come with isolation. -/
def impliedByIsolation : List String := ["ignore_environment", "no_user_site", "safe_path"]

/-- The value of a flag, zero if there is none. -/
def flag (i : Interpreter) (name : String) : Value := (Entries.get? i.flags name).getD (.int 0)

/-- The interpreter is isolated. -/
def isIsolated (i : Interpreter) : Bool := (flag i "isolated").isPresent

/-- A text that is put together of options, unless it is too long. -/
def built? (i : Interpreter) (text : String) : Option String :=
  if text.length ≤ i.longestText then some text else none

/-- The option of a flag, in a list that is empty if the flag is not set or left
out; nothing if the level of the flag is no number or higher than a text is long. -/
def flagOption (i : Interpreter) (entry : String × Char) : Option (List String) :=
  if isIsolated i && impliedByIsolation.contains entry.1 then some []
  else
    match wholeNumber (flag i entry.1) with
    | .ok level =>
      if level ≤ 0 then some []
      -- the dash counts too
      else if i.longestText ≤ level then none
      else some [String.ofList ('-' :: List.replicate level.toNat entry.2)]
    | .error _ => none

/-- An option for the implementation: a key, with its value unless that is
plainly true. -/
def extraOption (entry : Value × Value) : String :=
  match entry.2 with
  | .bool true => "-X" ++ entry.1.text
  | v => "-X" ++ entry.1.text ++ "=" ++ v.text

/-- The options that an interpreter was started with, nothing if one of them
cannot be found out. -/
def startupOptions? (i : Interpreter) : Option (List String) := do
  let flags ← reportedFlags.mapM (flagOption i)
  let warnings ← i.warningOptions.items.toOption
  let extras ← match i.extraOptions with
    | some v => (v.entriesFor "items").toOption
    | none => pure []
  let others ← (warnings.map (fun w => "-W" ++ w.text) ++ extras.map extraOption).mapM (built? i)
  return flags.flatten ++ others

/-- The startup options in a list, empty if they cannot be found out. -/
def startupOptionList (i : Interpreter) : List String := (startupOptions? i).getD []

/-- The startup options in a line, empty if they cannot be found out or if the line
is too long. -/
def startupOptionLine (i : Interpreter) : String :=
  (do built? i (" ".intercalate (← startupOptions? i))).getD ""

/-! ### Version and module path -/

/-- The version of the language of an interpreter. -/
def languageVersion (i : Interpreter) : String := s!"{i.version.1}.{i.version.2}"

/-- The implementation, its compiler, and the versions of the language and of
the implementation, or the word for what is not known. -/
def runtimeVersion (h : Host) : Traced String :=
  absorb
    (do
      let implementation ← Traced.ask h.platform.implementation
      let compiler ← Traced.ask h.platform.compiler
      let version ← Traced.ask h.platform.version
      return implementation.text ++ " - " ++ compiler.text ++ " - " ++
        languageVersion h.interpreter ++ "/" ++ version.text)
    pure (fun _ => unknown)

/-- The texts of items, if all of them are texts; `place` is that of the first. -/
def itemTexts (place : Nat) : List Value → Except Misuse (List String)
  | [] => .ok []
  | .str s :: vs => (itemTexts (place + 1) vs).map (s :: ·)
  | v :: _ => .error (.element place v.shape)

/-- The places where an interpreter looks for modules, with colons between
them. -/
def modulePath (i : Interpreter) : Outcome String :=
  Outcome.ofMisuse <| do
    let items ← i.modulePath.items.mapError fun _ => .join i.modulePath.shape
    let texts ← itemTexts 0 items
    return ":".intercalate texts

end StartupReport.Probe
