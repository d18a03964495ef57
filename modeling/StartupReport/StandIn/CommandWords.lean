/-
StartupReport/StandIn/CommandWords.lean

A stand-in for the library that makes commands of the words of a command line.

An option has a long name and perhaps a letter, and takes a value: behind an
equals sign, behind its letter, or in the next word, whatever that word is.
Two dashes end the options; a lone dash and an empty word are arguments.  The
long name is tried first, so that a cluster of letters is only what no long
name fits.

The first word that is no option names the command, and what follows belongs
to it.  Without a command the banner is written.  A question for help is
answered before superfluous arguments are complained of, but after malformed
options.  Runs use this; nothing that is said of the program depends on it.
-/
import StartupReport.CommandLine.Run

namespace StartupReport.CommandLine

/-! ### Options and arguments -/

/-- An option that takes a value, by its name and its letter. -/
structure OptionName where
  long : String
  letter : Option Char
deriving DecidableEq, Repr

/-- What is wrong with a command line. -/
inductive UsageError
  | unknownOption (word : String)
  | missingValue (option : String)
  | unwantedValue (option : String)
  | unknownCommand (word : String)
  | extraArguments
deriving DecidableEq, Repr

/-- The words of a command line, sorted. -/
structure Sorted where
  /-- The value of each option that was given, the last one if there were several. -/
  given : Entries String := []
  arguments : List String := []
  /-- Help was asked for. -/
  help : Bool := false
deriving Repr

/-- The option that asks for help and takes no value. -/
def helpOption : String := "--help"

/-- A word that is an option by its form. -/
def isOptionWord (word : String) : Bool :=
  match word.toList with
  | '-' :: _ :: _ => true
  | _ => false

/-- A word up to its first equals sign, and what stands behind it. -/
def splitValue (word : String) : String × Option String :=
  let before := word.toList.takeWhile (· ≠ '=')
  match word.toList.drop before.length with
  | [] => (word, none)
  | _ :: value => (String.ofList before, some (String.ofList value))

/-- What an option word says by itself. -/
inductive WordMeaning
  | help
  /-- An option with its value. -/
  | complete (option value : String)
  /-- An option whose value is the next word. -/
  | awaiting (option : String)
deriving DecidableEq, Repr

/-- The option of a letter at the beginning of a cluster, with the rest of the
cluster as its value. -/
def letterMeaning (options : List OptionName) (word : String) : Except UsageError WordMeaning :=
  match word.toList with
  | _ :: c :: value =>
    match options.find? fun o => o.letter == some c with
    | some o =>
      .ok (if value.isEmpty then .awaiting o.long else .complete o.long (String.ofList value))
    | none => .error (.unknownOption word)
  | _ => .error (.unknownOption word)

/-- What an option word means. -/
def wordMeaning (options : List OptionName) (word : String) : Except UsageError WordMeaning :=
  let (name, value) := splitValue word
  if name = helpOption then
    match value with
    | some _ => .error (.unwantedValue name)
    | none => .ok .help
  else
    match options.find? fun o => o.long == name, value with
    | some o, some v => .ok (.complete o.long v)
    | some o, none => .ok (.awaiting o.long)
    | none, _ =>
      if "--".toList.isPrefixOf word.toList then .error (.unknownOption word)
      else letterMeaning options word

/-- Sorts the words of a command line behind those that are sorted already.  If
options may not come behind arguments, the first argument ends them. -/
def sortFrom (options : List OptionName) (mixed : Bool) (s : Sorted) : (words : List String) →
    Except UsageError Sorted
  | [] => .ok s
  | word :: words =>
    if word = "--" then .ok { s with arguments := s.arguments ++ words }
    else if isOptionWord word then
      match wordMeaning options word, words with
      | .error e, _ => .error e
      | .ok .help, words => sortFrom options mixed { s with help := true } words
      | .ok (.complete o v), words =>
        sortFrom options mixed { s with given := Entries.set s.given o v } words
      | .ok (.awaiting o), v :: words =>
        sortFrom options mixed { s with given := Entries.set s.given o v } words
      | .ok (.awaiting o), [] => .error (.missingValue o)
    else if mixed then sortFrom options mixed { s with arguments := s.arguments ++ [word] } words
    else .ok { s with arguments := s.arguments ++ word :: words }

/-- Sorts the words of a command line. -/
def sortWords (options : List OptionName) (mixed : Bool) (words : List String) :
    Except UsageError Sorted :=
  sortFrom options mixed {} words

/-! ### Commands -/

/-- A command by name, the options it takes, and whether it takes arguments. -/
structure CommandForm where
  options : List OptionName
  takesArguments : Bool
  make : Sorted → Command

def configOption : OptionName := ⟨"--config", some 'c'⟩
def componentOption : OptionName := ⟨"--component", some 'n'⟩
def outputOption : OptionName := ⟨"--output", some 'o'⟩
def versionOption : OptionName := ⟨"--project-version", none⟩
def repositoryOption : OptionName := ⟨"--repository", none⟩

/-- The value of an option. -/
def Sorted.value? (s : Sorted) (o : OptionName) : Option String := Entries.get? s.given o.long

/-- The commands. -/
def commandForms : List (String × CommandForm) :=
  [("banner",
    ⟨[componentOption, configOption], true, fun s =>
      .banner s.arguments (s.value? componentOption) (s.value? configOption)⟩),
   ("version", ⟨[], false, fun _ => .version⟩),
   ("runtime", ⟨[configOption], false, fun s => .runtime (s.value? configOption)⟩),
   ("generate-version-file",
    ⟨[outputOption, versionOption, repositoryOption], false, fun s =>
      .generate (s.value? outputOption) (s.value? versionOption) (s.value? repositoryOption)⟩)]

/-- The command with a form that words ask for. -/
def CommandForm.read (form : CommandForm) (words : List String) : Except UsageError Command := do
  let s ← sortWords form.options true words
  if s.help then return .help
  if ¬ form.takesArguments ∧ s.arguments ≠ [] then throw .extraArguments
  return form.make s

/-- The command that words ask for.  A word that names no command may still be a
question for help behind two dashes. -/
def Command.read (words : List String) : Except UsageError Command := do
  let s ← sortWords [] false words
  if s.help then return .help
  match s.arguments with
  | [] => return .banner [] none none
  | name :: rest =>
    match commandForms.lookup name with
    | some form => form.read rest
    | none =>
      if (← sortWords [] false (name :: rest)).help then return .help
      throw (.unknownCommand name)

end StartupReport.CommandLine
