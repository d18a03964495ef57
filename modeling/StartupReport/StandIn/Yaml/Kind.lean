/-
StartupReport/StandIn/Yaml/Kind.lean

What the nodes of a YAML document mean.

A plain text means null, a truth value, a number, a time or itself, by its form;
a tag says outright what a node means.  Two texts have a meaning only as keys:
under `<<` a mapping takes over the entries of others, and `=` stands for the
value of the mapping itself.
-/
import StartupReport.StandIn.Yaml.Numeral

namespace StartupReport.Yaml

/-- What a node means. -/
inductive Kind
  | null
  | bool
  | int
  | text
  /-- Bytes, written in base sixty-four. -/
  | binary
  | sequence
  | mapping
  /-- A sequence of mappings with one entry each, which stand for pairs. -/
  | pairs
  /-- A mapping of which only the keys count. -/
  | set
  /-- The key under which entries are taken over. -/
  | merge
  /-- The key for the value of a mapping itself. -/
  | default
  /-- A fraction or a time. -/
  | uncovered
  | unknown
deriving DecidableEq, Repr

/-! ### Forms of plain texts -/

/-- The words for null. -/
def nullWords : List String := ["", "~", "null", "Null", "NULL"]

/-- The words for truth values, in lower case. -/
def truthWords : List (String × Bool) :=
  [("yes", true), ("no", false), ("true", true), ("false", false), ("on", true), ("off", false)]

/-- The three ways of writing a word: in lower case, capitalized, in upper case. -/
def spellings (word : String) : List String :=
  [word, String.ofList (match word.toList with
    | [] => []
    | c :: cs => c.toUpper :: cs), String.ofList (word.toList.map Char.toUpper)]

/-- The truth value of a word in one of its spellings. -/
def truthValue? (text : String) : Option Bool :=
  (truthWords.find? fun w => (spellings w.1).contains text).map (·.2)

/-- The marks that mean nothing on their own. -/
def loneMarks : List String := ["!", "&", "*"]

/-- A text without one line feed at its end, unless it begins with one. -/
def withoutLineFeed (text : String) : String :=
  let cs := text.toList
  if cs.head? ≠ some '\n' ∧ cs.getLast? = some '\n' then String.ofList cs.dropLast else text

/-- What a plain text means by its form. -/
def Kind.ofPlain (text : String) : Kind :=
  let word := withoutLineFeed text
  if nullWords.contains word then .null
  else if (truthValue? word).isSome then .bool
  else if isNumeral word.toList then .int
  else if isFraction word || isTime word then .uncovered
  else if word = "<<" then .merge
  else if word = "=" then .default
  else if loneMarks.contains word then .unknown
  else .text

/-! ### Tags -/

/-- What the tags of the language itself are called. -/
def tagNames : List (String × Kind) :=
  [("null", .null), ("bool", .bool), ("int", .int), ("str", .text), ("binary", .binary),
   ("seq", .sequence), ("map", .mapping), ("omap", .pairs), ("pairs", .pairs), ("set", .set),
   ("merge", .merge), ("value", .default), ("float", .uncovered), ("timestamp", .uncovered)]

/-- How the full names of these tags begin. -/
def tagSpace : String := "tag:yaml.org,2002:"

/-- What a tag says. -/
def Kind.ofTag (tag : String) : Kind :=
  ((tagNames.find? fun n => tagSpace ++ n.1 == tag).map (·.2)).getD .unknown

/-- The tag that a lone exclamation mark stands for: the form decides. -/
def openTag : String := "!"

/-- What a text means. -/
def Kind.ofScalar (tag : Option String) (isPlain : Bool) (text : String) : Kind :=
  match tag with
  | none => if isPlain then .ofPlain text else .text
  | some t => if t = openTag then .ofPlain text else .ofTag t

/-- What a collection means that means `usual` without a tag. -/
def Kind.ofCollection (tag : Option String) (usual : Kind) : Kind :=
  match tag with
  | none => usual
  | some t => if t = openTag then usual else .ofTag t

end StartupReport.Yaml
