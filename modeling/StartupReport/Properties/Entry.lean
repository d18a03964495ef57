/-
StartupReport/Properties/Entry.lean

The parts of a logical line: a key, a gap and a value.

The key runs to the first separator or blank that no backslash protects, the
gap takes blanks around at most one separator, and the rest is the value.
`splitKey_append` says that no character is lost at the end of the key.
-/
import StartupReport.Text.Blank

namespace StartupReport.Properties

open Text (isBlank trimStart)

/-- A character that separates key and value. -/
def isSeparator (c : Char) : Bool := c == '=' || c == ':'

/-- The key at the beginning of a line, and what follows it.  A backslash takes
the next character into the key, whatever it is. -/
def splitKey : List Char → List Char × List Char
  | [] => ([], [])
  | ['\\'] => (['\\'], [])
  | c :: d :: rest =>
    if c = '\\' then
      let (key, after) := splitKey rest
      (c :: d :: key, after)
    else if isSeparator c || isBlank c then ([], c :: d :: rest)
    else
      let (key, after) := splitKey (d :: rest)
      (c :: key, after)
  | [c] => if isSeparator c || isBlank c then ([], [c]) else ([c], [])

/-- What follows the gap: blanks, at most one separator, and blanks again. -/
def afterGap (cs : List Char) : List Char :=
  match trimStart cs with
  | [] => []
  | c :: rest => if isSeparator c then trimStart rest else c :: rest

/-- The key and the value of a line, both as they are written. -/
def splitEntry (line : List Char) : List Char × List Char :=
  let (key, after) := splitKey line
  (key, afterGap after)

/-! ### The key, character by character -/

theorem splitKey_backslash (d : Char) (rest : List Char) :
    splitKey ('\\' :: d :: rest) = ('\\' :: d :: (splitKey rest).1, (splitKey rest).2) := by
  simp [splitKey]

theorem splitKey_of_stop {c : Char} (hb : c ≠ '\\')
    (h : (isSeparator c || isBlank c) = true) (rest : List Char) :
    splitKey (c :: rest) = ([], c :: rest) := by
  cases rest <;> simp [splitKey, hb, h]

theorem splitKey_of_go {c : Char} (hb : c ≠ '\\')
    (h : (isSeparator c || isBlank c) = false) (rest : List Char) :
    splitKey (c :: rest) = (c :: (splitKey rest).1, (splitKey rest).2) := by
  cases rest <;> simp [splitKey, hb, h]

/-! ### Nothing is lost at the end of the key -/

theorem splitKey_append (line : List Char) : (splitKey line).1 ++ (splitKey line).2 = line := by
  fun_induction splitKey line <;> simp_all

end StartupReport.Properties
