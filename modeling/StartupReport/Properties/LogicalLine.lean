/-
StartupReport/Properties/LogicalLine.lean

From physical lines to logical ones.

A physical line that ends in an odd number of backslashes goes on in the next
one, whose leading blanks do not count.  Blank lines and lines whose first
character is a number sign or an exclamation mark are comments, but only where
a logical line may begin.  `logicalLines` carries the beginning of a logical
line that is not yet complete.
-/
import StartupReport.Text.Blank

namespace StartupReport.Properties

open Text (trimStart dropEndWhile)

/-- The number of backslashes at the end of a line. -/
def trailingBackslashes (line : List Char) : Nat := (line.reverse.takeWhile (· == '\\')).length

/-- A line goes on in the next one if it ends in an odd number of backslashes. -/
def isContinued (line : List Char) : Bool := trailingBackslashes line % 2 == 1

/-- A character of a line end. -/
def isLineEnd (c : Char) : Bool := c == '\r' || c == '\n'

/-- A physical line without the characters that end it. -/
def withoutLineEnd (line : List Char) : List Char := dropEndWhile isLineEnd line

/-- A character that makes a comment of the line that it begins. -/
def isCommentMark (c : Char) : Bool := c == '#' || c == '!'

/-- A line without content: nothing but blanks, or a comment. -/
def isSkipped (line : List Char) : Bool :=
  match trimStart line with
  | [] => true
  | c :: _ => isCommentMark c

/-- The logical lines of physical ones; `begun` is what the lines before have
left open, if they have. -/
def logicalLines (begun : Option (List Char)) : List (List Char) → List (List Char)
  | [] =>
    match begun with
    | some line => [line]
    | none => []
  | physical :: rest =>
    let bare := withoutLineEnd physical
    if begun.isNone && isSkipped bare then logicalLines none rest
    else
      let line := begun.getD [] ++ trimStart bare
      if isContinued line then logicalLines (some line.dropLast) rest
      else line :: logicalLines none rest

end StartupReport.Properties
