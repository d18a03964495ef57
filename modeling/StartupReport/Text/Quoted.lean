/-
StartupReport/Text/Quoted.lean

Text in quotes, as it is shown inside messages and inside lists.

The quotes are single unless the text holds a single quote and no double
one.  The quote in use, the backslash, tab, line feed and carriage return are
written with a backslash; a character without visible form is written with
its code point in hexadecimal; all else stands for itself.
-/
import StartupReport.Text.CaseTable
import StartupReport.Text.PrintableTable
import StartupReport.Text.Digit

namespace StartupReport.Text

/-- A character that is shown as it is. -/
def isPrintable (c : Char) : Bool := !inRanges unprintableRanges c.toNat

/-- The quotes for a text: double quotes only where they save a backslash. -/
def quoteFor (cs : List Char) : Char :=
  if cs.contains '\'' && !cs.contains '"' then '"' else '\''

/-- The code point of a character, with as many digits as its size asks for. -/
def codeEscape (c : Char) : List Char :=
  if c.toNat ≤ 0xFF then '\\' :: 'x' :: lowerHex 2 c.toNat
  else if c.toNat ≤ 0xFFFF then '\\' :: 'u' :: lowerHex 4 c.toNat
  else '\\' :: 'U' :: lowerHex 8 c.toNat

/-- One character between quotes. -/
def quotedChar (quote c : Char) : List Char :=
  if c = quote || c = '\\' then ['\\', c]
  else if c = '\t' then ['\\', 't']
  else if c = '\n' then ['\\', 'n']
  else if c = '\r' then ['\\', 'r']
  else if isPrintable c then [c]
  else codeEscape c

/-- A text between quotes. -/
def quoted (s : String) : String :=
  let quote := quoteFor s.toList
  String.ofList (quote :: s.toList.flatMap (quotedChar quote) ++ [quote])

end StartupReport.Text
