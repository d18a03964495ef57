/-
StartupReport/Properties/Reader.lean

Reading keys and values from lines of text.

The lines may come from a text, a stream or a file of one-byte characters;
`parse` takes them in any of these forms, for it drops the line ends itself.
A key that comes again keeps its first place and takes the last value.
-/
import StartupReport.Entries
import StartupReport.Properties.Entry
import StartupReport.Properties.Escape
import StartupReport.Properties.LogicalLine
import StartupReport.Text.Latin1
import StartupReport.Text.Line

namespace StartupReport

/-- Keys and values of a properties text. -/
abbrev Properties := Entries String

namespace Properties

open Text (splitLines streamLines normalizeNewlines)

/-- The key and value that a logical line stands for. -/
def readEntry (line : List Char) : String × String :=
  let (key, value) := splitEntry line
  (String.ofList (unescape key), String.ofList (unescape value))

/-- The keys and values of physical lines. -/
def parse (lines : List (List Char)) : Properties :=
  Entries.ofPairs ((logicalLines none lines).map readEntry)

/-- The keys and values of a text, which any line boundary cuts into lines. -/
def parseText (cs : List Char) : Properties := parse (splitLines cs)

/-- The keys and values of a stream, which line feeds cut into lines. -/
def parseStream (cs : List Char) : Properties := parse (streamLines cs)

/-- The keys and values of a file of one-byte characters. -/
def parseBytes (bytes : List UInt8) : Properties :=
  parseStream (normalizeNewlines (Text.Latin1.decode bytes))

end Properties

end StartupReport
