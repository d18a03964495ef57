/-
StartupReport/StandIn/Yaml/Lexer.lean

Cutting a YAML text into tokens.

Outside brackets the structure of a text shows in its columns: a line further
to the right than the one before opens a collection, and a line to the left
closes those that it leaves.  That something is the key of a mapping shows
only when its colon comes, so the lexer remembers for every level of brackets
where such a key may have begun and puts the mark of a key there afterwards.
A key must end on its own line and within 1024 characters.

Tokens are cut when they are asked for.  The next token is settled once there
is one and no mark of a key can come before it any more, and what stands
further on in the text is not looked at until then.
-/
import StartupReport.StandIn.Yaml.Scalar
import StartupReport.StandIn.Yaml.Token

namespace StartupReport.Yaml

/-! ### Positions -/

/-- A position in a text: what follows it, the characters before it, and its
line and column. -/
structure Position where
  rest : List Char
  index : Nat
  line : Nat
  column : Nat

namespace Position

/-- The position after a character; the byte order mark takes no column. -/
def after (p : Position) (c : Char) (rest : List Char) : Position :=
  if isBreak c then ⟨rest, p.index + 1, p.line + 1, 0⟩
  else if c = '\uFEFF' then ⟨rest, p.index + 1, p.line, p.column⟩
  else ⟨rest, p.index + 1, p.line, p.column + 1⟩

/-- The position a number of characters further on. -/
def advance (p : Position) : Nat → Position
  | 0 => p
  | n + 1 =>
    match p.rest with
    | [] => p
    | c :: rest => (p.after c rest).advance n

/-- The position after the spaces, comments and line breaks of what follows, and
whether there was a line break among them. -/
def afterGap (inComment crossed : Bool) (p : Position) : List Char → Bool × Position
  | [] => (crossed, p)
  | c :: cs =>
    if isBreak c then afterGap false true (p.after c cs) cs
    else if inComment then afterGap true crossed (p.after c cs) cs
    else if c = ' ' then afterGap false crossed (p.after c cs) cs
    else if c = '#' then afterGap true crossed (p.after c cs) cs
    else (crossed, p)

end Position

/-! ### The state of a lexer -/

/-- A place where a key may have begun: the number of tokens before it in the
text, whether nothing but a key can stand there, and its position. -/
structure Candidate where
  place : Nat
  isRequired : Bool
  index : Nat
  line : Nat
  column : Nat

/-- The longest key. -/
def keyLimit : Nat := 1024

/-- A place that is too far behind a position to be that of a key. -/
def Candidate.isPast (c : Candidate) (p : Position) : Bool :=
  c.line != p.line || keyLimit < p.index - c.index

/-- The state of a lexer: where it is, how long the text is and whether it goes on
where it cannot be read, the tokens that wait and how many were taken before
them, whether all are cut, the columns of the open collections, whether a key
may begin, and the possible keys, one for the innermost brackets and one for
each level around them. -/
structure Lexer where
  position : Position
  length : Nat
  isTorn : Bool
  tokens : List Token := []
  taken : Nat := 0
  isDone : Bool := false
  indent : Int := -1
  outerIndents : List Int := []
  keyAllowed : Bool := true
  candidate : Option Candidate := none
  outerCandidates : List (Option Candidate) := []

namespace Lexer

/-- The lexer is inside brackets. -/
def inFlow (l : Lexer) : Bool := !l.outerCandidates.isEmpty

/-- Appends a token. -/
def push (l : Lexer) (t : Token) : Lexer := { l with tokens := l.tokens ++ [t] }

/-- Inserts a token that has a number of tokens before it in the text. -/
def pushAt (l : Lexer) (place : Nat) (t : Token) : Lexer :=
  let waiting := place - l.taken
  { l with tokens := l.tokens.take waiting ++ t :: l.tokens.drop waiting }

/-- Takes the next token away. -/
def pop (l : Lexer) : Lexer := { l with tokens := l.tokens.drop 1, taken := l.taken + 1 }

/-- Goes to the position from which a given end of the text is left. -/
def moveTo (l : Lexer) (rest : List Char) : Lexer :=
  { l with position := l.position.advance (l.length - l.position.index - rest.length) }

/-- Goes past a number of characters. -/
def skip (l : Lexer) (n : Nat) : Lexer := { l with position := l.position.advance n }

/-! ### Possible keys -/

/-- A possible key without which the text makes no sense cannot be given up. -/
def discard : Option Candidate → Except Flaw (Option Candidate)
  | some c => if c.isRequired then .error .malformed else .ok none
  | none => .ok none

/-- Gives up the possible key of the innermost brackets. -/
def discardCandidate (l : Lexer) : Except Flaw Lexer := do
  return { l with candidate := ← discard l.candidate }

/-- Gives up a possible key that is too far behind. -/
def discardPast (p : Position) : Option Candidate → Except Flaw (Option Candidate)
  | some c => if c.isPast p then discard (some c) else .ok (some c)
  | none => .ok none

/-- Gives up all possible keys that are too far behind. -/
def discardAllPast (l : Lexer) : Except Flaw Lexer := do
  return { l with
    candidate := ← discardPast l.position l.candidate
    outerCandidates := ← l.outerCandidates.mapM (discardPast l.position) }

/-- Remembers that a key may begin here. -/
def remember (l : Lexer) : Except Flaw Lexer := do
  if l.keyAllowed then
    let l ← l.discardCandidate
    return { l with candidate := some {
      place := l.taken + l.tokens.length
      isRequired := !l.inFlow && l.indent == l.position.column
      index := l.position.index
      line := l.position.line
      column := l.position.column } }
  else return l

/-! ### Columns -/

/-- The open columns up to a given one, and the number of those beyond it. -/
def unwound (column indent : Int) : List Int → Int × List Int × Nat
  | [] => (indent, [], 0)
  | outer :: outers =>
    if column < indent then
      let r := unwound column outer outers
      (r.1, r.2.1, r.2.2 + 1)
    else (indent, outer :: outers, 0)

/-- Closes the collections that begin to the right of a column. -/
def unwind (l : Lexer) (column : Int) : Lexer :=
  if l.inFlow then l
  else
    let (indent, outers, closed) := unwound column l.indent l.outerIndents
    { l with
      indent, outerIndents := outers
      tokens := l.tokens ++ List.replicate closed .blockEnd }

/-- Opens a collection at a column if it lies to the right of the open ones. -/
def indentTo (l : Lexer) (column : Int) : Option Lexer :=
  if l.indent < column then
    some { l with indent := column, outerIndents := l.indent :: l.outerIndents }
  else none

/-- Opens a collection at the current column, with its token, if it lies to the
right of the open ones. -/
def openHere (l : Lexer) (t : Token) : Lexer :=
  match l.indentTo l.position.column with
  | some l' => l'.push t
  | none => l

/-! ### The way to the next token -/

/-- Goes to the next token; after a line break outside brackets a key may begin. -/
def skipGap (l : Lexer) : Lexer :=
  let (crossed, position) := l.position.afterGap false false l.position.rest
  { l with position, keyAllowed := l.keyAllowed || (crossed && !l.inFlow) }

/-! ### Single tokens -/

/-- The border of a document, or a directive: everything is closed before it. -/
def closeAll (l : Lexer) : Except Flaw Lexer := do
  let l ← (l.unwind (-1)).discardCandidate
  return { l with keyAllowed := false }

def readDirective (l : Lexer) (rest : List Char) : Except Flaw Lexer := do
  let l ← l.closeAll
  let (d, rest) ← directive rest
  return (l.push (.directive d)).moveTo rest

def readMarker (l : Lexer) (t : Token) : Except Flaw Lexer := do
  return ((← l.closeAll).skip 3).push t

def openFlow (l : Lexer) (t : Token) : Except Flaw Lexer := do
  let l ← l.remember
  let l := (l.skip 1).push t
  return { l with
    keyAllowed := true, candidate := none, outerCandidates := l.candidate :: l.outerCandidates }

def closeFlow (l : Lexer) (t : Token) : Except Flaw Lexer := do
  let l ← l.discardCandidate
  match l.outerCandidates with
  | [] => throw .malformed
  | c :: cs =>
    return { (l.skip 1).push t with keyAllowed := false, candidate := c, outerCandidates := cs }

def readFlowEntry (l : Lexer) : Except Flaw Lexer := do
  let l ← { l with keyAllowed := true }.discardCandidate
  return (l.skip 1).push .flowEntry

def readBlockEntry (l : Lexer) : Except Flaw Lexer := do
  if ¬ l.inFlow ∧ ¬ l.keyAllowed then throw .malformed
  let l := if l.inFlow then l else l.openHere .blockSequenceStart
  let l ← { l with keyAllowed := true }.discardCandidate
  return (l.skip 1).push .blockEntry

def readKey (l : Lexer) : Except Flaw Lexer := do
  if ¬ l.inFlow ∧ ¬ l.keyAllowed then throw .malformed
  let l := if l.inFlow then l else l.openHere .blockMappingStart
  let l ← { l with keyAllowed := !l.inFlow }.discardCandidate
  return (l.skip 1).push .key

/-- The colon of a key that was remembered, which is marked now, or of one that
was marked before. -/
def readValue (l : Lexer) : Except Flaw Lexer := do
  match l.candidate with
  | some c =>
    let l := { l with candidate := none, keyAllowed := false }.pushAt c.place .key
    let l := if l.inFlow then l else
      match l.indentTo c.column with
      | some l' => l'.pushAt c.place .blockMappingStart
      | none => l
    return (l.skip 1).push .value
  | none =>
    if ¬ l.inFlow ∧ ¬ l.keyAllowed then throw .malformed
    let l := if l.inFlow then l else l.openHere .blockMappingStart
    return (({ l with keyAllowed := !l.inFlow }).skip 1).push .value

/-- A token before which a key may begin, and after which none may. -/
def readUnit (l : Lexer) (read : Except Flaw (Token × List Char)) : Except Flaw Lexer := do
  let l ← l.remember
  let (t, rest) ← read
  return ({ l with keyAllowed := false }.push t).moveTo rest

def readBlock (l : Lexer) (foldLines : Bool) (rest : List Char) : Except Flaw Lexer := do
  let l ← { l with keyAllowed := true }.discardCandidate
  let (text, rest) ← block foldLines (l.indent + 1).toNat rest
  return (l.push (.scalar false (String.ofList text))).moveTo rest

/-- A plain text; if it ends at the beginning of a line, a key may follow. -/
def readPlain (l : Lexer) : Except Flaw Lexer := do
  let l ← l.remember
  let (text, crossed, rest) := plain l.inFlow (l.indent + 1).toNat l.position.rest
  return ({ l with keyAllowed := crossed }.push (.scalar true (String.ofList text))).moveTo rest

/-- The characters that no plain text begins with. -/
def isIndicator (c : Char) : Bool := "-?:,[]\x7b\x7d#&*!|>'\"%@\x60".toList.contains c

/-- A plain text may begin with a character before the rest of the text. -/
def startsPlain (l : Lexer) (c : Char) (rest : List Char) : Bool :=
  (!isIndicator c && !isBlank c && !isBreak c) ||
    (!atGap rest && (c == '-' || (!l.inFlow && (c == '?' || c == ':'))))

/-- The token that begins with a character before the rest of the text. -/
def readToken (l : Lexer) (c : Char) (rest : List Char) : Except Flaw Lexer :=
  let quotedScalar (r : Except Flaw (List Char × List Char)) : Except Flaw (Token × List Char) :=
    r.map fun (text, rest) => (.scalar false (String.ofList text), rest)
  if l.position.column = 0 ∧ c = '%' then l.readDirective rest
  else if l.position.column = 0 ∧ isMarkerOf '-' (c :: rest) then l.readMarker .documentStart
  else if l.position.column = 0 ∧ isMarkerOf '.' (c :: rest) then l.readMarker .documentEnd
  else if c = '[' then l.openFlow .flowSequenceStart
  else if c = '\x7b' then l.openFlow .flowMappingStart
  else if c = ']' then l.closeFlow .flowSequenceEnd
  else if c = '\x7d' then l.closeFlow .flowMappingEnd
  else if c = ',' then l.readFlowEntry
  else if c = '-' ∧ atGap rest then l.readBlockEntry
  else if c = '?' ∧ (l.inFlow ∨ atGap rest) then l.readKey
  else if c = ':' ∧ (l.inFlow ∨ atGap rest) then l.readValue
  else if c = '*' then
    l.readUnit ((anchorName rest).map fun (n, rest) => (.reference n, rest))
  else if c = '&' then
    l.readUnit ((anchorName rest).map fun (n, rest) => (.anchor n, rest))
  else if c = '!' then
    l.readUnit ((tag (c :: rest)).map fun ((h, s), rest) => (.tag h s, rest))
  else if c = '|' ∧ ¬ l.inFlow then l.readBlock false rest
  else if c = '>' ∧ ¬ l.inFlow then l.readBlock true rest
  else if c = '\'' then l.readUnit (quotedScalar (singleQuoted rest))
  else if c = '"' then l.readUnit (quotedScalar (doubleQuoted rest))
  else if l.startsPlain c rest then l.readPlain
  else .error .malformed

/-! ### Tokens on demand -/

/-- Cuts the next tokens off the text. -/
def cut (l : Lexer) : Except Flaw Lexer := do
  let l ← l.skipGap.discardAllPast
  let l := l.unwind l.position.column
  match l.position.rest with
  | [] =>
    if l.isTorn then throw .malformed
    return { ← (l.unwind (-1)).discardCandidate with isDone := true }
  | c :: rest => l.readToken c rest

/-- The mark of a key may still come before the next token. -/
def mayMarkNext (l : Lexer) : Bool :=
  (l.candidate :: l.outerCandidates).any fun c => c.any fun c => c.place == l.taken

/-- The next token is settled, or there is none. -/
def isSettled (l : Lexer) : Bool := l.isDone || (!l.tokens.isEmpty && !l.mayMarkNext)

/-- Gives up the possible keys that are too far behind once there is a token. -/
def review (l : Lexer) : Except Flaw Lexer :=
  if l.isDone || l.tokens.isEmpty then .ok l else l.discardAllPast

/-- Cuts tokens until the next one is settled. -/
def settleWithin : (fuel : Nat) → Lexer → Except Flaw Lexer
  | 0, _ => .error .malformed
  | fuel + 1, l => do
    let l ← (← l.cut).review
    if l.isSettled then return l else settleWithin fuel l

/-- Cuts tokens until the next one is settled.  The fuel is the length of the
text: every cut takes a character, but for the one that finds the end. -/
def settle (l : Lexer) : Except Flaw Lexer := do
  let l ← l.review
  if l.isSettled then return l else settleWithin (l.length + 1) l

/-- The beginning of a text that may go on where it cannot be read. -/
def ofText (cs : List Char) (isTorn : Bool) : Lexer :=
  { position := ⟨cs, 0, 0, 0⟩, length := cs.length, isTorn }

end Lexer

end StartupReport.Yaml
