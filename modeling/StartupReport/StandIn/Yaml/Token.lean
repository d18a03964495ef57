/-
StartupReport/StandIn/Yaml/Token.lean

The tokens of a YAML text, and the reading of names, tags and directives.

A tag is written with a handle that stands for the beginning of its name, or in
full between angle brackets; a directive may give a handle its meaning.
-/
import StartupReport.StandIn.Yaml.Numeral

namespace StartupReport.Yaml

/-- A line that tells how to read the document after it. -/
inductive Directive
  /-- The version of the format, by the first of its two numbers. -/
  | version (major : Int)
  /-- The meaning of a handle. -/
  | handle (name meaning : String)
  /-- Anything else, which is not looked at. -/
  | other
deriving DecidableEq, Repr

/-- A token.  The start of a mapping, the start of a sequence and the end of
either have no character of their own where indentation shows them. -/
inductive Token
  | directive (d : Directive)
  | documentStart
  | documentEnd
  | blockSequenceStart
  | blockMappingStart
  | blockEnd
  | flowSequenceStart
  | flowSequenceEnd
  | flowMappingStart
  | flowMappingEnd
  | blockEntry
  | flowEntry
  | key
  | value
  | reference (name : String)
  | anchor (name : String)
  | tag (handle : Option String) (suffix : String)
  | scalar (isPlain : Bool) (text : String)
deriving DecidableEq, Repr

/-! ### Names -/

/-- A name that is not empty, and what follows it. -/
def name (cs : List Char) : Except Flaw (String × List Char) :=
  match cs.takeWhile isNameChar with
  | [] => .error .malformed
  | n => .ok (String.ofList n, cs.dropWhile isNameChar)

/-- What may follow the name of an anchor. -/
def endsAnchor : List Char → Bool
  | [] => true
  | c :: rest => atGap (c :: rest) || "?:,]\x7d%@\x60".toList.contains c

/-- The name of an anchor or of a reference to one, after its mark. -/
def anchorName (cs : List Char) : Except Flaw (String × List Char) := do
  let (n, rest) ← name cs
  if endsAnchor rest then return (n, rest) else throw .malformed

/-! ### Tags -/

/-- A character of the name of a tag. -/
def isTagChar (c : Char) : Bool :=
  isNameChar c || ";/?:@&=+$,_.!~*'()[]".toList.contains c

/-- The bytes of a run of escapes, each a percent sign and two digits, and what
follows it. -/
def escapedBytes : List Char → Except Flaw (List UInt8 × List Char)
  | [] => .ok ([], [])
  | '%' :: cs =>
    match cs with
    | a :: b :: rest =>
      match hexNumber? 0 [a, b] with
      | some n => (escapedBytes rest).map fun r => (UInt8.ofNat n :: r.1, r.2)
      | none => .error .malformed
    | _ => .error .malformed
  | cs => .ok ([], cs)

theorem length_escapedBytes {cs rest : List Char} {bytes : List UInt8}
    (h : escapedBytes cs = .ok (bytes, rest)) : rest.length ≤ cs.length := by
  fun_induction escapedBytes cs generalizing bytes with
  | case1 => simp at h; simp [h]
  | case2 a b more n hn ih =>
    cases hr : escapedBytes more with
    | error e => rw [hr] at h; simp [Except.map] at h
    | ok r =>
      rw [hr] at h
      simp only [Except.map, Except.ok.injEq, Prod.mk.injEq] at h
      obtain ⟨read, after⟩ := r
      obtain rfl : after = rest := h.2
      have hle := ih hr
      simp only [List.length_cons]; omega
  | case3 => simp at h
  | case4 => simp at h
  | case5 => simp at h; simp [h]

/-- The name of a tag as far as it goes, and what follows it. -/
def tagText (cs : List Char) : Except Flaw (List Char × List Char) :=
  match cs with
  | [] => .ok ([], [])
  | c :: rest =>
    if c = '%' then
      match rest with
      | a :: b :: more =>
        match hexNumber? 0 [a, b], _h : escapedBytes more with
        | some n, .ok (bytes, after) =>
          match String.fromUTF8? (ByteArray.mk (UInt8.ofNat n :: bytes).toArray) with
          | some text => (tagText after).map fun r => (text.toList ++ r.1, r.2)
          | none => .error .malformed
        | _, _ => .error .malformed
      | _ => .error .malformed
    else if isTagChar c then (tagText rest).map fun r => (c :: r.1, r.2)
    else .ok ([], c :: rest)
termination_by cs.length
decreasing_by
  · have := length_escapedBytes _h; simp only [List.length_cons]; omega
  · simp

/-- The name of a tag, which must not be empty. -/
def tagName (cs : List Char) : Except Flaw (String × List Char) := do
  let (text, rest) ← tagText cs
  if text.isEmpty then throw .malformed else return (String.ofList text, rest)

/-- A handle: an exclamation mark, or two of them with a name or nothing between
them. -/
def handle (cs : List Char) : Except Flaw (String × List Char) :=
  match cs with
  | '!' :: rest =>
    if rest.head? = some ' ' then .ok ("!", rest)
    else
      match rest.dropWhile isNameChar with
      | '!' :: more => .ok (String.ofList ('!' :: rest.takeWhile isNameChar ++ ['!']), more)
      | _ => .error .malformed
  | _ => .error .malformed

/-- There is a further exclamation mark before the next gap. -/
def hasHandle : List Char → Bool
  | [] => false
  | c :: rest => if c = ' ' || isBreak c then false else c = '!' || hasHandle rest

/-- A tag, from its exclamation mark on: handle and name, and what follows. -/
def tag (cs : List Char) : Except Flaw ((Option String × String) × List Char) := do
  let rest := cs.drop 1
  let (result, after) ←
    if rest.head? = some '<' then do
      let (suffix, after) ← tagName (rest.drop 1)
      match after with
      | '>' :: more => pure ((none, suffix), more)
      | _ => throw .malformed
    else if atGap rest then pure ((none, "!"), rest)
    else if hasHandle rest then do
      let (h, more) ← handle cs
      let (suffix, after) ← tagName more
      pure ((some h, suffix), after)
    else do
      let (suffix, after) ← tagName rest
      pure ((some "!", suffix), after)
  if atPlainGap after then return (result, after) else throw .malformed

/-! ### Directives -/

/-- A text without the spaces at its beginning. -/
def afterSpaces (cs : List Char) : List Char := cs.dropWhile (· == ' ')

/-- A number in decimal digits, and what follows it. -/
def number (cs : List Char) : Except Flaw (Int × List Char) :=
  match cs.takeWhile fun c => (Text.asciiDecimalValue? c).isSome with
  | [] => .error .malformed
  | ds => (wholeNumber 10 ds).map fun n => (n, cs.drop ds.length)

/-- What a version directive says, after its name. -/
def versionDirective (cs : List Char) : Except Flaw (Directive × List Char) := do
  let (major, rest) ← number (afterSpaces cs)
  match rest with
  | '.' :: rest => do
    let (_, rest) ← number rest
    if atPlainGap rest then return (.version major, rest) else throw .malformed
  | _ => throw .malformed

/-- What a handle directive says, after its name. -/
def handleDirective (cs : List Char) : Except Flaw (Directive × List Char) := do
  let (h, rest) ← handle (afterSpaces cs)
  if rest.head? ≠ some ' ' then throw .malformed
  let (meaning, rest) ← tagName (afterSpaces rest)
  if atPlainGap rest then return (.handle h meaning, rest) else throw .malformed

/-- A directive after its percent sign, and what follows its line. -/
def directive (cs : List Char) : Except Flaw (Directive × List Char) := do
  let (n, rest) ← name cs
  if ¬ atPlainGap rest then throw .malformed
  let (d, rest) ←
    if n = "YAML" then versionDirective rest
    else if n = "TAG" then handleDirective rest
    else pure (.other, rest.dropWhile fun c => !isBreak c)
  return (d, ← afterComment rest)

end StartupReport.Yaml
