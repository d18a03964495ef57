/-
StartupReport/StandIn/Yaml/Scalar.lean

The three ways of writing a text in YAML.

A quoted text stands between quotes and may run over several lines; a plain
text has no quotes and ends where something else begins; a block is a run of
lines that are indented further than what they belong to.  In the first two a
line break inside the text is folded: one break becomes a space, and of more
breaks all but the first are kept.  Each reader answers with the text and with
what follows it.
-/
import StartupReport.Text.Digit
import StartupReport.Text.Units
import StartupReport.StandIn.Yaml.Character

namespace StartupReport.Yaml

/-! ### Quoted texts -/

/-- The line breaks at the beginning of a line with the blanks around them, and
what follows.  The border of a document must not come among them. -/
def lineBreaks (cs : List Char) : Option (List Char × List Char) :=
  if isMarker cs then none
  else
    match _h : cs.dropWhile isBlank with
    | [] => some ([], [])
    | c :: rest =>
      if isBreak c then (lineBreaks rest).map fun r => (breakForm c :: r.1, r.2)
      else some ([], c :: rest)
termination_by cs.length
decreasing_by
  have := (List.dropWhile_sublist (l := cs) isBlank).length_le
  rw [_h] at this
  simp at this
  omega

theorem length_lineBreaks {cs rest breaks : List Char} (h : lineBreaks cs = some (breaks, rest)) :
    rest.length ≤ cs.length := by
  fun_induction lineBreaks cs generalizing breaks with
  | case1 => simp at h
  | case2 => simp at h; simp [h]
  | case3 cs _ c more hd _ ih =>
    obtain ⟨⟨bs, r⟩, hr, he⟩ := Option.map_eq_some_iff.1 h
    simp only [Prod.mk.injEq] at he
    have hl := ih (he.2 ▸ hr)
    have := (List.dropWhile_sublist (l := cs) isBlank).length_le
    rw [hd] at this
    simp at this
    omega
  | case4 cs _ c more hd _ =>
    simp only [Option.some.injEq, Prod.mk.injEq] at h
    have := (List.dropWhile_sublist (l := cs) isBlank).length_le
    rw [hd] at this
    rw [← h.2]
    exact this

/-- A line break and the breaks after it, folded. -/
def folded (first : Char) (more : List Char) : List Char :=
  if breakForm first = '\n' then (if more.isEmpty then [' '] else more) else first :: more

/-- The characters that an escape of one character stands for. -/
def escapeForms : List (Char × Char) :=
  [('0', '\x00'), ('a', '\x07'), ('b', '\x08'), ('t', '\t'), ('\t', '\t'), ('n', '\n'),
   ('v', '\x0b'), ('f', '\x0c'), ('r', '\r'), ('e', '\x1b'), (' ', ' '), ('"', '"'), ('\\', '\\'),
   ('/', '/'), ('N', '\x85'), ('_', '\xa0'), ('L', '\u2028'), ('P', '\u2029')]

/-- The number of hexadecimal digits after an escape, if it takes any. -/
def escapeWidth? (c : Char) : Option Nat :=
  if c = 'x' then some 2 else if c = 'u' then some 4 else if c = 'U' then some 8 else none

/-- The code of an escape: the digits of the given number are those that follow. -/
def escapedCode (width : Nat) (cs : List Char) : Except Flaw Nat :=
  let digits := cs.take width
  match hexNumber? 0 digits with
  | some code =>
    if digits.length < width then .error .malformed
    else if code < 0x110000 then .ok code
    else .error (.noCharacter code)
  | none => .error .malformed

/-- The low unit of a pair that an escape by its code stands for, and what follows
it. -/
def lowUnit? : List Char → Option (UInt16 × List Char)
  | '\\' :: e :: cs => do
    let width ← escapeWidth? e
    let code ← (escapedCode width cs).toOption
    let unit := UInt16.ofNat code
    if code < 0x10000 && Text.isLowUnit unit then some (unit, cs.drop width) else none
  | _ => none

/-- The character of an escape by its code, and what follows it.  Two escapes for
the units of a pair make one character. -/
def escaped (width : Nat) (cs : List Char) : Except Flaw (Char × List Char) :=
  match escapedCode width cs with
  | .error flaw => .error flaw
  | .ok code =>
    let rest := cs.drop width
    let unit := UInt16.ofNat code
    if 0x10000 ≤ code then .ok (Char.ofNat code, rest)
    else if Text.isHighUnit unit then
      match lowUnit? rest with
      | some (low, rest) => .ok (Text.pairChar unit low, rest)
      | none => .ok (Text.unitChar unit, rest)
    else .ok (Text.unitChar unit, rest)

theorem length_lowUnit? {cs rest : List Char} {u : UInt16} (h : lowUnit? cs = some (u, rest)) :
    rest.length ≤ cs.length := by
  unfold lowUnit? at h
  split at h
  · next e more =>
    cases hw : escapeWidth? e with
    | none => simp [hw] at h
    | some width =>
      cases hc : (escapedCode width more).toOption with
      | none => simp [hw, hc] at h
      | some code =>
        simp only [hw, hc, Option.bind_eq_bind, Option.bind_some, Option.ite_none_right_eq_some,
          Option.some.injEq, Prod.mk.injEq] at h
        rw [← h.2.2]
        simp only [List.length_drop, List.length_cons]
        omega
  · simp at h

theorem length_escaped {width : Nat} {cs rest : List Char} {c : Char}
    (h : escaped width cs = .ok (c, rest)) : rest.length ≤ cs.length := by
  have hd : (cs.drop width).length ≤ cs.length := by simp only [List.length_drop]; omega
  unfold escaped at h
  split at h
  · simp at h
  · dsimp only at h
    split at h
    · simp only [Except.ok.injEq, Prod.mk.injEq] at h
      rw [← h.2]; exact hd
    · split at h
      · split at h
        · next hl =>
          simp only [Except.ok.injEq, Prod.mk.injEq] at h
          rw [← h.2]; exact Nat.le_trans (length_lowUnit? hl) hd
        · simp only [Except.ok.injEq, Prod.mk.injEq] at h
          rw [← h.2]; exact hd
      · simp only [Except.ok.injEq, Prod.mk.injEq] at h
        rw [← h.2]; exact hd

/-- A text between double quotes, after the opening one. -/
def doubleQuoted (cs : List Char) : Except Flaw (List Char × List Char) :=
  match cs with
  | [] => .error .malformed
  | c :: rest =>
    if c = '"' then .ok ([], rest)
    else if c = '\\' then
      match rest with
      | [] => .error .malformed
      | e :: more =>
        if isBreak e then
          match _h : lineBreaks more with
          | none => .error .malformed
          | some (breaks, after) => (doubleQuoted after).map fun r => (breaks ++ r.1, r.2)
        else
          match escapeForms.lookup e, escapeWidth? e with
          | some form, _ => (doubleQuoted more).map fun r => (form :: r.1, r.2)
          | none, some width =>
            match _h : escaped width more with
            | .error flaw => .error flaw
            | .ok (form, after) => (doubleQuoted after).map fun r => (form :: r.1, r.2)
          | none, none => .error .malformed
    else if isBlank c then
      match _h : rest.dropWhile isBlank with
      | [] => .error .malformed
      | b :: more =>
        if isBreak b then
          match _h' : lineBreaks more with
          | none => .error .malformed
          | some (breaks, after) => (doubleQuoted after).map fun r => (folded b breaks ++ r.1, r.2)
        else
          (doubleQuoted (b :: more)).map fun r => (c :: rest.takeWhile isBlank ++ r.1, r.2)
    else if isBreak c then
      match _h : lineBreaks rest with
      | none => .error .malformed
      | some (breaks, after) => (doubleQuoted after).map fun r => (folded c breaks ++ r.1, r.2)
    else (doubleQuoted rest).map fun r => (c :: r.1, r.2)
termination_by cs.length
decreasing_by
  · have := length_lineBreaks _h; simp only [List.length_cons]; omega
  · simp only [List.length_cons]; omega
  · have := length_escaped _h; simp only [List.length_cons]; omega
  · have := length_lineBreaks _h'
    have hd := (List.dropWhile_sublist (l := rest) isBlank).length_le
    rw [_h] at hd; simp at hd ⊢; omega
  · have hd := (List.dropWhile_sublist (l := rest) isBlank).length_le
    rw [_h] at hd; simp at hd ⊢; omega
  · have := length_lineBreaks _h; simp only [List.length_cons]; omega
  · simp

/-- A text between single quotes, after the opening one; a quote inside is
written twice. -/
def singleQuoted (cs : List Char) : Except Flaw (List Char × List Char) :=
  match cs with
  | [] => .error .malformed
  | c :: rest =>
    if c = '\'' then
      match rest with
      | [] => .ok ([], [])
      | d :: more =>
        if d = '\'' then (singleQuoted more).map fun r => (d :: r.1, r.2) else .ok ([], d :: more)
    else if isBlank c then
      match _h : rest.dropWhile isBlank with
      | [] => .error .malformed
      | b :: more =>
        if isBreak b then
          match _h' : lineBreaks more with
          | none => .error .malformed
          | some (breaks, after) => (singleQuoted after).map fun r => (folded b breaks ++ r.1, r.2)
        else
          (singleQuoted (b :: more)).map fun r => (c :: rest.takeWhile isBlank ++ r.1, r.2)
    else if isBreak c then
      match _h : lineBreaks rest with
      | none => .error .malformed
      | some (breaks, after) => (singleQuoted after).map fun r => (folded c breaks ++ r.1, r.2)
    else (singleQuoted rest).map fun r => (c :: r.1, r.2)
termination_by cs.length
decreasing_by
  · simp only [List.length_cons]; omega
  · have := length_lineBreaks _h'
    have hd := (List.dropWhile_sublist (l := rest) isBlank).length_le
    rw [_h] at hd; simp at hd ⊢; omega
  · have hd := (List.dropWhile_sublist (l := rest) isBlank).length_le
    rw [_h] at hd; simp at hd ⊢; omega
  · have := length_lineBreaks _h; simp only [List.length_cons]; omega
  · simp

/-! ### Plain texts -/

/-- The characters with a meaning of their own inside brackets. -/
def isFlowChar (c : Char) : Bool := c == ',' || c == '[' || c == ']' || c == '\x7b' || c == '\x7d'

/-- A plain text must end before these characters. -/
def endsWord (flow : Bool) : List Char → Bool
  | [] => true
  | c :: rest =>
    isBlank c || isBreak c ||
      (c == ':' && (atGap rest || (flow && (match rest with
        | d :: _ => isFlowChar d
        | [] => false)))) ||
      (flow && (isFlowChar c || c == '?'))

/-- The first word of a plain text, and what follows it. -/
def plainWord (flow : Bool) : List Char → List Char × List Char
  | [] => ([], [])
  | c :: cs =>
    if endsWord flow (c :: cs) then ([], c :: cs)
    else
      let r := plainWord flow cs
      (c :: r.1, r.2)

/-- What stands between two lines of a plain text: the further line breaks, the
spaces of the last line, and what follows; nothing at the border of a document,
with what follows there. -/
def betweenLines (column : Nat) : List Char → Except (List Char) (List Char × Nat × List Char)
  | [] => .ok ([], column, [])
  | c :: cs =>
    if c = ' ' then betweenLines (column + 1) cs
    else if isBreak c then
      if isMarker cs then .error cs
      else (betweenLines 0 cs).map fun r => (breakForm c :: r.1, r.2)
    else .ok ([], column, c :: cs)

/-- What comes after a word of a plain text. -/
inductive AfterWord
  /-- The text ends; a line break may have been passed on the way. -/
  | ends (crossed : Bool) (rest : List Char)
  /-- The text may go on after some space. -/
  | gap (space : List Char) (crossed : Bool) (rest : List Char)

/-- What comes after a word of a plain text that must stay to the right of a
margin unless it is in brackets. -/
def afterWord (flow : Bool) (margin : Nat) (cs : List Char) : AfterWord :=
  let spaces := cs.takeWhile (· == ' ')
  match cs.dropWhile (· == ' ') with
  | [] => .ends false []
  | c :: rest =>
    if isBreak c then
      if isMarker rest then .ends true rest
      else
        match betweenLines 0 rest with
        | .error rest => .ends true rest
        | .ok (breaks, column, rest) =>
          if rest.head? == some '#' || (!flow && column < margin) then .ends true rest
          else .gap (folded c breaks) true rest
    else if spaces.isEmpty || c = '#' then .ends false (c :: rest)
    else .gap spaces false (c :: rest)

/-- The further words of a plain text: what they add to it, whether a line break
was passed after the last of them, and what follows.  The fuel is the length of
the text: every word has a character. -/
def plainWords (flow : Bool) (margin : Nat) (crossed : Bool) : (fuel : Nat) → List Char →
    List Char × Bool × List Char
  | 0, cs => ([], crossed, cs)
  | fuel + 1, cs =>
    match plainWord flow cs with
    | ([], _) => ([], crossed, cs)
    | (word, rest) =>
      match afterWord flow margin rest with
      | .ends crossed rest => (word, crossed, rest)
      | .gap space crossed rest =>
        match plainWords flow margin crossed fuel rest with
        | ([], crossed, rest) => (word, crossed, rest)
        | (more, crossed, rest) => (word ++ space ++ more, crossed, rest)

/-- A plain text, whether a line break was passed after it, and what follows. -/
def plain (flow : Bool) (margin : Nat) (cs : List Char) : List Char × Bool × List Char :=
  plainWords flow margin false (cs.length + 1) cs

/-! ### Blocks -/

/-- What becomes of the line breaks at the end of a block. -/
inductive Chomping
  | strip
  | clip
  | keep
deriving DecidableEq, Repr

/-- The sign for what becomes of the last line breaks. -/
def chompingOf? (c : Char) : Option Chomping :=
  if c = '+' then some .keep else if c = '-' then some .strip else none

/-- The head of a block: what becomes of the last breaks, the indentation if it
is given, and the text from the first line on.  Sign and digit come in either
order, each at most once. -/
def blockHead (cs : List Char) : Except Flaw (Chomping × Option Nat × List Char) := do
  let sign (cs : List Char) : Option Chomping × List Char :=
    match cs with
    | c :: rest => match chompingOf? c with
      | some chomping => (some chomping, rest)
      | none => (none, cs)
    | [] => (none, [])
  let digit (cs : List Char) : Option Nat × List Char :=
    match cs with
    | c :: rest => match Text.asciiDecimalValue? c with
      | some d => (some d, rest)
      | none => (none, cs)
    | [] => (none, [])
  let (chomping, width, rest) := match sign cs with
    | (some chomping, rest) => (chomping, digit rest)
    | (none, _) =>
      match digit cs with
      | (some d, rest) =>
        let (chomping, rest) := sign rest
        (chomping.getD .clip, some d, rest)
      | (none, _) => (.clip, none, cs)
  if width = some 0 then throw .malformed
  if ¬ atPlainGap rest then throw .malformed
  return (chomping, width, ← afterComment rest)

/-- The empty lines at the beginning of a block: their breaks, the column of the
deepest space, the column that is reached, and what follows. -/
def leadingLines (column deepest : Nat) : List Char → List Char × Nat × Nat × List Char
  | [] => ([], deepest, column, [])
  | c :: cs =>
    if c = ' ' then leadingLines (column + 1) (max deepest (column + 1)) cs
    else if isBreak c then
      let r := leadingLines 0 deepest cs
      (breakForm c :: r.1, r.2)
    else ([], deepest, column, c :: cs)

/-- The empty lines between the lines of a block, up to its indentation: their
breaks, the column that is reached, and what follows. -/
def emptyLines (indent column : Nat) : List Char → List Char × Nat × List Char
  | [] => ([], column, [])
  | c :: cs =>
    if c = ' ' ∧ column < indent then emptyLines indent (column + 1) cs
    else if isBreak c then
      let r := emptyLines indent 0 cs
      (breakForm c :: r.1, r.2)
    else ([], column, c :: cs)

/-- A line begins with a blank. -/
def startsBlank : List Char → Bool
  | c :: _ => isBlank c
  | [] => false

/-- What joins two lines of a block: a folded break between two lines that begin
with no blank becomes a space, or gives way to the empty lines. -/
def joint (foldLines : Bool) (lineBreak : List Char) (breaks line next : List Char) : List Char :=
  if foldLines && lineBreak == ['\n'] && !startsBlank line && !startsBlank next then
    if breaks.isEmpty then [' '] else breaks
  else lineBreak ++ breaks

/-- What is left at the end of a block. -/
def ending (chomping : Chomping) (lineBreak breaks : List Char) : List Char :=
  match chomping with
  | .strip => []
  | .clip => lineBreak
  | .keep => lineBreak ++ breaks

/-- The lines of a block from one that is at its indentation, and what follows
the block.  The fuel is the length of the text: every line but the last has a
break. -/
def blockLines (foldLines : Bool) (chomping : Chomping) (indent : Nat) : (fuel : Nat) →
    List Char → List Char × List Char
  | 0, cs => ([], cs)
  | fuel + 1, cs =>
    let line := cs.takeWhile fun c => !isBreak c
    let (lineBreak, rest) := match cs.dropWhile fun c => !isBreak c with
      | c :: rest => ([breakForm c], rest)
      | [] => ([], [])
    let (breaks, column, rest) := emptyLines indent 0 rest
    if column = indent ∧ lineBreak ≠ [] ∧ rest ≠ [] then
      let r := blockLines foldLines chomping indent fuel rest
      (line ++ joint foldLines lineBreak breaks line rest ++ r.1, r.2)
    else (line ++ ending chomping lineBreak breaks, rest)

/-- A block after its mark, in a place whose indentation is `margin - 1`, and
what follows it. -/
def block (foldLines : Bool) (margin : Nat) (cs : List Char) :
    Except Flaw (List Char × List Char) := do
  let (chomping, width, rest) ← blockHead cs
  let least := max margin 1
  let (breaks, indent, column, rest) := match width with
    | some w =>
      let indent := least + w - 1
      let (breaks, column, rest) := emptyLines indent 0 rest
      (breaks, indent, column, rest)
    | none =>
      let (breaks, deepest, column, rest) := leadingLines 0 0 rest
      (breaks, max least deepest, column, rest)
  if column = indent ∧ rest ≠ [] then
    let r := blockLines foldLines chomping indent (rest.length + 1) rest
    return (breaks ++ r.1, r.2)
  else return (ending chomping [] breaks, rest)

end StartupReport.Yaml
