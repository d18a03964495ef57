/-
StartupReport/Proofs/Text/LineCutting.lean

Texts that are cut into the same lines in every way.

`HasLines` lays a text out in lines.  Each line has an end, a line feed with or
without a carriage return before it; only the last may lack one, and there is no other
line boundary in the text.  A text can be laid out so if it has none of the rarer
boundaries and every carriage return in it has its line feed
(`exists_hasLines`).

Three ways of cutting a text respect these ends (`CutsAtEnds`), though they do not all
keep them: the lines of the text, the same lines with their boundaries, and the lines of
a stream.  And a text has the same lines if each end of one is written in the same way
(`WritesEnds.hasLines`), as a line feed or with its carriage return.
-/
import StartupReport.Text.Line

namespace StartupReport.Text

/-! ### Lines and their ends -/

/-- What ends a line: a line feed, with or without a carriage return before it. -/
inductive LineEnd
  | feed
  | returnFeed
deriving DecidableEq, Repr

def LineEnd.chars : LineEnd → List Char
  | .feed => ['\n']
  | .returnFeed => ['\r', '\n']

/-- No character of a line ends one. -/
def Unbroken (line : List Char) : Prop := ∀ c ∈ line, isLineBreak c = false

/-- A text and its lines, without their ends. -/
inductive HasLines : List Char → List (List Char) → Prop
  | nil : HasLines [] []
  | last {line : List Char} (h : Unbroken line) (hne : line ≠ []) : HasLines line [line]
  | ended {line cs : List Char} {lines : List (List Char)} (h : Unbroken line) (ending : LineEnd)
      (hrest : HasLines cs lines) : HasLines (line ++ (ending.chars ++ cs)) (line :: lines)

/-- The line boundaries beside line feed and carriage return. -/
def rareBreaks : List Char :=
  ['\u000B', '\u000C', '\u001C', '\u001D', '\u001E', '\u0085', '\u2028', '\u2029']

/-- A text has none of the rarer line boundaries, and every carriage return is
immediately followed by a line feed. -/
structure OrdinaryBreaks (cs : List Char) : Prop where
  rare : ∀ c ∈ cs, c ∉ rareBreaks
  returns : ∀ n, cs[n]? = some '\r' → cs[n + 1]? = some '\n'

instance (cs : List Char) : Decidable (OrdinaryBreaks cs) :=
  decidable_of_iff (cs.all (fun c => c ∉ rareBreaks) = true ∧
      ∀ n < cs.length, cs[n]? = some '\r' → cs[n + 1]? = some '\n') <| by
    simp only [List.all_eq_true, decide_eq_true_eq]
    constructor
    · rintro ⟨hrare, hreturns⟩
      exact ⟨hrare, fun n hn => hreturns n (List.getElem?_eq_some_iff.1 hn).1 hn⟩
    · rintro ⟨hrare, hreturns⟩
      exact ⟨hrare, fun n _ => hreturns n⟩

theorem isLineBreak_iff {c : Char} :
    isLineBreak c = true ↔ c ∈ '\n' :: '\r' :: rareBreaks := by
  constructor
  · intro h
    have hnumber : c.toNat ∈ [0x0A, 0x0B, 0x0C, 0x0D, 0x1C, 0x1D, 0x1E, 0x85, 0x2028, 0x2029] := by
      simp [isLineBreak] at h ⊢
      omega
    have all : ∀ n ∈ [0x0A, 0x0B, 0x0C, 0x0D, 0x1C, 0x1D, 0x1E, 0x85, 0x2028, 0x2029],
        Char.ofNat n ∈ '\n' :: '\r' :: rareBreaks := by
      decide
    rw [← Char.ofNat_toNat c]
    exact all _ hnumber
  · have all : ('\n' :: '\r' :: rareBreaks).all isLineBreak = true := by decide
    exact List.all_eq_true.1 all c

theorem OrdinaryBreaks.of_append {xs cs : List Char} (h : OrdinaryBreaks (xs ++ cs)) :
    OrdinaryBreaks cs where
  rare c hc := h.rare c (List.mem_append_right xs hc)
  returns n hn := by
    have hlater (k : Nat) : (xs ++ cs)[xs.length + k]? = cs[k]? := by
      rw [List.getElem?_append_right (Nat.le_add_right _ k), Nat.add_sub_cancel_left]
    rw [← hlater] at hn ⊢
    exact h.returns _ hn

theorem Unbroken.cons {c : Char} {line : List Char} (hc : isLineBreak c = false)
    (h : Unbroken line) : Unbroken (c :: line) :=
  List.forall_mem_cons.2 ⟨hc, h⟩

theorem ne_of_not_lineBreak {c : Char} (hc : isLineBreak c = false) : c ≠ '\n' ∧ c ≠ '\r' := by
  constructor <;> rintro rfl <;> cases hc

/-- A character that is no boundary belongs to the first line. -/
theorem HasLines.cons {c : Char} (hc : isLineBreak c = false) {cs : List Char}
    {lines : List (List Char)} (h : HasLines cs lines) :
    HasLines (c :: cs) (consToFirst c lines) := by
  cases h with
  | nil => exact .last (.cons hc fun _ h => absurd h List.not_mem_nil) (List.cons_ne_nil c [])
  | last h _ => exact .last (h.cons hc) (List.cons_ne_nil c cs)
  | ended h ending hrest => exact .ended (h.cons hc) ending hrest

theorem LineEnd.length_pos (e : LineEnd) : 0 < e.chars.length := by cases e <;> decide

/-- A text with ordinary breaks begins with a character of a line or with an end. -/
theorem OrdinaryBreaks.begin {c : Char} {cs : List Char} (h : OrdinaryBreaks (c :: cs)) :
    isLineBreak c = false ∨ ∃ (ending : LineEnd) (rest : List Char),
      c :: cs = ending.chars ++ rest := by
  rcases hc : isLineBreak c with - | -
  · exact .inl rfl
  refine .inr ?_
  rcases List.mem_cons.1 (isLineBreak_iff.1 hc) with rfl | hmem
  · exact ⟨.feed, cs, rfl⟩
  rcases List.mem_cons.1 hmem with rfl | hrare
  · -- the line feed that the carriage return needs
    have hfeed : cs[0]? = some '\n' := h.returns 0 rfl
    rw [← List.head?_eq_getElem?, List.head?_eq_some_iff] at hfeed
    obtain ⟨rest, rfl⟩ := hfeed
    exact ⟨.returnFeed, rest, rfl⟩
  · exact absurd hrare (h.rare c List.mem_cons_self)

/-- A text with ordinary breaks has lines. -/
theorem exists_hasLines {cs : List Char} (h : OrdinaryBreaks cs) :
    ∃ lines, HasLines cs lines := by
  match cs with
  | [] => exact ⟨[], .nil⟩
  | c :: cs =>
    rcases h.begin with hc | ⟨ending, rest, heq⟩
    · have hrest : OrdinaryBreaks ([c] ++ cs) := h
      obtain ⟨lines, hlines⟩ := exists_hasLines hrest.of_append
      exact ⟨_, hlines.cons hc⟩
    · have hshorter : rest.length ≤ cs.length := by
        have hlength := congrArg List.length heq
        have hpos := ending.length_pos
        rw [List.length_cons, List.length_append] at hlength
        omega
      rw [heq] at h ⊢
      obtain ⟨lines, hlines⟩ := exists_hasLines h.of_append
      exact ⟨[] :: lines, .ended (fun _ h => absurd h List.not_mem_nil) ending hlines⟩
termination_by cs.length

/-! ### Ways of cutting -/

/-- The lines of a text, each with the boundary that ends it. -/
def linesWithEnds : List Char → List (List Char)
  | [] => []
  | [c] => [[c]]
  | c :: d :: cs =>
    if isLineBreak c then
      if c = '\r' && d = '\n' then [c, d] :: linesWithEnds cs else [c] :: linesWithEnds (d :: cs)
    else consToFirst c (linesWithEnds (d :: cs))

/-- A way of cutting a text that respects the ends of its lines, and keeps some of their
characters or none. -/
structure CutsAtEnds (cut : List Char → List (List Char)) : Prop where
  nil : cut [] = []
  cons : ∀ c cs, isLineBreak c = false → cut (c :: cs) = consToFirst c (cut cs)
  ending : ∀ (e : LineEnd) (cs : List Char), ∃ kept ⊆ e.chars, cut (e.chars ++ cs) = kept :: cut cs

/-- The characters of a line are put in front of what comes after them. -/
theorem CutsAtEnds.append {cut : List Char → List (List Char)} (hcut : CutsAtEnds cut)
    {line : List Char} (h : Unbroken line) (cs : List Char) :
    cut (line ++ cs) = line.foldr consToFirst (cut cs) := by
  induction line with
  | nil => rfl
  | cons c line ih =>
    obtain ⟨hc, hline⟩ := List.forall_mem_cons.1 h
    rw [List.cons_append, hcut.cons c _ hc, ih hline, List.foldr_cons]

theorem cutsAtEnds_splitLines : CutsAtEnds splitLines where
  nil := rfl
  cons c cs hc := by cases cs <;> simp [splitLines, hc, consToFirst]
  ending e cs := by
    refine ⟨[], List.nil_subset _, ?_⟩
    cases e with
    | feed => cases cs <;> rfl
    | returnFeed => rfl

theorem cutsAtEnds_linesWithEnds : CutsAtEnds linesWithEnds where
  nil := rfl
  cons c cs hc := by cases cs <;> simp [linesWithEnds, hc, consToFirst]
  ending e cs := by
    refine ⟨e.chars, List.Subset.refl _, ?_⟩
    cases e with
    | feed => cases cs <;> rfl
    | returnFeed => rfl

theorem cutsAtEnds_streamLines : CutsAtEnds streamLines where
  nil := rfl
  cons c cs hc := by rw [streamLines, if_neg (ne_of_not_lineBreak hc).1]
  ending e cs := by
    refine ⟨e.chars, List.Subset.refl _, ?_⟩
    cases e <;> rfl

/-! ### Other ends for the same lines -/

/-- A text in which every line feed has a carriage return before it; the first one may have
it from what stands before the text. -/
def addReturns (afterReturn : Bool) : List Char → List Char
  | [] => []
  | c :: cs =>
    if c = '\n' && !afterReturn then '\r' :: '\n' :: addReturns false cs
    else c :: addReturns (c = '\r') cs

/-- A text in which every bare line feed is replaced by a carriage return and a line
feed. -/
def withReturns (cs : List Char) : List Char := addReturns false cs

/-- A way of writing every line end of a text as the same one. -/
structure WritesEnds (write : List Char → List Char) (ending : LineEnd) : Prop where
  nil : write [] = []
  cons : ∀ c cs, isLineBreak c = false → write (c :: cs) = c :: write cs
  ending : ∀ (e : LineEnd) (cs : List Char), write (e.chars ++ cs) = ending.chars ++ write cs

theorem WritesEnds.append {write : List Char → List Char} {e : LineEnd} (hwrite : WritesEnds write e)
    {line : List Char} (h : Unbroken line) (cs : List Char) :
    write (line ++ cs) = line ++ write cs := by
  induction line with
  | nil => rfl
  | cons c line ih =>
    obtain ⟨hc, hline⟩ := List.forall_mem_cons.1 h
    rw [List.cons_append, hwrite.cons c _ hc, ih hline, List.cons_append]

/-- The lines stay as they are. -/
theorem WritesEnds.hasLines {write : List Char → List Char} {e : LineEnd}
    (hwrite : WritesEnds write e) {cs : List Char} {lines : List (List Char)}
    (h : HasLines cs lines) : HasLines (write cs) lines := by
  induction h with
  | nil =>
    rw [hwrite.nil]
    exact .nil
  | @last line h hne =>
    have hsame := hwrite.append h []
    rw [List.append_nil, hwrite.nil, List.append_nil] at hsame
    rw [hsame]
    exact .last h hne
  | ended h ending _ ih =>
    rw [hwrite.append h, hwrite.ending]
    exact .ended h e ih

theorem writesEnds_withReturns : WritesEnds withReturns .returnFeed where
  nil := rfl
  cons c cs hc := by
    obtain ⟨hfeed, hreturn⟩ := ne_of_not_lineBreak hc
    simp only [withReturns, addReturns, hfeed, hreturn, decide_false, Bool.false_and,
      Bool.false_eq_true, if_false]
  ending e cs := by cases e <;> rfl

theorem writesEnds_normalizeNewlines : WritesEnds normalizeNewlines .feed where
  nil := rfl
  cons c cs hc := normalizeNewlines_cons_of_ne (ne_of_not_lineBreak hc).2 cs
  ending e cs := by
    cases e with
    | feed => exact normalizeNewlines_cons_of_ne (by decide) cs
    | returnFeed => rfl

end StartupReport.Text
