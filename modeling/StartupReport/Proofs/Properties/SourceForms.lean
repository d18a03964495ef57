/-
StartupReport/Proofs/Properties/SourceForms.lean

The forms in which a properties text is given.

The reader takes the end off each line itself, so lines count as they are without it
(`logicalLines_map_withoutLineEnd`), and a text that is laid out in lines has the
properties of these lines however it is cut (`parse_cut`).

`ReadsAs` collects the forms: the text itself, a stream of it, its lines without their
ends or with them, and its bytes in a file.  If no line boundary in the text is unusual,
all of them read alike, and so they do if every line feed is preceded by a carriage
return (`exists_readsAs`).
-/
import Mathlib.Data.List.DropRight
import StartupReport.Properties.Reader
import StartupReport.Proofs.Text.LineCutting

namespace StartupReport.Properties

open Text (CutsAtEnds HasLines LineEnd OrdinaryBreaks Unbroken cutsAtEnds_linesWithEnds
  cutsAtEnds_splitLines cutsAtEnds_streamLines exists_hasLines linesWithEnds splitLines
  withReturns writesEnds_normalizeNewlines writesEnds_withReturns)

/-! ### Lines without their ends -/

/-- What is left of an end is taken off, and nothing else. -/
theorem withoutLineEnd_append {line kept : List Char} (h : Unbroken line) {e : LineEnd}
    (hkept : kept ⊆ e.chars) : withoutLineEnd (line ++ kept) = line := by
  have hends : ∀ c ∈ kept, isLineEnd c = true := by
    have all : ∀ c ∈ e.chars, isLineEnd c = true := by cases e <;> simp [LineEnd.chars, isLineEnd]
    exact fun c hc => all c (hkept hc)
  have hline : ∀ c ∈ line, isLineEnd c = false := by
    intro c hc
    obtain ⟨hfeed, hreturn⟩ := Text.ne_of_not_lineBreak (h c hc)
    simp only [isLineEnd, Bool.or_eq_false_iff, beq_eq_false_iff_ne]
    exact ⟨hreturn, hfeed⟩
  have hdrop : Text.dropEndWhile isLineEnd kept = [] := by
    rw [Text.dropEndWhile_eq_reverse]
    exact List.rdropWhile_eq_nil_iff.2 hends
  rw [withoutLineEnd, Text.dropEndWhile_append, if_pos hdrop, Text.dropEndWhile_of_forall hline]

/-- Every way of cutting a text gives its lines, up to their ends. -/
theorem map_withoutLineEnd_cut {cut : List Char → List (List Char)} (hcut : CutsAtEnds cut)
    {cs : List Char} {lines : List (List Char)} (h : HasLines cs lines) :
    (cut cs).map withoutLineEnd = lines := by
  induction h with
  | nil => rw [hcut.nil, List.map_nil]
  | @last line h hne =>
    have hone := hcut.append h []
    rw [List.append_nil, hcut.nil, Text.foldr_consToFirst_nil hne] at hone
    have hbare := withoutLineEnd_append h (List.nil_subset LineEnd.feed.chars)
    rw [List.append_nil] at hbare
    rw [hone, List.map_singleton, hbare]
  | @ended line cs lines h ending _ ih =>
    obtain ⟨kept, hkept, hends⟩ := hcut.ending ending cs
    rw [hcut.append h, hends, Text.foldr_consToFirst_cons, List.map_cons, ih,
      withoutLineEnd_append h hkept]

theorem withoutLineEnd_withoutLineEnd (line : List Char) :
    withoutLineEnd (withoutLineEnd line) = withoutLineEnd line := by
  simp only [withoutLineEnd, Text.dropEndWhile_eq_reverse]
  exact List.rdropWhile_idempotent isLineEnd line

/-- The reader does not look at the ends of lines. -/
theorem logicalLines_map_withoutLineEnd (begun : Option (List Char)) (lines : List (List Char)) :
    logicalLines begun (lines.map withoutLineEnd) = logicalLines begun lines := by
  induction lines generalizing begun with
  | nil => rfl
  | cons line lines ih =>
    simp only [List.map_cons, logicalLines, withoutLineEnd_withoutLineEnd, ih]

/-- A text that is laid out in lines has their properties, however it is cut. -/
theorem parse_cut {cut : List Char → List (List Char)} (hcut : CutsAtEnds cut) {cs : List Char}
    {lines : List (List Char)} (h : HasLines cs lines) : parse (cut cs) = parse lines := by
  rw [parse, parse, ← map_withoutLineEnd_cut hcut h, logicalLines_map_withoutLineEnd]

/-! ### Forms of a text -/

/-- A text has the same properties in all forms in which it is given.  In a file it can be
given if each of its characters has a byte. -/
structure ReadsAs (cs : List Char) (ps : Properties) : Prop where
  text : parseText cs = ps
  stream : parseStream cs = ps
  bareLines : parse (splitLines cs) = ps
  endedLines : parse (linesWithEnds cs) = ps
  bytes : (∀ c ∈ cs, c.toNat ≤ 0xFF) →
    ∃ bytes, Text.Latin1.encode? cs = some bytes ∧ parseBytes bytes = ps

theorem readsAs_of_hasLines {cs : List Char} {lines : List (List Char)} (h : HasLines cs lines) :
    ReadsAs cs (parse lines) where
  text := parse_cut cutsAtEnds_splitLines h
  stream := parse_cut cutsAtEnds_streamLines h
  bareLines := parse_cut cutsAtEnds_splitLines h
  endedLines := parse_cut cutsAtEnds_linesWithEnds h
  bytes := by
    intro hbytes
    have hencode : Text.Latin1.encode? cs = some (cs.map fun c => UInt8.ofNat c.toNat) :=
      if_pos (List.all_eq_true.2 fun c hc => decide_eq_true (hbytes c hc))
    refine ⟨_, hencode, ?_⟩
    rw [parseBytes, Text.Latin1.decode_of_encode? hencode]
    exact parse_cut cutsAtEnds_streamLines (writesEnds_normalizeNewlines.hasLines h)

/-- **The form does not matter.**  A text with ordinary breaks reads alike in all forms, and
as before if every bare line feed in it is replaced by a carriage return and a line
feed. -/
theorem exists_readsAs {cs : List Char} (h : OrdinaryBreaks cs) :
    ∃ ps, ReadsAs cs ps ∧ ReadsAs (withReturns cs) ps := by
  obtain ⟨lines, hlines⟩ := exists_hasLines h
  exact ⟨parse lines, readsAs_of_hasLines hlines,
    readsAs_of_hasLines (writesEnds_withReturns.hasLines hlines)⟩

/-- A key that goes on behind one kind of line end, and a value behind the other. -/
def mixedEnds : List Char := "ab\\\r\n  c=1\n\n! no\r\nd=\\\n2".toList

theorem readsAs_mixedEnds : OrdinaryBreaks mixedEnds ∧
    ReadsAs mixedEnds [("abc", "1"), ("d", "2")] ∧
    ReadsAs (withReturns mixedEnds) [("abc", "1"), ("d", "2")] := by
  have hordinary : OrdinaryBreaks mixedEnds := by decide +kernel
  have htext : parseText mixedEnds = [("abc", "1"), ("d", "2")] := by decide
  obtain ⟨ps, hsame, hreturns⟩ := exists_readsAs hordinary
  obtain rfl : [("abc", "1"), ("d", "2")] = ps := htext.symm.trans hsame.text
  exact ⟨hordinary, hsame, hreturns⟩

end StartupReport.Properties
