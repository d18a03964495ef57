/-
StartupReport/Proofs/Properties/PlainReader.lean

What the reader makes of an escaped text.

Escaping commutes with every stage of the reader: with the cutting of lines,
with the dropping of line ends and blanks, with the splitting of an entry.  No
escaped line goes on in the next one, and unescaping undoes the escapes in the
end.  So the reader does to an escaped text what `readPlain` does to the text
itself: a reader without escapes and without continued lines, to which only
the blanks up to U+00FF are blanks, because all others are written as code
units (`parse_escape`, `parseStream_escape`).

Two facts about `readPlain` follow without looking at the text that was
escaped: no value that is read has a line end in it or a blank up to U+00FF in
front (`survives_of_mem_readPlain`).
-/
import Mathlib.Data.List.DropRight
import StartupReport.Proofs.Properties.EscapeLaws
import StartupReport.Properties.Reader

namespace StartupReport.Properties

open Text (isBlank trimStart dropEndWhile dropEndWhile_append streamLines normalizeNewlines
  consToFirst units unitsOf hexDigitChar lowerHex)

/-! ### A reader without escapes -/

/-- A blank that has a byte, and so is written as itself. -/
def isByteBlank (c : Char) : Bool := isBlank c && Text.Latin1.holds c

example : (List.range 256).filter (fun n => isByteBlank (Char.ofNat n))
    = [9, 10, 11, 12, 13, 28, 29, 30, 31, 32, 133, 160] := by decide

/-- A physical line without its line end and its leading blanks. -/
def bareLine (line : List Char) : List Char := (withoutLineEnd line).dropWhile isByteBlank

/-- The logical line of a physical one, if it has content. -/
def plainLine? (line : List Char) : Option (List Char) :=
  match bareLine line with
  | [] => none
  | c :: cs => if isCommentMark c then none else some (c :: cs)

/-- A character at which a key ends. -/
def endsKey (c : Char) : Bool := isSeparator c || isByteBlank c

/-- What follows blanks, at most one separator, and blanks again. -/
def afterPlainGap (cs : List Char) : List Char :=
  match cs.dropWhile isByteBlank with
  | [] => []
  | c :: rest => if isSeparator c then rest.dropWhile isByteBlank else c :: rest

/-- The key of a line without escapes. -/
def plainKey (line : List Char) : List Char := line.takeWhile (!endsKey ·)

/-- The value of a line without escapes. -/
def plainValue (line : List Char) : List Char := afterPlainGap (line.dropWhile (!endsKey ·))

/-- The keys and values of lines without escapes. -/
def readPlain (lines : List (List Char)) : Properties :=
  Entries.ofPairs ((lines.filterMap plainLine?).map fun line =>
    (String.ofList (plainKey line), String.ofList (plainValue line)))

/-! ### The first character of a piece -/

/-- A character that is not written as itself is written with a backslash in front. -/
theorem escapeChar_head (c : Char) :
    (c ≠ '\\' ∧ Text.Latin1.holds c = true ∧ escapeChar c = [c]) ∨
    ((c = '\\' ∨ 0xFF < c.toNat) ∧ ∃ ds, escapeChar c = '\\' :: ds) := by
  obtain ⟨hb, h⟩ | ⟨hb, hle, h⟩ | ⟨hlarge, h⟩ := escapeChar_cases c
  · exact .inr ⟨.inl hb, _, h⟩
  · exact .inl ⟨hb, by simpa [Text.Latin1.holds] using hle, h⟩
  · obtain ⟨u, us, hu⟩ := List.exists_cons_of_ne_nil (unitsOf_ne_nil c)
    exact .inr ⟨.inr hlarge, _, by rw [h, hu, List.flatMap_cons]; rfl⟩

/-- Such a character is no blank, no separator and no comment mark. -/
theorem plain_of_backslash_or_large {c : Char} (h : c = '\\' ∨ 0xFF < c.toNat) :
    isByteBlank c = false ∧ isSeparator c = false ∧ isCommentMark c = false := by
  rcases h with rfl | h
  · decide
  · have hne : ∀ d : Char, d.toNat ≤ 0xFF → (c == d) = false := by
      intro d hd
      refine beq_eq_false_iff_ne.2 ?_
      rintro rfl
      omega
    have hbyte : Text.Latin1.holds c = false := by simpa [Text.Latin1.holds] using h
    exact ⟨by simp [isByteBlank, hbyte], by simp [isSeparator, hne _ (by decide : '='.toNat ≤ 0xFF),
      hne _ (by decide : ':'.toNat ≤ 0xFF)], by simp [isCommentMark,
      hne _ (by decide : '#'.toNat ≤ 0xFF), hne _ (by decide : '!'.toNat ≤ 0xFF)]⟩

/-! ### Stages of the reader on an escaped text -/

theorem trimStart_escape (cs : List Char) :
    trimStart (escape cs) = escape (cs.dropWhile isByteBlank) := by
  induction cs with
  | nil => rfl
  | cons c cs ih =>
    obtain ⟨-, hbyte, h⟩ | ⟨hc, ds, h⟩ := escapeChar_head c
    · by_cases hblank : isBlank c = true
      · rw [List.dropWhile_cons_of_pos (by simp [isByteBlank, hblank, hbyte]), ← ih, escape_cons,
          h, List.singleton_append, trimStart, List.dropWhile_cons_of_pos hblank]
        rfl
      · rw [List.dropWhile_cons_of_neg (by simp [isByteBlank, hblank]), escape_cons, h,
          List.singleton_append, trimStart, List.dropWhile_cons_of_neg hblank]
    -- a blank beyond U+00FF is one of these: it begins with a backslash and stays
    · rw [List.dropWhile_cons_of_neg (by simp [(plain_of_backslash_or_large hc).1]), escape_cons,
        h, List.cons_append, trimStart, List.dropWhile_cons_of_neg (by decide)]

theorem dropEndWhile_escapeChar (c : Char) :
    dropEndWhile isLineEnd (escapeChar c) = if isLineEnd c then [] else escapeChar c := by
  by_cases hc : isLineEnd c = true
  · rw [if_pos hc]
    simp only [isLineEnd, Bool.or_eq_true, beq_iff_eq] at hc
    rcases hc with rfl | rfl <;> rfl
  · rw [if_neg hc]
    refine Text.dropEndWhile_of_forall fun d hd => Bool.eq_false_iff.2 fun hend => hc ?_
    exact (mem_escapeChar_of_isLineEnd hend).1 hd ▸ hend

theorem withoutLineEnd_escape (cs : List Char) :
    withoutLineEnd (escape cs) = escape (withoutLineEnd cs) := by
  unfold withoutLineEnd
  induction cs with
  | nil => rfl
  | cons c cs ih =>
    rw [escape_cons, dropEndWhile_append, ih, dropEndWhile_escapeChar, dropEndWhile]
    -- the first character is only looked at if nothing is left behind it
    rcases dropEndWhile isLineEnd cs with - | ⟨d, ds⟩
    · rw [escape_nil, if_pos rfl]
      by_cases hc : isLineEnd c = true
      · rw [if_pos hc, if_pos hc, escape_nil]
      · rw [if_neg hc, if_neg hc, escape_cons, escape_nil, List.append_nil]
    · rw [if_neg (mt escape_eq_nil_iff.1 (List.cons_ne_nil _ _)), ← escape_cons]

/-! ### The key of an escaped line -/

theorem splitKey_hexDigitChars {ds : List Nat} (hds : ∀ d ∈ ds, d < 16) (rest : List Char) :
    splitKey (ds.map hexDigitChar ++ rest)
      = (ds.map hexDigitChar ++ (splitKey rest).1, (splitKey rest).2) := by
  induction ds with
  | nil => rfl
  | cons d ds ih =>
    obtain ⟨-, hblank, hsep, -, hb⟩ := hexDigitChar_plain (hds d List.mem_cons_self)
    rw [List.map_cons, List.cons_append, splitKey_of_go hb (by rw [hblank, hsep]; rfl),
      ih fun e he => hds e (List.mem_cons_of_mem _ he)]
    rfl

/-- Written code units belong to the key as a whole. -/
theorem splitKey_units (us : List UInt16) (rest : List Char) :
    splitKey (us.flatMap escapeUnit ++ rest)
      = (us.flatMap escapeUnit ++ (splitKey rest).1, (splitKey rest).2) := by
  induction us with
  | nil => rfl
  | cons u us ih =>
    have hdigit : ∀ n, n % 16 < 16 := fun n => Nat.mod_lt n (by decide)
    have hds : ∀ d ∈ [u.toNat / 16 / 16 / 16 % 16, u.toNat / 16 / 16 % 16, u.toNat / 16 % 16,
        u.toNat % 16], d < 16 := by
      simp [hdigit]
    have hhex := splitKey_hexDigitChars hds (us.flatMap escapeUnit ++ rest)
    rw [ih] at hhex
    rw [List.flatMap_cons, List.append_assoc, escapeUnit, List.cons_append, List.cons_append,
      splitKey_backslash, lowerHex_four]
    simp only [List.map_cons, List.map_nil] at hhex
    rw [hhex]
    simp

theorem splitKey_escape (cs : List Char) :
    splitKey (escape cs)
      = (escape (cs.takeWhile (!endsKey ·)), escape (cs.dropWhile (!endsKey ·))) := by
  induction cs with
  | nil => rfl
  | cons c cs ih =>
    by_cases hend : endsKey c = true
    · -- the key ends here, and `c` is written as itself
      obtain ⟨hb, hbyte, h⟩ | ⟨hc, -⟩ := escapeChar_head c
      · have hstop : (isSeparator c || isBlank c) = true := by
          simpa [endsKey, isByteBlank, hbyte] using hend
        rw [List.takeWhile_cons_of_neg (by simp [hend]), List.dropWhile_cons_of_neg (by simp [hend]),
          escape_cons, h, List.singleton_append, splitKey_of_stop hb hstop, escape_nil]
      · obtain ⟨hblank, hsep, -⟩ := plain_of_backslash_or_large hc
        simp [endsKey, hblank, hsep] at hend
    · rw [List.takeWhile_cons_of_pos (by simp [hend]), List.dropWhile_cons_of_pos (by simp [hend]),
        escape_cons, escape_cons]
      -- the key goes on past two backslashes, a plain character, or code units
      obtain ⟨rfl, h⟩ | ⟨hb, hle, h⟩ | ⟨-, h⟩ := escapeChar_cases c
      · rw [h]
        simp only [List.cons_append, List.nil_append]
        rw [splitKey_backslash, ih]
      · have hbyte : Text.Latin1.holds c = true := by simpa [Text.Latin1.holds] using hle
        have hgo : (isSeparator c || isBlank c) = false := by
          simpa [endsKey, isByteBlank, hbyte] using hend
        rw [h, List.singleton_append, splitKey_of_go hb hgo, ih, List.singleton_append]
      · rw [h, splitKey_units, ih]

theorem afterGap_escape (cs : List Char) : afterGap (escape cs) = escape (afterPlainGap cs) := by
  rw [afterGap, trimStart_escape, afterPlainGap]
  rcases cs.dropWhile isByteBlank with - | ⟨c, rest⟩
  · rfl
  · rw [escape_cons]
    obtain ⟨-, -, h⟩ | ⟨hc, ds, h⟩ := escapeChar_head c
    · rw [h, List.singleton_append]
      by_cases hsep : isSeparator c = true
      · simp only [hsep, if_true, trimStart_escape]
      · simp [hsep, escape_cons, h]
    · have hback : isSeparator '\\' = false := by decide
      obtain ⟨-, hsep, -⟩ := plain_of_backslash_or_large hc
      simp [h, hsep, hback, escape_cons]

/-- An escaped line holds the key and the value of the line. -/
theorem readEntry_escape (line : List Char) :
    readEntry (escape line)
      = (String.ofList (plainKey line), String.ofList (plainValue line)) := by
  have hback (cs : List Char) : unescape (escape cs) = cs := by
    simpa using unescape_escape_append cs []
  rw [readEntry, splitEntry, splitKey_escape]
  simp only [afterGap_escape, hback]
  rfl

/-! ### Lines of an escaped text -/

/-- Escaping neither adds nor removes a line feed. -/
theorem streamLines_escape (cs : List Char) :
    streamLines (escape cs) = (streamLines cs).map escape := by
  induction cs with
  | nil => rfl
  | cons c cs ih =>
    rw [escape_cons]
    by_cases hc : c = '\n'
    · subst hc
      show streamLines ('\n' :: escape cs) = _
      rw [streamLines, if_pos rfl, streamLines, if_pos rfl, ih, List.map_cons]
      rfl
    · have hmem : '\n' ∉ escapeChar c := fun h =>
        hc ((mem_escapeChar_of_isLineEnd (by decide)).1 h).symm
      rw [Text.streamLines_append_of_not_mem hmem, ih, streamLines, if_neg hc]
      rcases streamLines cs with - | ⟨l, ls⟩
      · rw [List.map_nil, Text.foldr_consToFirst_nil (escapeChar_ne_nil c), consToFirst,
          List.map_singleton, escape_cons, escape_nil, List.append_nil]
      · rw [List.map_cons, Text.foldr_consToFirst_cons, consToFirst, List.map_cons, escape_cons]

theorem normalizeNewlines_escape (cs : List Char) :
    normalizeNewlines (escape cs) = escape (normalizeNewlines cs) := by
  -- only a carriage return is looked at together with what follows it
  have hstep : ∀ c cs, c ≠ '\r' → normalizeNewlines (escape (c :: cs))
      = escapeChar c ++ normalizeNewlines (escape cs) := by
    intro c cs hc
    rw [escape_cons, Text.normalizeNewlines_append_of_not_mem fun h =>
      hc ((mem_escapeChar_of_isLineEnd (by decide)).1 h).symm]
  fun_induction normalizeNewlines cs with
  | case1 => rfl
  | case2 => rfl
  | case3 c hc =>
    rw [hstep c [] hc, escape_cons]
    rfl
  | case4 cs ih =>
    show '\n' :: normalizeNewlines (escape cs) = _
    rw [ih]
    rfl
  | case5 d cs hd ih =>
    obtain ⟨e, es, he⟩ := List.exists_cons_of_ne_nil (escapeChar_ne_nil d)
    have hne : e ≠ '\n' := by
      rintro rfl
      exact hd ((mem_escapeChar_of_isLineEnd (by decide)).1 (he ▸ List.mem_cons_self)).symm
    rw [escape_cons, he, List.cons_append] at ih
    show normalizeNewlines ('\r' :: escape (d :: cs)) = '\n' :: escape _
    rw [escape_cons, he, List.cons_append, normalizeNewlines, if_pos rfl, if_neg hne, ih]
  | case6 c d cs hc ih => rw [hstep c _ hc, ih, escape_cons]

/-! ### Logical lines of an escaped text -/

theorem isSkipped_escape (line : List Char) :
    isSkipped (escape (withoutLineEnd line)) = (plainLine? line).isNone := by
  rw [isSkipped, trimStart_escape, plainLine?, bareLine]
  rcases (withoutLineEnd line).dropWhile isByteBlank with - | ⟨c, cs⟩
  · rfl
  · rw [escape_cons]
    obtain ⟨-, -, h⟩ | ⟨hc, ds, h⟩ := escapeChar_head c
    · by_cases hmark : isCommentMark c = true <;> simp [h, hmark]
    · have hback : isCommentMark '\\' = false := by decide
      obtain ⟨-, -, hmark⟩ := plain_of_backslash_or_large hc
      simp [h, hmark, hback]

theorem bareLine_of_plainLine? {line l : List Char} (h : plainLine? line = some l) :
    bareLine line = l := by
  unfold plainLine? at h
  split at h
  · cases h
  · next hl =>
    split at h
    · cases h
    · exact hl.trans (Option.some.inj h)

/-- Each escaped line is a logical line of its own, unless it is skipped. -/
theorem logicalLines_escape (lines : List (List Char)) :
    logicalLines none (lines.map escape) = (lines.filterMap plainLine?).map escape := by
  induction lines with
  | nil => rfl
  | cons line lines ih =>
    rw [List.map_cons, logicalLines, withoutLineEnd_escape, isSkipped_escape]
    rcases hl : plainLine? line with - | l
    · simpa [hl] using ih
    · have hbare := bareLine_of_plainLine? hl
      rw [bareLine] at hbare
      simp [hl, ih, trimStart_escape, hbare, isContinued_escape]

/-- **The reader on escaped lines** is the reader without escapes on the lines. -/
theorem parse_escape (lines : List (List Char)) :
    parse (lines.map escape) = readPlain lines := by
  rw [parse, logicalLines_escape, readPlain, List.map_map]
  exact congrArg Entries.ofPairs (List.map_congr_left fun line _ => readEntry_escape line)

theorem parseStream_escape (cs : List Char) :
    parseStream (normalizeNewlines (escape cs))
      = readPlain (streamLines (normalizeNewlines cs)) := by
  rw [parseStream, normalizeNewlines_escape, streamLines_escape, parse_escape]

/-! ### Values that can be read -/

/-- A value that comes back from the line it is written on: there is no line end
in it, and no blank up to U+00FF in front of it. -/
def Survives (value : List Char) : Prop :=
  '\r' ∉ value ∧ '\n' ∉ value ∧ ∀ c ∈ value.head?, isByteBlank c = false

instance (value : List Char) : Decidable (Survives value) :=
  have : Decidable (∀ c ∈ value.head?, isByteBlank c = false) := Option.decidableForallMem _
  inferInstanceAs (Decidable (_ ∧ _ ∧ _))

theorem head?_dropWhile_isByteBlank {cs : List Char} {c : Char}
    (h : c ∈ (cs.dropWhile isByteBlank).head?) : isByteBlank c = false := by
  have hnot := List.head?_dropWhile_not isByteBlank cs
  rw [h] at hnot
  simpa using hnot

theorem afterPlainGap_suffix (cs : List Char) : afterPlainGap cs <:+ cs := by
  have hdrop : cs.dropWhile isByteBlank <:+ cs := List.dropWhile_suffix _
  rw [afterPlainGap]
  split
  · exact List.nil_suffix
  · next c rest hcs =>
    rw [hcs] at hdrop
    split
    · exact ((List.dropWhile_suffix _).trans (List.suffix_cons c rest)).trans hdrop
    · exact hdrop

theorem head?_afterPlainGap {cs : List Char} {c : Char} (h : c ∈ (afterPlainGap cs).head?) :
    isByteBlank c = false := by
  rw [afterPlainGap] at h
  split at h
  · cases h
  · next d rest hcs =>
    split at h
    · exact head?_dropWhile_isByteBlank h
    · exact head?_dropWhile_isByteBlank (hcs ▸ h)

theorem survives_plainValue {line : List Char} (hcr : '\r' ∉ line) (hlf : '\n' ∉ line) :
    Survives (plainValue line) := by
  have hsub : plainValue line ⊆ line :=
    ((afterPlainGap_suffix _).trans (List.dropWhile_suffix _)).subset
  exact ⟨fun h => hcr (hsub h), fun h => hlf (hsub h), fun c hc => head?_afterPlainGap hc⟩

theorem withoutLineEnd_subset (line : List Char) : withoutLineEnd line ⊆ line := by
  rw [withoutLineEnd, Text.dropEndWhile_eq_reverse]
  exact List.IsPrefix.subset <| List.rdropWhile_prefix isLineEnd line

/-- The bare form of a line of a stream has no line feed in it. -/
theorem not_mem_withoutLineEnd {cs line : List Char} (h : line ∈ streamLines cs) :
    '\n' ∉ withoutLineEnd line := by
  have hinit := Text.not_mem_dropLast_of_mem_streamLines h
  rcases List.eq_nil_or_concat line with rfl | ⟨init, c, rfl⟩
  · exact List.not_mem_nil
  · rw [List.concat_eq_append] at hinit ⊢
    rw [List.dropLast_concat] at hinit
    rw [withoutLineEnd, Text.dropEndWhile_append_singleton]
    split
    · exact fun hmem => hinit (withoutLineEnd_subset init hmem)
    · next hend =>
      intro hmem
      rcases List.mem_append.1 hmem with hmem | hmem
      · exact hinit hmem
      · exact hend (List.mem_singleton.1 hmem ▸ by decide)

/-- Whatever is read from a text without escapes survives. -/
theorem survives_of_mem_readPlain {cs : List Char} {e : String × String}
    (h : e ∈ readPlain (streamLines (normalizeNewlines cs))) : Survives e.2.toList := by
  obtain ⟨l, hl, rfl⟩ := List.mem_map.1 (Entries.mem_ofPairs h)
  obtain ⟨line, hline, hbare⟩ := List.mem_filterMap.1 hl
  obtain rfl := bareLine_of_plainLine? hbare
  have hsub : bareLine line ⊆ withoutLineEnd line := (List.dropWhile_suffix _).subset
  have hcr : '\r' ∉ line := by
    intro hmem
    have hall : '\r' ∈ (streamLines (normalizeNewlines cs)).flatten :=
      List.mem_flatten.2 ⟨line, hline, hmem⟩
    -- the lines make up a text in which newlines are normalized
    rw [Text.flatten_streamLines] at hall
    exact Text.not_mem_normalizeNewlines cs hall
  rw [String.toList_ofList]
  exact survives_plainValue
    (fun hmem => hcr (withoutLineEnd_subset line (hsub hmem)))
    (fun hmem => not_mem_withoutLineEnd hline (hsub hmem))

end StartupReport.Properties
