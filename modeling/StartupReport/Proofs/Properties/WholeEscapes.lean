/-
StartupReport/Proofs/Properties/WholeEscapes.lean

No escape is cut in two.

Three parts of the reader keep track of backslashes, each in its own way: lines are joined
by the number of backslashes at their end, the key is found by going over pairs, and keys
and values are read piece by piece.  They agree because all of them keep to one reading of
the line, the symbols from left to right.

What ties them together is that a text ends between two escapes (`EscapeBegins`).  Logical
lines do so (`escapeBegins_of_mem_logicalLines`), and behind such a text the symbols begin
anew (`symbols_append`).  So the key and the value of a line do so as well
(`escapeBegins_splitKey`), the places that are passed over on the way to the end of the key
are those of the second characters of pairs (`passesOver_iff`), and every backslash is read
together with what follows it (`readsInPieces_of_escapeBegins`).

Main result: `exists_splitsWhole`, which says all this of every logical line.
-/
import StartupReport.Properties.Reader
import StartupReport.Proofs.Properties.EntryParts
import StartupReport.Proofs.Properties.LineGroups
import StartupReport.Proofs.Properties.UnitEscapes

namespace StartupReport.Properties

open Text (Numeral isBlank not_mem_of_numeral unitsOf)

/-! ### Texts that end between two escapes -/

theorem escapeBegins_iff_isContinued {text : List Char} :
    EscapeBegins text ↔ isContinued text = false := by
  rw [EscapeBegins, isContinued, beq_eq_false_iff_ne]
  omega

theorem escapeBegins_cons {c : Char} (h : c ≠ '\\') (rest : List Char) :
    EscapeBegins (c :: rest) ↔ EscapeBegins rest := by
  have hplain : '\\' ∉ [c] := by simpa using Ne.symm h
  exact escapeBegins_append_of_not_mem hplain

theorem escapeBegins_append {before : List Char} (h : EscapeBegins before) {rest : List Char} :
    EscapeBegins (before ++ rest) ↔ EscapeBegins rest := by
  rw [escapeBegins_iff_isContinued, escapeBegins_iff_isContinued,
    isContinued_append (escapeBegins_iff_isContinued.1 h)]

theorem escapeBegins_of_not_mem {text : List Char} (h : '\\' ∉ text) : EscapeBegins text := by
  have hnil : EscapeBegins [] := rfl
  rwa [← escapeBegins_append_of_not_mem h, List.append_nil] at hnil

/-- A text ends in a number of backslashes that makes pairs of all of them. -/
def EndsInPairs (text : List Char) : Prop := ∃ n, n % 2 = 0 ∧ EndsInBackslashes n text

theorem endsInPairs_of_escapeBegins {text : List Char} (h : EscapeBegins text) :
    EndsInPairs text :=
  ⟨_, h, endsInBackslashes_iff.2 rfl⟩

/-- **Logical lines end between two escapes.**  So does what is begun when the lines are
over, for the backslash that would go on is gone by then. -/
theorem escapeBegins_of_mem_logicalLines {lines : List (List Char)} {begun : Option (List Char)}
    (hbegun : isContinued (begun.getD []) = false) {line : List Char}
    (h : line ∈ logicalLines begun lines) : EscapeBegins line := by
  -- what is begun ends between two escapes, and this carries the induction on the lines
  induction lines generalizing begun with
  | nil =>
    cases begun with
    | none => cases h
    | some text =>
      obtain rfl := List.mem_singleton.1 h
      exact escapeBegins_iff_isContinued.2 hbegun
  | cons physical lines ih =>
    by_cases hskip : begun = none ∧ NoContent (withoutLineEnd physical)
    · obtain ⟨rfl, hcontent⟩ := hskip
      rw [logicalLines_cons_of_noContent hcontent] at h
      exact ih hbegun h
    · have hmore := isContinued_begun hbegun (withoutLineEnd physical)
      rw [logicalLines_cons hbegun fun hnone hcontent => hskip ⟨hnone, hcontent⟩] at h
      split at h
      · exact ih hmore h
      · rcases List.mem_cons.1 h with rfl | hlater
        · exact escapeBegins_iff_isContinued.2 hmore
        · exact ih rfl hlater

/-- Behind a text that ends between two escapes the symbols begin anew. -/
theorem symbols_append {before : List Char} (h : EscapeBegins before) (rest : List Char) :
    symbols (before ++ rest) = symbols before ++ symbols rest := by
  -- the induction takes a symbol at a time; a backslash alone does not end between escapes
  induction before using line_induction with
  | nil => rfl
  | lone => exact absurd h (by decide)
  | pair c before ih =>
    rw [List.cons_append, List.cons_append, symbols_pair, symbols_pair,
      ih ((escapeBegins_cons_pair c before).1 h), List.cons_append]
  | single c before hc ih =>
    rw [List.cons_append, symbols_single hc, symbols_single hc,
      ih ((escapeBegins_cons hc before).1 h), List.cons_append]

theorem unstopped_append {before : List Char} (h : EscapeBegins before) {rest : List Char} :
    Unstopped (before ++ rest) ↔ Unstopped before ∧ Unstopped rest := by
  simp only [Unstopped, symbols_append h, List.mem_append, or_imp, forall_and]

/-- The end of the key is between two escapes, and so is the end of what follows. -/
theorem escapeBegins_splitKey {line : List Char} (h : EscapeBegins line) :
    EscapeBegins (splitKey line).1 ∧ EscapeBegins (splitKey line).2 := by
  induction line using line_induction with
  | nil => exact ⟨h, h⟩
  | lone => exact absurd h (by decide)
  | pair c rest ih =>
    rw [splitKey_backslash]
    obtain ⟨hkey, hafter⟩ := ih ((escapeBegins_cons_pair c rest).1 h)
    exact ⟨(escapeBegins_cons_pair c _).2 hkey, hafter⟩
  | single c rest hc ih =>
    by_cases hstop : (isSeparator c || isBlank c) = true
    · rw [splitKey_of_stop hc hstop]
      exact ⟨rfl, h⟩
    · rw [splitKey_of_go hc (Bool.eq_false_iff.2 hstop)]
      obtain ⟨hkey, hafter⟩ := ih ((escapeBegins_cons hc rest).1 h)
      exact ⟨(escapeBegins_cons hc _).2 hkey, hafter⟩

/-! ### Places that are escaped -/

/-- The characters of a symbol. -/
def Symbol.text : Symbol → List Char
  | pair c => ['\\', c]
  | single c => [c]

/-- The second character of a pair is at a place of some symbols. -/
def EscapedAt (ss : List Symbol) (i : Nat) : Prop :=
  ∃ before c after, ss = before ++ .pair c :: after ∧ i = (before.flatMap Symbol.text).length + 1

/-- A place of a line is escaped if the reading from left to right has the second character
of a pair there. -/
def IsEscaped (line : List Char) (i : Nat) : Prop := EscapedAt (symbols line) i

theorem escapedAt_cons {s : Symbol} {ss : List Symbol} {i : Nat} :
    EscapedAt (s :: ss) i ↔
      ((∃ c, s = .pair c) ∧ i = 1) ∨ ∃ j, i = s.text.length + j ∧ EscapedAt ss j := by
  constructor
  · rintro ⟨before, c, after, hsymbols, rfl⟩
    cases before with
    | nil => exact .inl ⟨⟨c, (List.cons.inj hsymbols).1⟩, rfl⟩
    | cons first before =>
      obtain ⟨rfl, hrest⟩ := List.cons.inj hsymbols
      refine .inr ⟨_, ?_, before, c, after, hrest, rfl⟩
      rw [List.flatMap_cons, List.length_append, Nat.add_assoc]
  · rintro (⟨⟨c, rfl⟩, rfl⟩ | ⟨j, rfl, before, c, after, rfl, rfl⟩)
    · exact ⟨[], c, ss, rfl, rfl⟩
    · refine ⟨s :: before, c, after, rfl, ?_⟩
      rw [List.flatMap_cons, List.length_append, Nat.add_assoc]

theorem escapedAt_append {ss ts : List Symbol} {i : Nat} :
    EscapedAt (ss ++ ts) i ↔
      EscapedAt ss i ∨ ∃ j, i = (ss.flatMap Symbol.text).length + j ∧ EscapedAt ts j := by
  constructor
  · rintro ⟨before, c, after, happend, rfl⟩
    rcases List.append_eq_append_iff.1 happend with ⟨more, rfl, hts⟩ | ⟨more, rfl, hmore⟩
    · refine .inr ⟨_, ?_, more, c, after, hts, rfl⟩
      rw [List.flatMap_append, List.length_append, Nat.add_assoc]
    · cases more with
      | nil =>
        refine .inr ⟨1, ?_, [], c, after, hmore.symm, rfl⟩
        rw [List.append_nil]
      | cons s more =>
        obtain ⟨rfl, -⟩ := List.cons.inj hmore
        exact .inl ⟨before, c, more, rfl, rfl⟩
  · rintro (⟨before, c, after, rfl, rfl⟩ | ⟨j, rfl, before, c, after, rfl, rfl⟩)
    · exact ⟨before, c, after ++ ts, by rw [List.append_assoc, List.cons_append], rfl⟩
    · refine ⟨ss ++ before, c, after, (List.append_assoc ..).symm, ?_⟩
      rw [List.flatMap_append, List.length_append, Nat.add_assoc]

/-- The symbols of a line are the whole line. -/
theorem flatMap_text_symbols (line : List Char) : (symbols line).flatMap Symbol.text = line := by
  induction line using line_induction with
  | nil => rfl
  | lone => rfl
  | pair c rest ih =>
    rw [symbols_pair, List.flatMap_cons, ih]
    rfl
  | single c rest hc ih =>
    rw [symbols_single hc, List.flatMap_cons, ih]
    rfl

/-- Behind a text that ends between two escapes, the escaped places are those of what
follows. -/
theorem isEscaped_append {before : List Char} (h : EscapeBegins before) (rest : List Char)
    {i : Nat} :
    IsEscaped (before ++ rest) i ↔
      IsEscaped before i ∨ ∃ j, i = before.length + j ∧ IsEscaped rest j := by
  rw [IsEscaped, symbols_append h, escapedAt_append, flatMap_text_symbols]
  rfl

theorem lt_length_of_isEscaped {line : List Char} {i : Nat} (h : IsEscaped line i) :
    i < line.length := by
  obtain ⟨before, c, after, hsymbols, rfl⟩ := h
  rw [← flatMap_text_symbols line, hsymbols, List.flatMap_append, List.flatMap_cons,
    List.length_append, List.length_append]
  simp only [Symbol.text, List.length_cons, List.length_nil]
  omega

theorem not_isEscaped_of_not_mem {line : List Char} (h : '\\' ∉ line) (i : Nat) :
    ¬ IsEscaped line i := by
  rintro ⟨before, c, after, hsymbols, -⟩
  refine h ?_
  rw [← flatMap_text_symbols line, hsymbols, List.flatMap_append, List.flatMap_cons]
  exact List.mem_append_right _ List.mem_cons_self

theorem not_isEscaped_zero (line : List Char) : ¬ IsEscaped line 0 := by
  rintro ⟨before, c, after, -, hzero⟩
  cases hzero

theorem isEscaped_pair_one (c : Char) (rest : List Char) : IsEscaped ('\\' :: c :: rest) 1 :=
  ⟨[], c, symbols rest, symbols_pair c rest, rfl⟩

theorem isEscaped_pair_add_two {c : Char} {rest : List Char} {i : Nat} :
    IsEscaped ('\\' :: c :: rest) (i + 2) ↔ IsEscaped rest i := by
  rw [IsEscaped, symbols_pair, escapedAt_cons]
  constructor
  · rintro (⟨-, hone⟩ | ⟨j, hj, hrest⟩)
    · cases hone
    · obtain rfl : i = j := Nat.add_left_cancel ((Nat.add_comm 2 i).trans hj)
      exact hrest
  · exact fun h => .inr ⟨i, Nat.add_comm i 2, h⟩

theorem isEscaped_single_succ {c : Char} (h : c ≠ '\\') {rest : List Char} {i : Nat} :
    IsEscaped (c :: rest) (i + 1) ↔ IsEscaped rest i := by
  rw [IsEscaped, symbols_single h, escapedAt_cons]
  constructor
  · rintro (⟨⟨d, hpair⟩, -⟩ | ⟨j, hj, hrest⟩)
    · cases hpair
    · obtain rfl : i = j := Nat.add_left_cancel ((Nat.add_comm 1 i).trans hj)
      exact hrest
  · exact fun h => .inr ⟨i, Nat.add_comm i 1, h⟩

/-! ### Places that are passed over -/

/-- A place is passed over on the way to the end of the key: whatever character stands
there, the key goes on behind it. -/
def PassesOver (line : List Char) (i : Nat) : Prop :=
  ∀ c, i < (splitEntry (line.set i c)).1.length

theorem key_pair (c : Char) (rest : List Char) :
    (splitEntry ('\\' :: c :: rest)).1 = '\\' :: c :: (splitEntry rest).1 :=
  congrArg Prod.fst (splitKey_backslash c rest)

theorem key_of_stop {c : Char} (hc : c ≠ '\\') (h : (isSeparator c || isBlank c) = true)
    (rest : List Char) : (splitEntry (c :: rest)).1 = [] :=
  congrArg Prod.fst (splitKey_of_stop hc h rest)

theorem key_of_go {c : Char} (hc : c ≠ '\\') (h : (isSeparator c || isBlank c) = false)
    (rest : List Char) : (splitEntry (c :: rest)).1 = c :: (splitEntry rest).1 :=
  congrArg Prod.fst (splitKey_of_go hc h rest)

/-- A separator at the beginning leaves no key. -/
theorem not_passesOver_zero (line : List Char) : ¬ PassesOver line 0 := by
  intro h
  have hkey := h '='
  cases line with
  | nil => exact absurd hkey (by decide)
  | cons c rest =>
    rw [List.set_cons_zero, key_of_stop (by decide) rfl] at hkey
    exact absurd hkey (by decide)

theorem passesOver_pair_add_two {c : Char} {rest : List Char} {i : Nat} :
    PassesOver ('\\' :: c :: rest) (i + 2) ↔ PassesOver rest i := by
  refine forall_congr' fun d => ?_
  rw [List.set_cons_succ, List.set_cons_succ, key_pair, List.length_cons, List.length_cons]
  exact Nat.add_lt_add_iff_right

theorem passesOver_of_go {c : Char} (hc : c ≠ '\\') (h : (isSeparator c || isBlank c) = false)
    {rest : List Char} {i : Nat} : PassesOver (c :: rest) (i + 1) ↔ PassesOver rest i := by
  refine forall_congr' fun d => ?_
  rw [List.set_cons_succ, key_of_go hc h, List.length_cons, Nat.add_lt_add_iff_right]

/-- **What is passed over is escaped.**  Up to the end of the key these are the same
places, and behind it none is passed over. -/
theorem passesOver_iff (line : List Char) (i : Nat) :
    PassesOver line i ↔ IsEscaped line i ∧ i < (splitEntry line).1.length := by
  have hzero (text : List Char) :
      PassesOver text 0 ↔ IsEscaped text 0 ∧ 0 < (splitEntry text).1.length :=
    iff_of_false (not_passesOver_zero text) fun h => not_isEscaped_zero text h.1
  induction line using line_induction generalizing i with
  | nil => exact iff_of_false (fun h => Nat.not_lt_zero _ (h '=')) fun h => Nat.not_lt_zero _ h.2
  | lone =>
    rcases i with - | i
    · exact hzero _
    · -- the key is the backslash, and no place is behind it
      have hlone : ¬ i + 1 < 1 := by omega
      exact iff_of_false (fun h => hlone (h '=')) fun h => hlone h.2
  | pair c rest ih =>
    rcases i with - | - | i
    · exact hzero _
    · -- behind a backslash any character belongs to the key
      have hlength (text : List Char) : 1 < ('\\' :: c :: text).length := by simp
      refine iff_of_true (fun d => ?_) ⟨isEscaped_pair_one c rest, ?_⟩
      · rw [List.set_cons_succ, List.set_cons_zero, key_pair]
        exact hlength _
      · rw [key_pair]
        exact hlength _
    · have hrest : PassesOver rest i ↔ IsEscaped rest i ∧ i < (splitEntry rest).1.length := ih i
      rw [passesOver_pair_add_two, isEscaped_pair_add_two, hrest, key_pair, List.length_cons,
        List.length_cons]
      exact and_congr_right' Nat.add_lt_add_iff_right.symm
  | single c rest hc ih =>
    rcases i with - | i
    · exact hzero _
    rcases hstop : (isSeparator c || isBlank c) with - | -
    · have hrest : PassesOver rest i ↔ IsEscaped rest i ∧ i < (splitEntry rest).1.length := ih i
      rw [passesOver_of_go hc hstop, isEscaped_single_succ hc, hrest, key_of_go hc hstop,
        List.length_cons, Nat.add_lt_add_iff_right]
    · refine iff_of_false (fun h => ?_) fun h => ?_
      · have hkey := h c
        rw [List.set_cons_succ, key_of_stop hc hstop] at hkey
        exact Nat.not_lt_zero _ hkey
      · rw [key_of_stop hc hstop] at h
        exact Nat.not_lt_zero _ h.2

/-! ### Escapes that are not cut -/

/-- An escape as it is meant to be written: a backslash and a character, or with `u` four
hexadecimal digits more. -/
inductive IsEscape : List Char → Prop
  | pair (c) : IsEscape ['\\', c]
  | unit {w} : w.length = 4 → (∀ c ∈ w, isHexDigit c = true) → IsEscape ('\\' :: 'u' :: w)

theorem not_stops_of_isHexDigit {c : Char} (h : isHexDigit c = true) : c ≠ '\\' ∧ ¬ Stops c := by
  have all : ∀ n < 128, isHexDigit (Char.ofNat n) = true → Char.ofNat n ≠ '\\' ∧
      (isSeparator (Char.ofNat n) || isBlank (Char.ofNat n)) = false := by decide +kernel
  have hchar := all c.toNat (toNat_lt_of_isHexDigit h)
  rw [Char.ofNat_toNat] at hchar
  obtain ⟨hne, hstop⟩ := hchar h
  exact ⟨hne, by rw [stops_iff, hstop]; exact Bool.false_ne_true⟩

theorem unstopped_hexDigits {w : List Char} (h : ∀ c ∈ w, isHexDigit c = true) : Unstopped w := by
  induction w with
  | nil => exact unstopped_nil
  | cons c w ih =>
    obtain ⟨hc, hw⟩ := List.forall_mem_cons.1 h
    obtain ⟨hne, hstop⟩ := not_stops_of_isHexDigit hc
    exact (unstopped_single hne).2 ⟨hstop, ih hw⟩

/-- No key ends in the middle of an escape. -/
theorem IsEscape.unstopped {escape : List Char} (h : IsEscape escape) : Unstopped escape := by
  cases h with
  | pair c => exact unstopped_pair.2 unstopped_nil
  | unit _ hw => exact unstopped_pair.2 (unstopped_hexDigits hw)

theorem IsEscape.exists_cons {escape : List Char} (h : IsEscape escape) :
    ∃ more, escape = '\\' :: more := by
  cases h with
  | pair c => exact ⟨[c], rfl⟩
  | unit _ _ => exact ⟨_, rfl⟩

/-- **An escape lies in the key or in the value.**  If it begins in the key, then the key,
which is as long as can be, has all of it; it cannot begin in the gap. -/
theorem key_or_value_of_isEscape {line gap value before escape after : List Char}
    (hwhole : (splitEntry line).1 ++ gap ++ value = line) (hgap : '\\' ∉ gap)
    (hline : line = before ++ escape ++ after) (hbefore : EscapeBegins before)
    (hescape : IsEscape escape) :
    (before ++ escape).length ≤ (splitEntry line).1.length ∨
      ((splitEntry line).1 ++ gap).length ≤ before.length := by
  have hparts : (splitEntry line).1 ++ (gap ++ value) = before ++ (escape ++ after) := by
    rw [← List.append_assoc, hwhole, hline, List.append_assoc]
  rcases List.append_eq_append_iff.1 hparts with ⟨more, hmore, hrest⟩ | ⟨more, hkey, -⟩
  · right
    rcases List.append_eq_append_iff.1 hrest with ⟨behind, rfl, -⟩ | ⟨inGap, rfl, hbegins⟩
    · rw [hmore, List.length_append, List.length_append, List.length_append]
      omega
    · -- what is left of the gap would begin with the backslash of the escape
      obtain ⟨tail, rfl⟩ := hescape.exists_cons
      cases inGap with
      | nil => rw [hmore, List.append_nil]
      | cons c inGap =>
        obtain ⟨rfl, -⟩ := List.cons.inj hbegins
        exact absurd (List.mem_append_right more List.mem_cons_self) hgap
  · -- no escape stops the key, so the key would be longer if it ended inside this one
    left
    have hunstopped : Unstopped (before ++ more) := hkey ▸ (splitKey_spec line).1
    have hlonger : Unstopped (before ++ escape) :=
      (unstopped_append hbefore).2 ⟨((unstopped_append hbefore).1 hunstopped).1, hescape.unstopped⟩
    exact length_le_splitKey ⟨after, hline.symm⟩ hlonger

/-! ### Keys and values are read in pieces -/

/-- A piece that the reader of escapes takes at once.  No piece is a backslash alone. -/
inductive IsPiece : List Char → Prop
  | plain {c} : c ≠ '\\' → IsPiece [c]
  | escaped (c) : IsPiece ['\\', c]
  | unit {w} {u : UInt16} : w.length = 4 → Numeral w u.toNat → IsPiece ('\\' :: 'u' :: w)

/-- A text is cut into pieces, and stands for what these stand for one by one. -/
def ReadsInPieces (text : List Char) : Prop :=
  ∃ pieces : List (List Char), pieces.flatten = text ∧ (∀ piece ∈ pieces, IsPiece piece) ∧
    unescapeUnits text = pieces.flatMap unescapeUnits

theorem IsPiece.length_pos {piece : List Char} (h : IsPiece piece) : 0 < piece.length := by
  cases h <;> exact Nat.zero_lt_succ _

theorem unescapeUnits_plain {c : Char} (hc : c ≠ '\\') (cs : List Char) :
    unescapeUnits (c :: cs) = unitsOf c ++ unescapeUnits cs := by
  rw [unescapeUnits_cons, firstPiece_of_ne hc, List.drop_zero]

/-- A backslash and a character that name no unit stand for one character. -/
theorem unescapeUnits_escaped {c : Char} {cs : List Char}
    (hnone : c = 'u' → ¬ ∃ u, TakesUnit cs u) :
    unescapeUnits ('\\' :: c :: cs) = unitsOf (escapedChar c) ++ unescapeUnits cs := by
  by_cases hc : c = 'u'
  · subst hc
    exact unescapeUnits_of_not_takesUnit (hnone rfl)
  · rw [unescapeUnits_cons, firstPiece, if_pos rfl, if_neg hc]
    rfl

theorem unescapeUnits_unit {w : List Char} {u : UInt16} (hw : w.length = 4)
    (hnumeral : Numeral w u.toNat) (rest : List Char) :
    unescapeUnits ('\\' :: 'u' :: (w ++ rest)) = u :: unescapeUnits rest := by
  have htakes : TakesUnit (w ++ rest) u := takesUnit_iff.2 ⟨w, rest, rfl, hw, hnumeral⟩
  rw [unescapeUnits_cons, htakes]
  show u :: unescapeUnits ((w ++ rest).drop 4) = u :: unescapeUnits rest
  rw [← hw, List.drop_left]

/-- **One piece.**  The first piece of a text that ends between two escapes is whole, and
what is left still ends so. -/
theorem exists_piece {c : Char} {cs : List Char} (h : EscapeBegins (c :: cs)) :
    ∃ piece rest, c :: cs = piece ++ rest ∧ IsPiece piece ∧ EscapeBegins rest ∧
      unescapeUnits (c :: cs) = unescapeUnits piece ++ unescapeUnits rest := by
  have hnil : unescapeUnits [] = [] := rfl
  by_cases hc : c = '\\'
  · subst hc
    cases cs with
    | nil => exact absurd h (by decide)
    | cons d ds =>
      have hds := (escapeBegins_cons_pair d ds).1 h
      by_cases hunit : d = 'u' ∧ ∃ u, TakesUnit ds u
      · obtain ⟨rfl, u, hu⟩ := hunit
        obtain ⟨w, rest, rfl, hw, hnumeral⟩ := takesUnit_iff.1 hu
        have hrest := (escapeBegins_append_of_not_mem (not_mem_of_numeral hnumeral)).1 hds
        have hpiece := unescapeUnits_unit hw hnumeral []
        rw [List.append_nil, hnil] at hpiece
        exact ⟨'\\' :: 'u' :: w, rest, rfl, .unit hw hnumeral, hrest,
          by rw [unescapeUnits_unit hw hnumeral, hpiece, List.singleton_append]⟩
      · have hshort : ¬ ∃ u, TakesUnit [] u := by
          rintro ⟨u, hu⟩
          cases hu
        have hpiece := unescapeUnits_escaped fun _ : d = 'u' => hshort
        rw [hnil, List.append_nil] at hpiece
        exact ⟨['\\', d], ds, rfl, .escaped d, hds,
          by rw [unescapeUnits_escaped fun hd hu => hunit ⟨hd, hu⟩, hpiece]⟩
  · have hpiece := unescapeUnits_plain hc []
    rw [hnil, List.append_nil] at hpiece
    exact ⟨[c], cs, rfl, .plain hc, (escapeBegins_cons hc cs).1 h,
      by rw [unescapeUnits_plain hc, hpiece]⟩

/-- A text that ends between two escapes is read in whole pieces. -/
theorem readsInPieces_of_escapeBegins {text : List Char} (h : EscapeBegins text) :
    ReadsInPieces text := by
  -- on the length, since a piece has one, two or six characters
  induction hlength : text.length using Nat.strong_induction_on generalizing text with
  | _ n ih =>
    cases text with
    | nil => exact ⟨[], rfl, nofun, rfl⟩
    | cons c cs =>
      obtain ⟨piece, rest, hsplit, hpiece, hrest, hunits⟩ := exists_piece h
      have hshorter : rest.length < n := by
        have hpos := hpiece.length_pos
        rw [← hlength, hsplit, List.length_append]
        omega
      obtain ⟨pieces, rfl, hpieces, hread⟩ := ih _ hshorter hrest rfl
      exact ⟨piece :: pieces, hsplit.symm, List.forall_mem_cons.2 ⟨hpiece, hpieces⟩,
        by rw [hunits, hread, List.flatMap_cons]⟩

/-! ### Splitting a line -/

/-- A line is split into a key, a gap and a value without harm to its escapes. -/
structure SplitsWhole (line key gap value : List Char) : Prop where
  whole : key ++ gap ++ value = line
  gap_plain : '\\' ∉ gap
  key_ends : EndsInPairs key
  value_ends : EndsInPairs value
  /-- On the way to the end of the key, the places that are passed over are exactly the
  escaped ones. -/
  passed : ∀ i, PassesOver line i ↔ IsEscaped line i ∧ i < key.length
  /-- The escaped places of the line are those that are passed over and those of the
  value. -/
  escaped : ∀ i, IsEscaped line i ↔
    PassesOver line i ∨ ∃ j, i = (key ++ gap).length + j ∧ IsEscaped value j
  /-- An escape has all its characters in the key, or all of them in the value. -/
  uncut : ∀ before escape after, line = before ++ escape ++ after → EscapeBegins before →
    IsEscape escape →
      (before ++ escape).length ≤ key.length ∨ (key ++ gap).length ≤ before.length
  key_pieces : ReadsInPieces key
  value_pieces : ReadsInPieces value

theorem IsGap.not_mem_backslash {gap : List Char} (h : IsGap gap) : '\\' ∉ gap := by
  obtain ⟨before, separator, behind, rfl, hbefore, hbehind, -, hseparator⟩ := h
  have hblank : ¬ isBlank '\\' = true := by decide
  have hseparates : ¬ Separates '\\' := fun hsep => Stops.ne_backslash (.inl hsep) rfl
  rw [List.mem_append, List.mem_append]
  rintro ((hmem | hmem) | hmem)
  · exact hblank (hbefore _ hmem)
  · exact hseparates (hseparator _ hmem)
  · exact hblank (hbehind _ hmem)

/-- What is passed over is what is escaped in the key when it is read alone. -/
theorem passesOver_iff_isEscaped_key {line : List Char} (h : EscapeBegins line) {i : Nat} :
    PassesOver line i ↔ IsEscaped (splitEntry line).1 i := by
  have hkey : EscapeBegins (splitEntry line).1 := (escapeBegins_splitKey h).1
  have hwhole : (splitEntry line).1 ++ (splitKey line).2 = line := splitKey_append line
  have hline := isEscaped_append hkey (splitKey line).2 (i := i)
  rw [hwhole] at hline
  rw [passesOver_iff, hline]
  constructor
  · rintro ⟨hescaped | ⟨j, rfl, -⟩, hlt⟩
    · exact hescaped
    · omega
  · exact fun hescaped => ⟨.inl hescaped, lt_length_of_isEscaped hescaped⟩

/-- A line that ends between two escapes is split without harm. -/
theorem splitsWhole_of_escapeBegins {line gap : List Char} (h : EscapeBegins line)
    (hgap : IsGap gap) (hafter : gap ++ (splitEntry line).2 = (splitKey line).2) :
    SplitsWhole line (splitEntry line).1 gap (splitEntry line).2 := by
  have hplain := hgap.not_mem_backslash
  have hwhole : (splitEntry line).1 ++ gap ++ (splitEntry line).2 = line := by
    rw [List.append_assoc, hafter]
    exact splitKey_append line
  obtain ⟨hkey, hrest⟩ : EscapeBegins (splitEntry line).1 ∧ EscapeBegins (splitKey line).2 :=
    escapeBegins_splitKey h
  have hvalue : EscapeBegins (splitEntry line).2 :=
    (escapeBegins_append_of_not_mem hplain).1 (hafter ▸ hrest)
  have hbefore : EscapeBegins ((splitEntry line).1 ++ gap) :=
    (escapeBegins_append hkey).2 (escapeBegins_of_not_mem hplain)
  have hescaped (i : Nat) : IsEscaped line i ↔ PassesOver line i ∨
      ∃ j, i = ((splitEntry line).1 ++ gap).length + j ∧ IsEscaped (splitEntry line).2 j := by
    have hline := isEscaped_append hbefore (splitEntry line).2 (i := i)
    have hnone : ¬ ∃ j, i = (splitEntry line).1.length + j ∧ IsEscaped gap j :=
      fun ⟨j, _, hj⟩ => not_isEscaped_of_not_mem hplain j hj
    rwa [hwhole, isEscaped_append hkey gap, or_iff_left hnone,
      ← passesOver_iff_isEscaped_key h] at hline
  exact {
    whole := hwhole
    gap_plain := hplain
    key_ends := endsInPairs_of_escapeBegins hkey
    value_ends := endsInPairs_of_escapeBegins hvalue
    passed := passesOver_iff line
    escaped := hescaped
    uncut := fun _ _ _ => key_or_value_of_isEscape hwhole hplain
    key_pieces := readsInPieces_of_escapeBegins hkey
    value_pieces := readsInPieces_of_escapeBegins hvalue }

/-- **No escape is cut in two.**  Of every logical line, whatever the physical lines are,
the reader of escapes is given a key and a value that end in pairs of backslashes.  The
places that are passed over to find the end of the key are those of the second characters
of the pairs of the whole line.  So every escape lies in the key or in the value, and each
backslash of these is read together with what follows it. -/
theorem exists_splitsWhole {lines : List (List Char)} {line : List Char}
    (h : line ∈ logicalLines none lines) :
    ∃ key gap value, splitEntry line = (key, value) ∧
      readEntry line = (String.ofList (unescape key), String.ofList (unescape value)) ∧
      SplitsWhole line key gap value := by
  have hline : EscapeBegins line := escapeBegins_of_mem_logicalLines rfl h
  obtain ⟨gap, hafter, hgap, -⟩ := exists_gap (splitKey line).2
  exact ⟨_, gap, _, rfl, rfl, splitsWhole_of_escapeBegins hline hgap hafter⟩

/-- A line that would go on when the lines are over: an escaped backslash and an escaped
separator in the key, and a value whose last backslash is half of a pair. -/
theorem exists_splitsWhole_leftOpen :
    "k\\\\\\=\\u003d = v\\\\".toList
        ∈ logicalLines none ["k\\\\\\".toList, "  \\=\\u003d = v\\\\\\".toList] ∧
      ∃ key gap value, splitEntry "k\\\\\\=\\u003d = v\\\\".toList = (key, value) ∧
        readEntry "k\\\\\\=\\u003d = v\\\\".toList
          = (String.ofList (unescape key), String.ofList (unescape value)) ∧
        SplitsWhole "k\\\\\\=\\u003d = v\\\\".toList key gap value := by
  have hmem : "k\\\\\\=\\u003d = v\\\\".toList
      ∈ logicalLines none ["k\\\\\\".toList, "  \\=\\u003d = v\\\\\\".toList] := by
    decide
  exact ⟨hmem, exists_splitsWhole hmem⟩

end StartupReport.Properties
