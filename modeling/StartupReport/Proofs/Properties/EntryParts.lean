/-
StartupReport/Proofs/Properties/EntryParts.lean

The parts of a line: key, gap and value.

A line is read from left to right as symbols: a backslash together with the character
behind it, or a single character (`symbols`).  The key is the longest beginning of the
line in which no single character is a separator or a blank; what a backslash protects
does not count.  The gap takes blanks, at most one separator and blanks again, and the
value is what is left (`EntryParts`).

That the key is the longest such beginning rests on `splitKey_spec`: where the key ends
before the line does, it ends between two symbols, so any longer beginning has the
separator or blank behind the key as a symbol of its own.

Main result: `exists_entryParts`, that a line has exactly one such decomposition and that
the reader finds it.
-/
import Mathlib.Data.List.TakeWhile
import StartupReport.Properties.Entry

namespace StartupReport.Properties

open Text (isBlank isBlank_of_head?_trimStart takeWhile_append_trimStart trimStart
  trimStart_append)

/-! ### Symbols of a line -/

/-- What a line is read as, bit by bit. -/
inductive Symbol
  /-- A backslash and the character behind it. -/
  | pair (c : Char)
  /-- A character by itself. -/
  | single (c : Char)

/-- The symbols of a line, from left to right. -/
def symbols : List Char → List Symbol
  | [] => []
  | [c] => [.single c]
  | c :: d :: rest =>
    if c = '\\' then .pair d :: symbols rest else .single c :: symbols (d :: rest)

theorem symbols_pair (c : Char) (rest : List Char) :
    symbols ('\\' :: c :: rest) = .pair c :: symbols rest := by
  rw [symbols, if_pos rfl]

theorem symbols_single {c : Char} (h : c ≠ '\\') (rest : List Char) :
    symbols (c :: rest) = .single c :: symbols rest := by
  cases rest with
  | nil => rfl
  | cons d rest => rw [symbols, if_neg h]

/-- Lines are built from symbols, but for a backslash that nothing follows. -/
@[elab_as_elim]
theorem line_induction {p : List Char → Prop} (nil : p []) (lone : p ['\\'])
    (pair : ∀ c rest, p rest → p ('\\' :: c :: rest))
    (single : ∀ c rest, c ≠ '\\' → p rest → p (c :: rest)) (line : List Char) : p line := by
  induction line using symbols.induct with
  | case1 => exact nil
  | case2 c =>
    by_cases hc : c = '\\'
    · exact hc ▸ lone
    · exact single c [] hc nil
  | case3 d rest ih => exact pair d rest ih
  | case4 c d rest hc ih => exact single c (d :: rest) hc ih

/-! ### Characters that end a key -/

/-- The two characters that separate a key and a value. -/
def Separates (c : Char) : Prop := c = '=' ∨ c = ':'

/-- A character that ends a key, unless a backslash protects it. -/
def Stops (c : Char) : Prop := Separates c ∨ isBlank c = true

/-- No symbol of a text ends a key. -/
def Unstopped (text : List Char) : Prop := ∀ c, .single c ∈ symbols text → ¬ Stops c

theorem separates_iff {c : Char} : Separates c ↔ isSeparator c = true := by
  rw [Separates, isSeparator, Bool.or_eq_true, beq_iff_eq, beq_iff_eq]

theorem stops_iff {c : Char} : Stops c ↔ (isSeparator c || isBlank c) = true := by
  rw [Stops, separates_iff, Bool.or_eq_true]

theorem Stops.ne_backslash {c : Char} (h : Stops c) : c ≠ '\\' := by
  rintro rfl
  rw [stops_iff] at h
  exact absurd h (by decide)

theorem Separates.not_blank {c : Char} (h : Separates c) : isBlank c = false := by
  rcases h with rfl | rfl <;> rfl

theorem unstopped_nil : Unstopped [] := fun _ hc => nomatch hc

theorem unstopped_pair {c : Char} {rest : List Char} :
    Unstopped ('\\' :: c :: rest) ↔ Unstopped rest := by
  simp only [Unstopped, symbols_pair, List.mem_cons, reduceCtorEq, false_or]

theorem unstopped_single {c : Char} (h : c ≠ '\\') {rest : List Char} :
    Unstopped (c :: rest) ↔ ¬ Stops c ∧ Unstopped rest := by
  simp only [Unstopped, symbols_single h, List.mem_cons, Symbol.single.injEq, forall_eq_or_imp]

/-! ### The key -/

/-- The key has no symbol that ends it.  Behind it the line is over, or a character stands
that ends a key, and then no symbol reaches from the key into what follows. -/
theorem splitKey_spec (line : List Char) :
    Unstopped (splitKey line).1 ∧
    ∀ c after, (splitKey line).2 = c :: after → Stops c ∧
      ∀ rest, Unstopped ((splitKey line).1 ++ rest) → Unstopped rest := by
  induction line using line_induction with
  | nil => exact ⟨unstopped_nil, fun c after h => nomatch h⟩
  | lone =>
    refine ⟨fun c hc hstop => ?_, fun c after h => nomatch h⟩
    exact hstop.ne_backslash (Symbol.single.inj (List.mem_singleton.1 hc))
  | pair c rest ih =>
    rw [splitKey_backslash]
    refine ⟨unstopped_pair.2 ih.1, fun d after h => ?_⟩
    obtain ⟨hstop, hrest⟩ := ih.2 d after h
    exact ⟨hstop, fun more hmore => hrest more (unstopped_pair.1 hmore)⟩
  | single c rest hc ih =>
    by_cases hstop : (isSeparator c || isBlank c) = true
    · rw [splitKey_of_stop hc hstop]
      refine ⟨unstopped_nil, fun d after h => ?_⟩
      obtain ⟨rfl, -⟩ := List.cons.inj h
      exact ⟨stops_iff.2 hstop, fun more hmore => hmore⟩
    · rw [splitKey_of_go hc (Bool.eq_false_iff.2 hstop)]
      refine ⟨(unstopped_single hc).2 ⟨mt stops_iff.1 hstop, ih.1⟩, fun d after h => ?_⟩
      obtain ⟨hd, hrest⟩ := ih.2 d after h
      exact ⟨hd, fun more hmore => hrest more ((unstopped_single hc).1 hmore).2⟩

/-- No longer beginning of the line is free of symbols that end a key. -/
theorem length_le_splitKey {line longer : List Char} (hbegins : longer <+: line)
    (h : Unstopped longer) : longer.length ≤ (splitKey line).1.length := by
  refine Nat.le_of_not_lt fun hlonger => ?_
  have hline : (splitKey line).1 ++ (splitKey line).2 = line := splitKey_append line
  -- the longer beginning is the key, the character behind it, and more
  have hkey : (splitKey line).1 <+: longer :=
    List.prefix_of_prefix_length_le ⟨_, hline⟩ hbegins (by omega)
  obtain ⟨more, rfl⟩ := hkey
  obtain ⟨rest, hrest⟩ := hbegins
  have hafter : (splitKey line).2 = more ++ rest := by
    have hsame : (splitKey line).1 ++ (splitKey line).2 = (splitKey line).1 ++ (more ++ rest) := by
      rw [hline, ← List.append_assoc, hrest]
    exact List.append_cancel_left hsame
  cases more with
  | nil => simp at hlonger
  | cons c more =>
    obtain ⟨hstop, hsplit⟩ := (splitKey_spec line).2 c (more ++ rest) hafter
    have hmore : Unstopped (c :: more) := hsplit (c :: more) h
    exact ((unstopped_single hstop.ne_backslash).1 hmore).1 hstop

/-! ### The gap -/

/-- Blanks, at most one separator, and blanks again. -/
def IsGap (gap : List Char) : Prop :=
  ∃ before separator behind, gap = before ++ separator ++ behind ∧
    (∀ c ∈ before, isBlank c = true) ∧ (∀ c ∈ behind, isBlank c = true) ∧
    separator.length ≤ 1 ∧ ∀ c ∈ separator, Separates c

theorem isGap_of_blanks {blanks : List Char} (h : ∀ c ∈ blanks, isBlank c = true) :
    IsGap blanks :=
  ⟨blanks, [], [], by simp only [List.append_nil], h, nofun, Nat.zero_le 1, nofun⟩

/-- A value can begin behind a gap: it begins with no blank, and with no separator if the
gap holds none. -/
def BeginsBehind (gap value : List Char) : Prop :=
  ∀ c ∈ value.head?, isBlank c = false ∧ ((∀ d ∈ gap, ¬ Separates d) → ¬ Separates c)

theorem beginsBehind_nil (gap : List Char) : BeginsBehind gap [] := by
  intro c hc
  cases hc

/-- A value that can begin behind a gap is what the reader finds behind it. -/
theorem afterGap_append {gap value : List Char} (hgap : IsGap gap)
    (hvalue : BeginsBehind gap value) : afterGap (gap ++ value) = value := by
  obtain ⟨before, separator, behind, rfl, hbefore, hbehind, hone, hseparator⟩ := hgap
  have hblank : ∀ c ∈ value.head?, isBlank c = false := fun c hc => (hvalue c hc).1
  rcases separator with - | ⟨s, - | ⟨t, separator⟩⟩
  · have hblanks : ∀ c ∈ before ++ [] ++ behind, isBlank c = true := by
      rw [List.append_nil]
      exact List.forall_mem_append.2 ⟨hbefore, hbehind⟩
    rw [afterGap, trimStart_append hblanks hblank]
    cases value with
    | nil => rfl
    | cons c value =>
      have hnone : ∀ d ∈ before ++ [] ++ behind, ¬ Separates d := by
        intro d hd hsep
        exact absurd (hblanks d hd) (by rw [hsep.not_blank]; exact Bool.false_ne_true)
      have hc : ¬ Separates c := (hvalue c rfl).2 hnone
      exact if_neg (mt separates_iff.2 hc)
  · have hs : Separates s := hseparator s List.mem_cons_self
    have hfirst : ∀ c ∈ ([s] ++ behind ++ value).head?, isBlank c = false := by
      intro c hc
      obtain rfl : s = c := Option.some.inj hc
      exact hs.not_blank
    rw [afterGap, List.append_assoc before, List.append_assoc, trimStart_append hbefore hfirst]
    show (if isSeparator s then trimStart (behind ++ value) else s :: (behind ++ value)) = value
    rw [if_pos (separates_iff.1 hs), trimStart_append hbehind hblank]
  · simp at hone

/-- The reader passes over a gap. -/
theorem exists_gap (cs : List Char) :
    ∃ gap, gap ++ afterGap cs = cs ∧ IsGap gap ∧ BeginsBehind gap (afterGap cs) := by
  have hblanks (ds : List Char) : ∀ c ∈ ds.takeWhile isBlank, isBlank c = true :=
    fun c hc => List.mem_takeWhile_imp hc
  have hcs := takeWhile_append_trimStart cs
  rw [afterGap]
  split
  · next hnil =>
    rw [hnil] at hcs
    exact ⟨_, hcs, isGap_of_blanks (hblanks cs), beginsBehind_nil _⟩
  · next c rest hrest =>
    split
    · next hsep =>
      refine ⟨cs.takeWhile isBlank ++ [c] ++ rest.takeWhile isBlank, ?_,
        ⟨_, [c], _, rfl, hblanks cs, hblanks rest, Nat.le_refl 1, ?_⟩,
        fun d hd => ⟨isBlank_of_head?_trimStart hd, ?_⟩⟩
      · rw [List.append_assoc, takeWhile_append_trimStart, List.append_assoc,
          List.singleton_append, ← hrest, hcs]
      · intro d hd
        exact separates_iff.2 (List.mem_singleton.1 hd ▸ hsep)
      · intro hnone
        exact absurd (separates_iff.2 hsep)
          (hnone c (List.mem_append_left _ (List.mem_append_right _ List.mem_cons_self)))
    · next hsep =>
      refine ⟨cs.takeWhile isBlank, by rw [← hrest, hcs], isGap_of_blanks (hblanks cs),
        fun d hd => ?_⟩
      obtain rfl : c = d := Option.some.inj hd
      exact ⟨isBlank_of_head?_trimStart (by rw [hrest]; rfl), fun _ => mt separates_iff.1 hsep⟩

/-! ### The parts of a line -/

/-- A line is a key, a gap and a value. -/
structure EntryParts (line key gap value : List Char) : Prop where
  whole : key ++ gap ++ value = line
  key_unstopped : Unstopped key
  key_longest : ∀ longer, longer <+: line → Unstopped longer → longer.length ≤ key.length
  isGap : IsGap gap
  value_begins : BeginsBehind gap value

/-- The parts of a line are determined by it. -/
theorem EntryParts.unique {line key gap value key' gap' value' : List Char}
    (h : EntryParts line key gap value) (h' : EntryParts line key' gap' value') :
    key = key' ∧ gap = gap' ∧ value = value' := by
  have hbegins : key <+: line := ⟨gap ++ value, by rw [← List.append_assoc, h.whole]⟩
  have hbegins' : key' <+: line := ⟨gap' ++ value', by rw [← List.append_assoc, h'.whole]⟩
  have hlength : key.length = key'.length :=
    Nat.le_antisymm (h'.key_longest key hbegins h.key_unstopped)
      (h.key_longest key' hbegins' h'.key_unstopped)
  have hsame := h.whole.trans h'.whole.symm
  rw [List.append_assoc, List.append_assoc] at hsame
  obtain ⟨rfl, hafter⟩ := List.append_inj hsame hlength
  have hvalue : value = value' := by
    rw [← afterGap_append h.isGap h.value_begins, hafter,
      afterGap_append h'.isGap h'.value_begins]
  subst hvalue
  exact ⟨rfl, List.append_cancel_right hafter, rfl⟩

/-- **A line has one key, one gap and one value.**  They make up the whole line, the
reader finds them, and if nothing in the line ends a key, the key is the line. -/
theorem exists_entryParts (line : List Char) :
    ∃ key gap value, splitEntry line = (key, value) ∧ EntryParts line key gap value ∧
      (∀ key' gap' value', EntryParts line key' gap' value' →
        key' = key ∧ gap' = gap ∧ value' = value) ∧
      (Unstopped line → key = line) := by
  obtain ⟨gap, hwhole, hgap, hvalue⟩ := exists_gap (splitKey line).2
  have hparts : EntryParts line (splitKey line).1 gap (afterGap (splitKey line).2) := by
    refine ⟨?_, (splitKey_spec line).1, fun longer => length_le_splitKey, hgap, hvalue⟩
    rw [List.append_assoc, hwhole, splitKey_append]
  refine ⟨_, gap, _, rfl, hparts, fun key' gap' value' h => h.unique hparts, fun hline => ?_⟩
  -- the line itself is then a beginning of the line like the key
  have hlength := length_le_splitKey (List.prefix_refl line) hline
  have hbegins : (splitKey line).1 <+: line := ⟨_, splitKey_append line⟩
  exact hbegins.eq_of_length_le hlength

/-- A blank behind a backslash belongs to the key, and a second separator to the value. -/
example : splitEntry "a\\ b : = c".toList = ("a\\ b".toList, "= c".toList) := by decide

end StartupReport.Properties
