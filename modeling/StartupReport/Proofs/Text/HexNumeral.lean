/-
StartupReport/Proofs/Text/HexNumeral.lean

Which texts are numerals in base sixteen, and what they denote.

`readInteger` takes a text apart from the outside: blanks, a sign, a mark of the
base, and digits with underscores between them.  Here each of these parts has a
rule of its own (`Continues`, `DigitString`, `HexMark`, `HexMagnitude`, `Signed`,
`Numeral`), said without a reader, and each stage of the reader is shown to take
what its rule allows.

Main result: `readInteger_sixteen_iff`, by which a text is read as a number iff it
is a numeral of that number.  Two facts about numerals follow from the rules alone:
a numeral is below the power of sixteen with its length (`lt_of_numeral`), and there
is no backslash in it (`not_mem_of_numeral`).
-/
import Mathlib.Algebra.Group.Nat.Defs
import Mathlib.Data.List.DropRight
import Mathlib.Data.Nat.Basic
import StartupReport.Text.Digit

namespace StartupReport.Text

/-! ### The rules -/

/-- A digit of a base: a decimal digit of any script or a letter of ASCII, and what
it counts. -/
def IsDigit (base : Nat) (c : Char) (d : Nat) : Prop := digitValue? c = some d ∧ d < base

/-- What may follow the digits that denote `value`, and the number they denote
together: digits, each with at most one underscore before it. -/
inductive Continues (base : Nat) : (value : Nat) → List Char → (result : Nat) → Prop
  | stop {value : Nat} : Continues base value [] value
  | digit {value result d : Nat} {c : Char} {cs : List Char} (hc : IsDigit base c d)
      (hrest : Continues base (base * value + d) cs result) :
      Continues base value (c :: cs) result
  | underscore {value result d : Nat} {c : Char} {cs : List Char} (hc : IsDigit base c d)
      (hrest : Continues base (base * value + d) cs result) :
      Continues base value ('_' :: c :: cs) result

/-- Digits, the first of them without an underscore. -/
inductive DigitString (base : Nat) : List Char → Nat → Prop
  | begin {d n : Nat} {c : Char} {cs : List Char} (hc : IsDigit base c d)
      (hrest : Continues base d cs n) : DigitString base (c :: cs) n

/-- What may stand before the digits: nothing, or a zero and an `x`, with or without
an underscore. -/
inductive HexMark : List Char → Prop
  | none : HexMark []
  | zeroX {z x : Char} (hz : decimalValue? z = some 0) (hx : x = 'x' ∨ x = 'X') : HexMark [z, x]
  | zeroXUnderscore {z x : Char} (hz : decimalValue? z = some 0) (hx : x = 'x' ∨ x = 'X') :
      HexMark [z, x, '_']

/-- A numeral without sign. -/
inductive HexMagnitude : List Char → Nat → Prop
  | of {mark digits : List Char} {n : Nat} (hmark : HexMark mark)
      (hdigits : DigitString 16 digits n) : HexMagnitude (mark ++ digits) n

/-- A numeral with at most one sign. -/
inductive Signed : List Char → Int → Prop
  | unsigned {cs : List Char} {n : Nat} (h : HexMagnitude cs n) : Signed cs n
  | plus {cs : List Char} {n : Nat} (h : HexMagnitude cs n) : Signed ('+' :: cs) n
  | minus {cs : List Char} {n : Nat} (h : HexMagnitude cs n) : Signed ('-' :: cs) (-n)

/-- A numeral in base sixteen, with blanks at its ends. -/
inductive Numeral : List Char → Int → Prop
  | of {before core behind : List Char} {n : Int} (hbefore : ∀ c ∈ before, isNumberBlank c = true)
      (hcore : Signed core n) (hbehind : ∀ c ∈ behind, isNumberBlank c = true) :
      Numeral (before ++ core ++ behind) n

/-! ### Digits -/

section
variable {base : Nat}

theorem not_isDigit_underscore (d : Nat) : ¬ IsDigit base '_' d := by
  rintro ⟨hvalue, -⟩
  have hnone : digitValue? '_' = none := by decide
  rw [hnone] at hvalue
  cases hvalue

/-- One more digit is read as such. -/
theorem readDigits_cons_iff {c : Char} (h : c ≠ '_') (value : Nat) (afterDigit : Bool)
    (cs : List Char) (n : Nat) :
    readDigits base value afterDigit (c :: cs) = some n ↔
      ∃ d, IsDigit base c d ∧ readDigits base (base * value + d) true cs = some n := by
  rw [readDigits, if_neg h]
  rcases hvalue : digitValue? c with - | d
  · simp [IsDigit, hvalue]
  · by_cases hd : d < base <;> simp [IsDigit, hvalue, hd]

/-- The reader of digits goes on as the rule says, behind a digit and behind an
underscore. -/
theorem readDigits_iff (cs : List Char) (value n : Nat) :
    (readDigits base value true cs = some n ↔ Continues base value cs n) ∧
      (readDigits base value false cs = some n ↔
        ∃ c d ds, cs = c :: ds ∧ IsDigit base c d ∧ Continues base (base * value + d) ds n) := by
  induction cs generalizing value with
  | nil =>
    constructor
    · rw [readDigits, if_pos rfl, Option.some.injEq]
      constructor
      · rintro rfl
        exact .stop
      · rintro ⟨⟩
        rfl
    · simp [readDigits]
  | cons c cs ih =>
    by_cases hc : c = '_'
    · subst hc
      constructor
      · -- an underscore behind a digit: the next character is a digit
        rw [readDigits, if_pos rfl, if_pos rfl, (ih value).2]
        constructor
        · rintro ⟨c, d, ds, rfl, hdigit, hrest⟩
          exact .underscore hdigit hrest
        · intro h
          cases h with
          | digit hdigit _ => exact absurd hdigit (not_isDigit_underscore _)
          | underscore hdigit hrest => exact ⟨_, _, _, rfl, hdigit, hrest⟩
      · rw [readDigits, if_pos rfl, if_neg Bool.false_ne_true]
        constructor
        · intro h
          cases h
        · rintro ⟨c, d, ds, hcs, hdigit, -⟩
          obtain ⟨rfl, rfl⟩ := List.cons.inj hcs
          exact absurd hdigit (not_isDigit_underscore _)
    · constructor
      · rw [readDigits_cons_iff hc]
        constructor
        · rintro ⟨d, hdigit, hrest⟩
          exact .digit hdigit ((ih _).1.1 hrest)
        · intro h
          cases h with
          | digit hdigit hrest => exact ⟨_, hdigit, (ih _).1.2 hrest⟩
          | underscore _ _ => exact absurd rfl hc
      · rw [readDigits_cons_iff hc]
        constructor
        · rintro ⟨d, hdigit, hrest⟩
          exact ⟨c, d, cs, rfl, hdigit, (ih _).1.1 hrest⟩
        · rintro ⟨c', d, ds, hcs, hdigit, hrest⟩
          obtain ⟨rfl, rfl⟩ := List.cons.inj hcs
          exact ⟨d, hdigit, (ih _).1.2 hrest⟩

theorem readDigits_eq_some_iff {cs : List Char} {n : Nat} :
    readDigits base 0 false cs = some n ↔ DigitString base cs n := by
  rw [(readDigits_iff cs 0 n).2]
  constructor
  · rintro ⟨c, d, ds, rfl, hdigit, hrest⟩
    rw [Nat.mul_zero, Nat.zero_add] at hrest
    exact .begin hdigit hrest
  · rintro ⟨hdigit, hrest⟩
    refine ⟨_, _, _, rfl, hdigit, ?_⟩
    rwa [Nat.mul_zero, Nat.zero_add]

end

/-! ### Magnitudes -/

/-- No digit of base sixteen is a letter of the mark. -/
theorem not_isDigit_mark {x : Char} (hx : x = 'x' ∨ x = 'X') (d : Nat) : ¬ IsDigit 16 x d := by
  rintro ⟨hvalue, hlt⟩
  have hletter : digitValue? x = some 33 := by
    rcases hx with rfl | rfl <;> decide
  rw [hletter, Option.some.injEq] at hvalue
  omega

theorem mem_baseMarks_iff {x : Char} : (baseMarks 16).contains x = true ↔ x = 'x' ∨ x = 'X' := by
  simp [baseMarks]

/-- A digit string does not begin like a mark. -/
theorem not_digitString_mark {z x : Char} {cs : List Char} {n : Nat} (hx : x = 'x' ∨ x = 'X') :
    ¬ DigitString 16 (z :: x :: cs) n := by
  rintro ⟨-, hrest⟩
  cases hrest with
  | digit hdigit _ => exact not_isDigit_mark hx _ hdigit
  | underscore _ _ => rcases hx with hx | hx <;> exact absurd hx (by decide)

/-- Behind a mark, and behind an underscore after it, the reader wants digits. -/
theorem readMagnitude_mark_iff {z x : Char} (hz : decimalValue? z = some 0) (hx : x = 'x' ∨ x = 'X')
    (cs : List Char) (n : Nat) :
    readMagnitude 16 (z :: x :: cs) = some n ↔
      DigitString 16 cs n ∨ ∃ ds, cs = '_' :: ds ∧ DigitString 16 ds n := by
  have hmark : (decide (decimalValue? z = some 0) && (baseMarks 16).contains x) = true := by
    rw [mem_baseMarks_iff.2 hx, hz]
    rfl
  by_cases hunder : ∃ ds, cs = '_' :: ds
  · obtain ⟨ds, rfl⟩ := hunder
    rw [readMagnitude, if_pos hmark, readDigits_eq_some_iff]
    constructor
    · intro h
      exact .inr ⟨ds, rfl, h⟩
    · rintro (⟨hdigit, -⟩ | ⟨ds', hds, h⟩)
      · exact absurd hdigit (not_isDigit_underscore _)
      · exact (List.cons.inj hds).2 ▸ h
  · rw [readMagnitude.eq_2 _ _ _ _ fun ds hds => hunder ⟨ds, hds⟩, if_pos hmark,
      readDigits_eq_some_iff]
    constructor
    · exact .inl
    · rintro (h | ⟨ds, rfl, -⟩)
      · exact h
      · exact absurd ⟨ds, rfl⟩ hunder

theorem readMagnitude_iff (cs : List Char) (n : Nat) :
    readMagnitude 16 cs = some n ↔ HexMagnitude cs n := by
  -- without the beginning of a mark, the text has to be a digit string
  have hplain (hcs : ∀ z x ds, cs = z :: x :: ds → decimalValue? z = some 0 →
      ¬ (x = 'x' ∨ x = 'X')) : HexMagnitude cs n ↔ DigitString 16 cs n := by
    constructor
    · rintro ⟨hmark, hdigits⟩
      cases hmark with
      | none => exact hdigits
      | zeroX hz hx => exact absurd hx (hcs _ _ _ rfl hz)
      | zeroXUnderscore hz hx => exact absurd hx (hcs _ _ _ rfl hz)
    · intro h
      have hunmarked : HexMagnitude ([] ++ cs) n := .of .none h
      exact hunmarked
  rcases cs with - | ⟨z, - | ⟨x, ds⟩⟩
  · rw [hplain nofun]
    exact readDigits_eq_some_iff
  · rw [hplain nofun]
    exact readDigits_eq_some_iff
  by_cases hbegin : decimalValue? z = some 0 ∧ (x = 'x' ∨ x = 'X')
  · obtain ⟨hz, hx⟩ := hbegin
    rw [readMagnitude_mark_iff hz hx]
    constructor
    · rintro (h | ⟨ds, rfl, h⟩)
      · exact .of (.zeroX hz hx) h
      · exact .of (.zeroXUnderscore hz hx) h
    · generalize hall : z :: x :: ds = all
      rintro ⟨hmark, hdigits⟩
      cases hmark with
      | none =>
        rw [List.nil_append] at hall
        exact absurd (hall ▸ hdigits) (not_digitString_mark hx)
      | zeroX _ _ =>
        obtain ⟨rfl, rfl, rfl⟩ : _ ∧ _ ∧ ds = _ := by simpa using hall
        exact .inl hdigits
      | zeroXUnderscore _ _ =>
        obtain ⟨rfl, rfl, rfl⟩ : _ ∧ _ ∧ ds = _ := by simpa using hall
        exact .inr ⟨_, rfl, hdigits⟩
  · have hmark : ¬ (decide (decimalValue? z = some 0) && (baseMarks 16).contains x) = true := by
      rw [Bool.and_eq_true, mem_baseMarks_iff, decide_eq_true_eq]
      exact hbegin
    have hwhole : readMagnitude 16 (z :: x :: ds) = readDigits 16 0 false (z :: x :: ds) := by
      rw [readMagnitude.eq_def]
      exact if_neg hmark
    rw [hwhole, readDigits_eq_some_iff, hplain]
    intro z' x' ds' hcs hz hx
    simp only [List.cons.injEq] at hcs
    obtain ⟨rfl, rfl, -⟩ := hcs
    exact hbegin ⟨hz, hx⟩

/-! ### What a numeral is made of -/

/-- The blanks around a numeral, by their numbers. -/
def numberBlanks : List Nat :=
  List.range' 0x09 5 ++ List.range' 0x2000 11 ++
    [0x20, 0x85, 0xA0, 0x1680, 0x2028, 0x2029, 0x202F, 0x205F, 0x3000]

theorem mem_numberBlanks {c : Char} (h : isNumberBlank c = true) : c.toNat ∈ numberBlanks := by
  simp only [isNumberBlank, isBlank, Bool.and_eq_true, Bool.or_eq_true, decide_eq_true_eq,
    beq_iff_eq, Bool.not_eq_true', Bool.and_eq_false_iff, decide_eq_false_iff_not] at h
  simp only [numberBlanks, List.mem_append, List.mem_range'_1, List.mem_cons, List.not_mem_nil,
    or_false]
  omega

/-- A digit is no blank, no sign and no backslash. -/
theorem plain_of_digitValue? {c : Char} {d : Nat} (h : digitValue? c = some d) :
    isNumberBlank c = false ∧ c ≠ '+' ∧ c ≠ '-' ∧ c ≠ '\\' := by
  have hnot (e : Char) (he : digitValue? e = none) : c ≠ e := by
    rintro rfl
    rw [h] at he
    cases he
  have hblank : isNumberBlank c ≠ true := by
    intro hblank
    -- there are digits in many scripts, so it is the blanks that are gone through
    have all : ∀ n ∈ numberBlanks, digitValue? (Char.ofNat n) = none := by decide
    have hnone := all _ (mem_numberBlanks hblank)
    rw [Char.ofNat_toNat, h] at hnone
    cases hnone
  exact ⟨Bool.eq_false_iff.2 hblank, hnot _ (by decide), hnot _ (by decide), hnot _ (by decide)⟩

theorem digitValue?_of_zero {z : Char} (hz : decimalValue? z = some 0) :
    digitValue? z = some 0 := by
  rw [digitValue?, hz]
  rfl

/-- The characters that carry digits on end with a digit. -/
theorem Continues.eq_nil_or_concat {base value n : Nat} {cs : List Char}
    (h : Continues base value cs n) :
    cs = [] ∨ ∃ ds c d, cs = ds ++ [c] ∧ digitValue? c = some d := by
  induction h with
  | stop => exact .inl rfl
  | @digit _ _ _ c _ hc _ ih =>
    rcases ih with rfl | ⟨ds, e, d, rfl, he⟩
    · exact .inr ⟨[], c, _, rfl, hc.1⟩
    · exact .inr ⟨c :: ds, e, d, rfl, he⟩
  | @underscore _ _ _ c _ hc _ ih =>
    rcases ih with rfl | ⟨ds, e, d, rfl, he⟩
    · exact .inr ⟨['_'], c, _, rfl, hc.1⟩
    · exact .inr ⟨'_' :: c :: ds, e, d, rfl, he⟩

/-- A magnitude begins with a digit. -/
theorem HexMagnitude.exists_cons {cs : List Char} {n : Nat} (h : HexMagnitude cs n) :
    ∃ c d ds, cs = c :: ds ∧ digitValue? c = some d := by
  obtain ⟨hmark, ⟨hdigit, -⟩⟩ := h
  cases hmark with
  | none => exact ⟨_, _, _, rfl, hdigit.1⟩
  | zeroX hz _ => exact ⟨_, _, _, rfl, digitValue?_of_zero hz⟩
  | zeroXUnderscore hz _ => exact ⟨_, _, _, rfl, digitValue?_of_zero hz⟩

/-- A magnitude ends with a digit. -/
theorem HexMagnitude.exists_concat {cs : List Char} {n : Nat} (h : HexMagnitude cs n) :
    ∃ ds c d, cs = ds ++ [c] ∧ digitValue? c = some d := by
  obtain @⟨mark, _, _, -, @⟨_, _, first, _, hdigit, hrest⟩⟩ := h
  rcases hrest.eq_nil_or_concat with rfl | ⟨ds, c, d, rfl, hc⟩
  · exact ⟨mark, first, _, rfl, hdigit.1⟩
  · exact ⟨mark ++ first :: ds, c, d, by rw [List.append_assoc, List.cons_append], hc⟩

/-- A numeral without blanks around it begins and ends with no blank. -/
theorem Signed.ends {cs : List Char} {n : Int} (h : Signed cs n) :
    (∃ c ds, cs = c :: ds ∧ isNumberBlank c = false) ∧
      ∃ ds c, cs = ds ++ [c] ∧ isNumberBlank c = false := by
  cases h with
  | unsigned h =>
    obtain ⟨c, d, ds, hcs, hc⟩ := h.exists_cons
    obtain ⟨es, e, d', hes, he⟩ := h.exists_concat
    exact ⟨⟨c, ds, hcs, (plain_of_digitValue? hc).1⟩, es, e, hes, (plain_of_digitValue? he).1⟩
  | plus h =>
    obtain ⟨es, e, d', rfl, he⟩ := h.exists_concat
    exact ⟨⟨'+', _, rfl, by decide⟩, '+' :: es, e, rfl, (plain_of_digitValue? he).1⟩
  | minus h =>
    obtain ⟨es, e, d', rfl, he⟩ := h.exists_concat
    exact ⟨⟨'-', _, rfl, by decide⟩, '-' :: es, e, rfl, (plain_of_digitValue? he).1⟩

/-! ### Signs and blanks -/

/-- The sign decides how the rest is read; a magnitude has none. -/
theorem readSigned_iff (cs : List Char) (n : Int) :
    (match cs with
      | '+' :: ds => (readMagnitude 16 ds).map Int.ofNat
      | '-' :: ds => (readMagnitude 16 ds).map fun n => -Int.ofNat n
      | ds => (readMagnitude 16 ds).map Int.ofNat) = some n ↔ Signed cs n := by
  have hsign {c : Char} {ds : List Char} {m : Nat} (hc : c = '+' ∨ c = '-') :
      ¬ HexMagnitude (c :: ds) m := by
    intro h
    obtain ⟨e, d, es, hes, he⟩ := h.exists_cons
    obtain ⟨rfl, -⟩ := List.cons.inj hes
    obtain ⟨-, hplus, hminus, -⟩ := plain_of_digitValue? he
    exact hc.elim hplus hminus
  split
  · next ds =>
    rw [Option.map_eq_some_iff]
    constructor
    · rintro ⟨m, hm, rfl⟩
      exact .plus ((readMagnitude_iff _ _).1 hm)
    · intro h
      cases h with
      | unsigned h => exact absurd h (hsign (.inl rfl))
      | plus h => exact ⟨_, (readMagnitude_iff _ _).2 h, rfl⟩
  · next ds =>
    rw [Option.map_eq_some_iff]
    constructor
    · rintro ⟨m, hm, rfl⟩
      exact .minus ((readMagnitude_iff _ _).1 hm)
    · intro h
      cases h with
      | unsigned h => exact absurd h (hsign (.inr rfl))
      | minus h => exact ⟨_, (readMagnitude_iff _ _).2 h, rfl⟩
  · next hplus hminus =>
    rw [Option.map_eq_some_iff]
    constructor
    · rintro ⟨m, hm, rfl⟩
      exact .unsigned ((readMagnitude_iff _ _).1 hm)
    · intro h
      cases h with
      | unsigned h => exact ⟨_, (readMagnitude_iff _ _).2 h, rfl⟩
      | plus h => exact absurd rfl (hplus _)
      | minus h => exact absurd rfl (hminus _)

/-- Dropping what satisfies `p` from both ends cuts it off there and nowhere else. -/
theorem exists_ends_of_drop (p : Char → Bool) (cs : List Char) :
    ∃ before behind, cs = before ++ dropEndWhile p (cs.dropWhile p) ++ behind ∧
      (∀ c ∈ before, p c = true) ∧ ∀ c ∈ behind, p c = true := by
  have hend (ds : List Char) :
      ds = dropEndWhile p ds ++ (ds.reverse.takeWhile p).reverse := by
    rw [dropEndWhile_eq_reverse, ← List.reverse_append, List.takeWhile_append_dropWhile,
      List.reverse_reverse]
  refine ⟨cs.takeWhile p, ((cs.dropWhile p).reverse.takeWhile p).reverse, ?_,
    fun c hc => List.mem_takeWhile_imp hc, fun c hc => ?_⟩
  · rw [List.append_assoc, ← hend, List.takeWhile_append_dropWhile]
  · exact List.mem_takeWhile_imp (List.mem_reverse.1 hc)

/-- What begins and ends otherwise is left when `p` is dropped from both ends. -/
theorem drop_ends {p : Char → Bool} {before core behind : List Char}
    (hbefore : ∀ c ∈ before, p c = true) (hbehind : ∀ c ∈ behind, p c = true)
    (hfirst : ∃ c ds, core = c :: ds ∧ p c = false) (hlast : ∃ ds c, core = ds ++ [c] ∧ p c = false) :
    dropEndWhile p ((before ++ core ++ behind).dropWhile p) = core := by
  have hnil : dropEndWhile p behind = [] := by
    rw [dropEndWhile_eq_reverse, List.reverse_eq_nil_iff, List.dropWhile_eq_nil_iff]
    exact fun c hc => hbehind c (List.mem_reverse.1 hc)
  have hstart : (core ++ behind).dropWhile p = core ++ behind := by
    obtain ⟨c, ds, rfl, hc⟩ := hfirst
    rw [List.cons_append, List.dropWhile_cons_of_neg (by simp [hc])]
  rw [List.append_assoc, List.dropWhile_append_of_pos hbefore, hstart, dropEndWhile_append,
    if_pos hnil]
  obtain ⟨ds, c, rfl, hc⟩ := hlast
  rw [dropEndWhile_append_singleton, hc, if_neg Bool.false_ne_true]

/-- **Numerals in base sixteen.**  A text is read as a number iff it is a numeral of
it: blanks, a sign, a mark of the base, and digits of any script with single
underscores between them. -/
theorem readInteger_sixteen_iff (cs : List Char) (n : Int) :
    readInteger 16 cs = some n ↔ Numeral cs n := by
  have hsigned : readInteger 16 cs = some n ↔
      Signed (dropEndWhile isNumberBlank (cs.dropWhile isNumberBlank)) n := by
    rw [readInteger, if_neg (by simp [isTooLong])]
    exact readSigned_iff _ n
  rw [hsigned]
  constructor
  · intro h
    obtain ⟨before, behind, hcs, hbefore, hbehind⟩ := exists_ends_of_drop isNumberBlank cs
    rw [hcs]
    exact .of hbefore h hbehind
  · rintro ⟨hbefore, hcore, hbehind⟩
    obtain ⟨hfirst, hlast⟩ := hcore.ends
    rwa [drop_ends hbefore hbehind hfirst hlast]

/-! ### Size and characters of a numeral -/

theorem Continues.lt {base value n : Nat} {cs : List Char} (h : Continues base value cs n) :
    n < (value + 1) * base ^ cs.length := by
  -- one more digit stays below the next multiple of the base
  have hstep {value d : Nat} (hd : d < base) : base * value + d + 1 ≤ (value + 1) * base := by
    rw [Nat.add_mul, Nat.one_mul, Nat.mul_comm value]
    omega
  induction h with
  | stop => simp
  | digit hc _ ih =>
    refine ih.trans_le ?_
    rw [List.length_cons, Nat.pow_succ, Nat.mul_comm (base ^ _), ← Nat.mul_assoc]
    exact Nat.mul_le_mul_right _ (hstep hc.2)
  | @underscore _ _ _ _ cs hc _ ih =>
    have hbase : 0 < base := Nat.zero_lt_of_lt hc.2
    refine ih.trans_le ?_
    calc _ ≤ _ := Nat.mul_le_mul_right (base ^ cs.length) (hstep hc.2)
      _ = _ * base ^ (cs.length + 1) := by
        rw [Nat.pow_succ, Nat.mul_comm (base ^ _), ← Nat.mul_assoc]
      _ ≤ _ := Nat.mul_le_mul_left _ (Nat.pow_le_pow_right hbase (Nat.le_succ _))

theorem HexMagnitude.lt {cs : List Char} {n : Nat} (h : HexMagnitude cs n) :
    n < 16 ^ cs.length := by
  obtain @⟨mark, _, _, -, @⟨_, _, _, cs, hdigit, hrest⟩⟩ := h
  rw [List.length_append, List.length_cons]
  calc n < _ := hrest.lt
    _ ≤ 16 * 16 ^ cs.length := Nat.mul_le_mul_right _ hdigit.2
    _ = 16 ^ (cs.length + 1) := by rw [Nat.pow_succ, Nat.mul_comm]
    _ ≤ _ := Nat.pow_le_pow_right (by decide) (Nat.le_add_left _ _)

/-- A numeral is below the power of sixteen with its length. -/
theorem lt_of_numeral {cs : List Char} {n : Int} (h : Numeral cs n) :
    n.natAbs < 16 ^ cs.length := by
  obtain @⟨before, core, behind, n, -, hcore, -⟩ := h
  have hle : core.length ≤ (before ++ core ++ behind).length := by
    simp only [List.length_append]
    omega
  refine lt_of_lt_of_le ?_ (Nat.pow_le_pow_right (by decide) hle)
  cases hcore with
  | unsigned h => exact h.lt
  | plus h => exact h.lt.trans (Nat.pow_lt_pow_right (by decide) (Nat.lt_succ_self _))
  | minus h =>
    rw [Int.natAbs_neg]
    exact h.lt.trans (Nat.pow_lt_pow_right (by decide) (Nat.lt_succ_self _))

theorem Continues.not_mem {base value n : Nat} {cs : List Char} (h : Continues base value cs n) :
    '\\' ∉ cs := by
  have hdigit {c : Char} {d : Nat} (hc : IsDigit base c d) : '\\' ≠ c :=
    Ne.symm (plain_of_digitValue? hc.1).2.2.2
  induction h with
  | stop => exact List.not_mem_nil
  | digit hc _ ih =>
    rw [List.mem_cons, not_or]
    exact ⟨hdigit hc, ih⟩
  | underscore hc _ ih =>
    rw [List.mem_cons, List.mem_cons, not_or, not_or]
    exact ⟨by decide, hdigit hc, ih⟩

theorem HexMark.not_mem {mark : List Char} (h : HexMark mark) : '\\' ∉ mark := by
  have hzero {z : Char} (hz : decimalValue? z = some 0) : '\\' ≠ z :=
    Ne.symm (plain_of_digitValue? (digitValue?_of_zero hz)).2.2.2
  have hletter {x : Char} (hx : x = 'x' ∨ x = 'X') : '\\' ≠ x := by
    rcases hx with rfl | rfl <;> decide
  cases h with
  | none => exact List.not_mem_nil
  | zeroX hz hx => simp [hzero hz, hletter hx]
  | zeroXUnderscore hz hx => simp [hzero hz, hletter hx]

theorem HexMagnitude.not_mem {cs : List Char} {n : Nat} (h : HexMagnitude cs n) : '\\' ∉ cs := by
  obtain ⟨hmark, ⟨hdigit, hrest⟩⟩ := h
  rw [List.mem_append, List.mem_cons, not_or, not_or]
  exact ⟨hmark.not_mem, Ne.symm (plain_of_digitValue? hdigit.1).2.2.2, hrest.not_mem⟩

/-- There is no backslash in a numeral. -/
theorem not_mem_of_numeral {cs : List Char} {n : Int} (h : Numeral cs n) : '\\' ∉ cs := by
  obtain ⟨hbefore, hcore, hbehind⟩ := h
  have hblank : isNumberBlank '\\' ≠ true := by decide
  rw [List.mem_append, List.mem_append, not_or, not_or]
  refine ⟨⟨fun h => hblank (hbefore _ h), ?_⟩, fun h => hblank (hbehind _ h)⟩
  cases hcore with
  | unsigned h => exact h.not_mem
  | plus h => simpa using h.not_mem
  | minus h => simpa using h.not_mem

end StartupReport.Text
