/-
StartupReport/Text/Lowercase.lean

Lower case of a whole text.

Three rules make up the lower-case form.  Most letters have one of their own,
taken from a table; the capital I with a dot above becomes an i followed by a
combining dot; and the capital sigma becomes a final sigma at the end of a
word, an ordinary one elsewhere.  Only the last rule looks at the neighbours
of a character, so `lowerFrom` carries the text before the current position,
nearest character first.  On ASCII text none of this matters
(`lowerAt_of_ascii`), and neither does it matter what stands around such a text
(`lowerFrom_append_of_ascii`).
-/
import StartupReport.Text.CaseTable
import StartupReport.Text.Latin1

namespace StartupReport.Text

/-- The lower-case form in the table, or the number itself. -/
def lowerCode (n : Nat) : Nat :=
  match lowercaseRuns.find? fun r => r.1 ≤ n && n ≤ r.2.1 && (n - r.1) % r.2.2.1 == 0 with
  | some r => r.2.2.2 + (n - r.1)
  | none => n

/-- The nearest character that is not skipped is a cased letter. -/
def meetsCased (cs : List Char) : Bool :=
  match cs.dropWhile fun c => inRanges caseIgnorableRanges c.toNat with
  | [] => false
  | c :: _ => inRanges casedRanges c.toNat

/-- The lower-case form of a character between the text before it, nearest
character first, and the text after it. -/
def lowerAt (before : List Char) (c : Char) (after : List Char) : List Char :=
  if c = 'İ' then ['i', '\u0307']
  else if c = 'Σ' then [if meetsCased before && !meetsCased after then 'ς' else 'σ']
  else [Char.ofNat (lowerCode c.toNat)]

/-- The lower-case form of a text that stands after `before`. -/
def lowerFrom (before : List Char) : List Char → List Char
  | [] => []
  | c :: cs => lowerAt before c cs ++ lowerFrom (c :: before) cs

/-- The lower-case form of a text. -/
def lower (cs : List Char) : List Char := lowerFrom [] cs

/-- The characters outside ASCII whose upper-case form lies in ASCII. -/
def upperOutsideAscii : List (Char × List Char) :=
  [('ß', ['S', 'S']), ('ı', ['I']), ('ſ', ['S']), ('ﬀ', ['F', 'F']), ('ﬁ', ['F', 'I']),
   ('ﬂ', ['F', 'L']), ('ﬃ', ['F', 'F', 'I']), ('ﬄ', ['F', 'F', 'L']), ('ﬅ', ['S', 'T']),
   ('ﬆ', ['S', 'T'])]

/-- Upper case as far as it can lead to ASCII: ASCII letters, and the few others
whose upper-case form is made of them.  Every other character stays as it is,
outside ASCII, as its full upper-case form would. -/
def upperIntoAscii (cs : List Char) : List Char :=
  cs.flatMap fun c =>
    match upperOutsideAscii.lookup c with
    | some form => form
    | none => [c.toUpper]

/-! ### ASCII -/

/-- On ASCII the table changes the capital letters and nothing else. -/
theorem lowerCode_of_ascii {n : Nat} (h : n < 128) :
    Char.ofNat (lowerCode n) = (Char.ofNat n).toLower := by
  have all : ∀ m ∈ List.range 128, Char.ofNat (lowerCode m) = (Char.ofNat m).toLower := by
    decide +kernel
  exact all n (List.mem_range.mpr h)

/-- An ASCII character is lowered on its own, whatever stands around it. -/
theorem lowerAt_of_ascii {c : Char} (h : c.toNat < 128) (before after : List Char) :
    lowerAt before c after = [c.toLower] := by
  have h1 : c ≠ 'İ' := by rintro rfl; exact absurd h (by decide)
  have h2 : c ≠ 'Σ' := by rintro rfl; exact absurd h (by decide)
  have h3 := lowerCode_of_ascii h
  simp only [lowerAt, if_neg h1, if_neg h2, h3, Char.ofNat_toNat]

/-- The case of ASCII letters does not lead out of ASCII, nor into it. -/
theorem toNat_toLower_lt_iff {c : Char} : c.toLower.toNat < 128 ↔ c.toNat < 128 := by
  constructor
  · intro h
    unfold Char.toLower at h
    split at h
    · next hupper =>
      have hle : c.val.toNat ≤ 'Z'.val.toNat := UInt32.le_iff_toNat_le.1 hupper.2
      exact Nat.lt_of_le_of_lt hle (by decide)
    · exact h
  · intro h
    have all : ∀ n < 128, (Char.ofNat n).toLower.toNat < 128 := by decide +kernel
    exact Latin1.forall_of_forall_ofNat (fun d => d.toLower.toNat < 128) all h

/-- Whatever stands in front of a text, the text is lowered in its place. -/
theorem exists_lowerFrom_append (before xs ys : List Char) :
    ∃ us, lowerFrom before (xs ++ ys) = us ++ lowerFrom (xs.reverse ++ before) ys := by
  induction xs generalizing before with
  | nil => exact ⟨[], rfl⟩
  | cons x xs ih =>
    obtain ⟨us, hus⟩ := ih (x :: before)
    refine ⟨lowerAt before x (xs ++ ys) ++ us, ?_⟩
    rw [List.cons_append, lowerFrom, hus, List.reverse_cons, List.append_assoc, List.append_assoc]
    rfl

/-- A stretch of ASCII is lowered letter by letter, whatever stands around it. -/
theorem lowerFrom_append_of_ascii {xs : List Char} (h : ∀ c ∈ xs, c.toNat < 128)
    (before ys : List Char) :
    lowerFrom before (xs ++ ys) = xs.map Char.toLower ++ lowerFrom (xs.reverse ++ before) ys := by
  induction xs generalizing before with
  | nil => rfl
  | cons x xs ih =>
    rw [List.cons_append, lowerFrom, lowerAt_of_ascii (h x List.mem_cons_self),
      ih fun c hc => h c (List.mem_cons_of_mem x hc), List.reverse_cons, List.append_assoc]
    rfl

theorem lower_of_ascii {xs : List Char} (h : ∀ c ∈ xs, c.toNat < 128) :
    lower xs = xs.map Char.toLower := by
  have hlower := lowerFrom_append_of_ascii h [] []
  rw [List.append_nil] at hlower
  exact hlower.trans (List.append_nil _)

end StartupReport.Text
