/-
StartupReport/Text/Blank.lean

Blank characters and the two ways of dropping them.

A character is blank when Unicode calls it a space separator or gives it one
of the bidirectional classes of white space and separators; the table has
twenty-nine members, of which ten are ASCII.  `trimStart`, `trimEnd` and
`trim` remove blanks from one or both ends and nothing else
(`dropEndWhile_eq_reverse`, `isBlank_of_head?_trim`, `isBlank_of_getLast?_trim`).
-/

namespace StartupReport.Text

/-- A blank: tab to carriage return, the four information separators, space,
next line, no-break space, and the space separators beyond Latin-1. -/
def isBlank (c : Char) : Bool :=
  let n := c.toNat
  (0x09 ≤ n && n ≤ 0x0D) || (0x1C ≤ n && n ≤ 0x20) || n == 0x85 || n == 0xA0 ||
    n == 0x1680 || (0x2000 ≤ n && n ≤ 0x200A) || n == 0x2028 || n == 0x2029 ||
    n == 0x202F || n == 0x205F || n == 0x3000

/-- The blanks that separate the parts of a number: as `isBlank`, but of the
ASCII ones only tab to carriage return and the space itself. -/
def isNumberBlank (c : Char) : Bool :=
  isBlank c && !(0x1C ≤ c.toNat && c.toNat ≤ 0x1F)

/-- Drops the longest final stretch of characters that satisfy `p`. -/
def dropEndWhile (p : Char → Bool) : List Char → List Char
  | [] => []
  | c :: cs =>
    match dropEndWhile p cs with
    | [] => if p c then [] else [c]
    | d :: ds => c :: d :: ds

/-- Text without its leading blanks. -/
def trimStart (cs : List Char) : List Char := cs.dropWhile isBlank

/-- Text without its trailing blanks. -/
def trimEnd (cs : List Char) : List Char := dropEndWhile isBlank cs

/-- Text without blanks at either end. -/
def trim (cs : List Char) : List Char := trimEnd (trimStart cs)

/-! ### Laws of the trimming functions -/

theorem dropEndWhile_append_singleton (p : Char → Bool) (cs : List Char) (c : Char) :
    dropEndWhile p (cs ++ [c]) = if p c then dropEndWhile p cs else cs ++ [c] := by
  induction cs with
  | nil => by_cases h : p c <;> simp [dropEndWhile, h]
  | cons d ds ih =>
    by_cases h : p c
    · simp [dropEndWhile, ih, h]
    · have : dropEndWhile p (ds ++ [c]) = ds ++ [c] := by simp [ih, h]
      simp only [List.cons_append, dropEndWhile, this, h]
      cases ds <;> simp

theorem dropEndWhile_eq_reverse (p : Char → Bool) (cs : List Char) :
    dropEndWhile p cs = (cs.reverse.dropWhile p).reverse := by
  suffices h : ∀ rs : List Char, dropEndWhile p rs.reverse = (rs.dropWhile p).reverse by
    simpa using h cs.reverse
  intro rs
  induction rs with
  | nil => rfl
  | cons c rs ih =>
    rw [List.reverse_cons, dropEndWhile_append_singleton]
    by_cases h : p c <;> simp [h, ih]

/-- A final stretch reaches into the first part only if it takes the whole of the
second. -/
theorem dropEndWhile_append (p : Char → Bool) (xs ys : List Char) :
    dropEndWhile p (xs ++ ys) =
      if dropEndWhile p ys = [] then dropEndWhile p xs else xs ++ dropEndWhile p ys := by
  induction xs with
  | nil => by_cases h : dropEndWhile p ys = [] <;> simp [dropEndWhile, h]
  | cons x xs ih =>
    rw [List.cons_append, dropEndWhile, ih]
    by_cases h : dropEndWhile p ys = []
    · simp [dropEndWhile, h]
    · obtain ⟨d, ds, hd⟩ := List.exists_cons_of_ne_nil h
      cases xs <;> simp [hd]

/-- A text none of whose characters satisfies `p` keeps its end. -/
theorem dropEndWhile_of_forall {p : Char → Bool} {cs : List Char}
    (h : ∀ c ∈ cs, p c = false) : dropEndWhile p cs = cs := by
  induction cs with
  | nil => rfl
  | cons c cs ih =>
    rw [dropEndWhile, ih fun d hd => h d (List.mem_cons_of_mem _ hd)]
    cases cs <;> simp [h c List.mem_cons_self]

/-- The first character stays unless everything goes. -/
theorem head?_dropEndWhile {p : Char → Bool} {cs : List Char} {c : Char}
    (h : (dropEndWhile p cs).head? = some c) : cs.head? = some c := by
  cases cs with
  | nil => cases h
  | cons d ds =>
    rw [dropEndWhile] at h
    split at h
    · split at h
      · cases h
      · exact h
    · exact h

/-- A text is its leading blanks and what is left without them. -/
theorem takeWhile_append_trimStart (cs : List Char) : cs.takeWhile isBlank ++ trimStart cs = cs :=
  List.takeWhile_append_dropWhile

/-- Blanks in front of a text that begins with none are all that is removed. -/
theorem trimStart_append {blanks : List Char} (h : ∀ c ∈ blanks, isBlank c = true)
    {cs : List Char} (hcs : ∀ c ∈ cs.head?, isBlank c = false) : trimStart (blanks ++ cs) = cs := by
  rw [trimStart, List.dropWhile_append_of_pos h]
  cases cs with
  | nil => rfl
  | cons c cs => exact List.dropWhile_cons_of_neg (by rw [hcs c rfl]; exact Bool.false_ne_true)

/-- Without its leading blanks a text begins with no blank. -/
theorem isBlank_of_head?_trimStart {cs : List Char} {c : Char}
    (h : (trimStart cs).head? = some c) : isBlank c = false := by
  have hnot := List.head?_dropWhile_not isBlank cs
  rw [← trimStart, h] at hnot
  simpa using hnot

/-- What is trimmed begins with no blank. -/
theorem isBlank_of_head?_trim {cs : List Char} {c : Char} (h : (trim cs).head? = some c) :
    isBlank c = false :=
  isBlank_of_head?_trimStart (head?_dropEndWhile h)

/-- What is trimmed ends in no blank. -/
theorem isBlank_of_getLast?_trim {cs : List Char} {c : Char}
    (h : (trim cs).getLast? = some c) : isBlank c = false := by
  rw [trim, trimEnd, dropEndWhile_eq_reverse, List.getLast?_reverse] at h
  have hnot := List.head?_dropWhile_not isBlank (trimStart cs).reverse
  rw [h] at hnot
  simpa using hnot

end StartupReport.Text
