/-
StartupReport/Text/Line.lean

Three ways of cutting a text into lines.

`splitLines` ends a line at any line boundary and drops the
boundary; `streamLines` ends a line at a line feed only and keeps it;
`normalizeNewlines` turns a carriage return, with or without a line feed after
it, into a line feed.  `flatten_streamLines` says that cutting a stream loses
nothing.
-/

namespace StartupReport.Text

/-- A character that ends a line of a text. -/
def isLineBreak (c : Char) : Bool :=
  let n := c.toNat
  (0x0A ≤ n && n ≤ 0x0D) || (0x1C ≤ n && n ≤ 0x1E) || n == 0x85 || n == 0x2028 || n == 0x2029

/-- Adds a character in front of the first line. -/
def consToFirst (c : Char) : List (List Char) → List (List Char)
  | [] => [[c]]
  | l :: ls => (c :: l) :: ls

/-- The lines of a text without their boundaries; a boundary at the very end
opens no further line. -/
def splitLines : List Char → List (List Char)
  | [] => []
  | [c] => if isLineBreak c then [[]] else [[c]]
  | c :: d :: cs =>
    if isLineBreak c then
      if c = '\r' && d = '\n' then [] :: splitLines cs else [] :: splitLines (d :: cs)
    else consToFirst c (splitLines (d :: cs))

/-- The lines of a stream, each with the line feed that ends it. -/
def streamLines : List Char → List (List Char)
  | [] => []
  | c :: cs => if c = '\n' then ['\n'] :: streamLines cs else consToFirst c (streamLines cs)

/-- Text in which every line end is a single line feed. -/
def normalizeNewlines : List Char → List Char
  | [] => []
  | [c] => if c = '\r' then ['\n'] else [c]
  | c :: d :: cs =>
    if c = '\r' then
      if d = '\n' then '\n' :: normalizeNewlines cs else '\n' :: normalizeNewlines (d :: cs)
    else c :: normalizeNewlines (d :: cs)

/-! ### Nothing is lost -/

theorem flatten_consToFirst (c : Char) (ls : List (List Char)) :
    (consToFirst c ls).flatten = c :: ls.flatten := by
  cases ls <;> simp [consToFirst]

theorem flatten_streamLines (cs : List Char) : (streamLines cs).flatten = cs := by
  induction cs with
  | nil => rfl
  | cons c cs ih => by_cases h : c = '\n' <;> simp [streamLines, h, flatten_consToFirst, ih]

/-! ### Cutting a concatenation -/

theorem streamLines_append_of_not_mem {xs : List Char} (h : '\n' ∉ xs) (ys : List Char) :
    streamLines (xs ++ ys) = xs.foldr consToFirst (streamLines ys) := by
  induction xs with
  | nil => rfl
  | cons x xs ih =>
    simp only [List.mem_cons, not_or] at h
    rw [List.cons_append, streamLines, if_neg (Ne.symm h.1), ih h.2, List.foldr_cons]

theorem foldr_consToFirst_cons (xs l : List Char) (ls : List (List Char)) :
    xs.foldr consToFirst (l :: ls) = (xs ++ l) :: ls := by
  induction xs with
  | nil => rfl
  | cons x xs ih => simp [ih, consToFirst]

theorem foldr_consToFirst_nil {xs : List Char} (h : xs ≠ []) :
    xs.foldr consToFirst [] = [xs] := by
  induction xs with
  | nil => exact absurd rfl h
  | cons x xs ih =>
    cases xs with
    | nil => rfl
    | cons y ys => rw [List.foldr_cons, ih (List.cons_ne_nil _ _), consToFirst]

/-- A line holds no line feed but the one that ends it. -/
theorem not_mem_dropLast_of_mem_streamLines {cs l : List Char} (h : l ∈ streamLines cs) :
    '\n' ∉ l.dropLast := by
  induction cs generalizing l with
  | nil => cases h
  | cons c cs ih =>
    by_cases hc : c = '\n'
    · rw [streamLines, if_pos hc] at h
      rcases List.mem_cons.1 h with rfl | h
      · exact List.not_mem_nil
      · exact ih h
    · rw [streamLines, if_neg hc] at h
      rcases hls : streamLines cs with - | ⟨l', ls⟩
      · rw [hls] at h
        obtain rfl := List.mem_singleton.1 h
        exact List.not_mem_nil
      · rw [hls] at h ih
        rcases List.mem_cons.1 h with rfl | h
        · have hl' := ih List.mem_cons_self
          cases l' with
          | nil => exact List.not_mem_nil
          | cons d ds =>
            rw [List.dropLast_cons_of_ne_nil (List.cons_ne_nil _ _), List.mem_cons, not_or]
            exact ⟨Ne.symm hc, hl'⟩
        · exact ih (List.mem_cons_of_mem _ h)

theorem normalizeNewlines_cons_of_ne {c : Char} (h : c ≠ '\r') (cs : List Char) :
    normalizeNewlines (c :: cs) = c :: normalizeNewlines cs := by
  cases cs <;> simp [normalizeNewlines, h]

theorem normalizeNewlines_append_of_not_mem {xs : List Char} (h : '\r' ∉ xs)
    (ys : List Char) : normalizeNewlines (xs ++ ys) = xs ++ normalizeNewlines ys := by
  induction xs with
  | nil => rfl
  | cons x xs ih =>
    simp only [List.mem_cons, not_or] at h
    rw [List.cons_append, normalizeNewlines_cons_of_ne (Ne.symm h.1), ih h.2, List.cons_append]

/-- After normalizing there is no carriage return left. -/
theorem not_mem_normalizeNewlines (cs : List Char) : '\r' ∉ normalizeNewlines cs := by
  fun_induction normalizeNewlines cs <;> simp_all <;> grind

/-! ### Cutting at a line feed -/

theorem consToFirst_append (c : Char) {ls : List (List Char)} (h : ls ≠ [])
    (ms : List (List Char)) : consToFirst c (ls ++ ms) = consToFirst c ls ++ ms := by
  cases ls with
  | nil => exact absurd rfl h
  | cons l ls => rfl

theorem streamLines_ne_nil {cs : List Char} (h : cs ≠ []) : streamLines cs ≠ [] := by
  intro hnil
  have hflat := flatten_streamLines cs
  rw [hnil] at hflat
  exact h hflat.symm

/-- A line feed ends a line, whatever comes after it. -/
theorem streamLines_append_newline (xs ys : List Char) :
    streamLines (xs ++ '\n' :: ys) = streamLines (xs ++ ['\n']) ++ streamLines ys := by
  induction xs with
  | nil => rfl
  | cons x xs ih =>
    have hne : streamLines (xs ++ ['\n']) ≠ [] := streamLines_ne_nil (by simp)
    by_cases hx : x = '\n'
    · simp only [List.cons_append, streamLines, if_pos hx, ih]
    · simp only [List.cons_append, streamLines, if_neg hx, ih, consToFirst_append x hne]

/-- A line feed stays a line feed, and what stands behind it is normalized on its
own. -/
theorem exists_normalizeNewlines_append_newline (xs : List Char) :
    ∃ zs, ∀ ys, normalizeNewlines (xs ++ '\n' :: ys) = zs ++ '\n' :: normalizeNewlines ys := by
  have hline (ys : List Char) : normalizeNewlines ('\n' :: ys) = '\n' :: normalizeNewlines ys :=
    normalizeNewlines_cons_of_ne (by decide) ys
  fun_induction normalizeNewlines xs with
  | case1 => exact ⟨[], hline⟩
  | case2 =>
    -- the line feed belongs to the carriage return before it
    exact ⟨[], fun ys => rfl⟩
  | case3 c hc =>
    refine ⟨[c], fun ys => ?_⟩
    rw [List.singleton_append, normalizeNewlines_cons_of_ne hc, hline, List.singleton_append]
  | case4 cs ih =>
    obtain ⟨zs, hzs⟩ := ih
    refine ⟨'\n' :: zs, fun ys => ?_⟩
    simp only [List.cons_append, normalizeNewlines, if_true, hzs]
  | case5 d cs hd ih =>
    obtain ⟨zs, hzs⟩ := ih
    refine ⟨'\n' :: zs, fun ys => ?_⟩
    simp only [List.cons_append] at hzs ⊢
    rw [normalizeNewlines, if_pos rfl, if_neg hd, hzs]
  | case6 c d cs hc ih =>
    obtain ⟨zs, hzs⟩ := ih
    refine ⟨c :: zs, fun ys => ?_⟩
    simp only [List.cons_append] at hzs ⊢
    rw [normalizeNewlines_cons_of_ne hc, hzs]

/-- A carriage return is read as a line feed, alone or together with the line feed
after it. -/
theorem exists_normalizeNewlines_cons_return (cs : List Char) :
    ∃ ds, normalizeNewlines ('\r' :: cs) = '\n' :: ds := by
  cases cs with
  | nil => exact ⟨[], rfl⟩
  | cons c cs =>
    by_cases hc : c = '\n'
    · exact ⟨_, by rw [normalizeNewlines, if_pos rfl, if_pos hc]⟩
    · exact ⟨_, by rw [normalizeNewlines, if_pos rfl, if_neg hc]⟩

end StartupReport.Text
