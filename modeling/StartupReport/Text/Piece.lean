/-
StartupReport/Text/Piece.lean

Cutting a text at every occurrence of a character.

There is always one piece more than there are cuts.  The pieces of a text begin
with those of another one if it goes on with the character after that one or is
the same (`pieces_prefix_iff`).
-/

namespace StartupReport.Text

/-- The pieces of a text between the occurrences of a character. -/
def pieces (mark : Char) : List Char → List (List Char)
  | [] => [[]]
  | c :: cs =>
    if c = mark then [] :: pieces mark cs
    else
      match pieces mark cs with
      | [] => [[c]]
      | p :: ps => (c :: p) :: ps

theorem pieces_ne_nil (mark : Char) (cs : List Char) : pieces mark cs ≠ [] := by
  cases cs with
  | nil => simp [pieces]
  | cons c cs =>
    by_cases h : c = mark
    · simp [pieces, h]
    · simp only [pieces, h, if_false]
      split <;> simp

/-! ### Texts that begin with the pieces of another -/

theorem pieces_mark_cons (mark : Char) (cs : List Char) :
    pieces mark (mark :: cs) = [] :: pieces mark cs := by
  simp [pieces]

/-- Any other character goes to the front of the first piece. -/
theorem exists_pieces_cons {mark c : Char} (h : c ≠ mark) (cs : List Char) :
    ∃ p ps, pieces mark cs = p :: ps ∧ pieces mark (c :: cs) = (c :: p) :: ps := by
  obtain ⟨p, ps, hp⟩ := List.exists_cons_of_ne_nil (pieces_ne_nil mark cs)
  exact ⟨p, ps, hp, by simp [pieces, h, hp]⟩

/-- The pieces of a text begin with those of another one if the texts are the same, or
if the one goes on with the mark where the other one ends. -/
theorem pieces_prefix_iff (mark : Char) (cs ds : List Char) :
    pieces mark cs <+: pieces mark ds ↔ cs = ds ∨ cs ++ [mark] <+: ds := by
  induction cs generalizing ds with
  | nil =>
    cases ds with
    | nil => simp
    | cons d ds =>
      by_cases hd : d = mark
      · subst hd
        simp [pieces, List.cons_prefix_cons]
      · obtain ⟨q, qs, -, hds⟩ := exists_pieces_cons hd ds
        rw [hds]
        simp [pieces, List.cons_prefix_cons, Ne.symm hd]
  | cons c cs ih =>
    -- the first pieces agree only if the first characters do
    cases ds with
    | nil =>
      by_cases hc : c = mark
      · subst hc
        simp [pieces, List.cons_prefix_cons, pieces_ne_nil]
      · obtain ⟨p, ps, -, hcs⟩ := exists_pieces_cons hc cs
        rw [hcs]
        simp [pieces, List.cons_prefix_cons]
    | cons d ds =>
      by_cases hc : c = mark
      · by_cases hd : d = mark
        · subst hc hd
          rw [pieces_mark_cons, pieces_mark_cons, List.cons_prefix_cons, ih]
          simp [List.cons_prefix_cons]
        · obtain ⟨q, qs, -, hds⟩ := exists_pieces_cons hd ds
          subst hc
          rw [pieces_mark_cons, hds]
          simp [List.cons_prefix_cons, Ne.symm hd]
      · obtain ⟨p, ps, hp, hcs⟩ := exists_pieces_cons hc cs
        by_cases hd : d = mark
        · subst hd
          rw [pieces_mark_cons, hcs]
          simp [List.cons_prefix_cons, hc]
        · obtain ⟨q, qs, hq, hds⟩ := exists_pieces_cons hd ds
          have ih' := ih ds
          rw [hp, hq, List.cons_prefix_cons] at ih'
          rw [hcs, hds, List.cons_prefix_cons, List.cons.injEq, and_assoc, ih', List.cons.injEq,
            List.cons_append, List.cons_prefix_cons, and_or_left]

end StartupReport.Text
