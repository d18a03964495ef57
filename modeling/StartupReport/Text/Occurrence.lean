/-
StartupReport/Text/Occurrence.lean

One text inside another.

A text occurs in another if it is the beginning of one of the other's ends;
`occursIn_iff` says the same with the text before and the text after.
-/

namespace StartupReport.Text

/-- The first text occurs somewhere in the second. -/
def occursIn (part : List Char) : List Char → Bool
  | [] => part.isEmpty
  | c :: cs => part.isPrefixOf (c :: cs) || occursIn part cs

theorem occursIn_iff (part cs : List Char) :
    occursIn part cs = true ↔ ∃ before after, cs = before ++ part ++ after := by
  induction cs with
  | nil =>
    constructor
    · intro h
      simp only [occursIn, List.isEmpty_iff] at h
      exact ⟨[], [], by simp [h]⟩
    · rintro ⟨before, after, h⟩
      simp_all [occursIn]
  | cons c cs ih =>
    simp only [occursIn, Bool.or_eq_true, ih, List.isPrefixOf_iff_prefix]
    constructor
    · rintro (⟨after, h⟩ | ⟨before, after, h⟩)
      · exact ⟨[], after, by simpa using h.symm⟩
      · exact ⟨c :: before, after, by simp [h]⟩
    · rintro ⟨before, after, h⟩
      cases before with
      | nil => exact .inl ⟨after, by simpa using h.symm⟩
      | cons b before =>
        simp only [List.cons_append, List.cons.injEq] at h
        exact .inr ⟨before, after, h.2⟩

end StartupReport.Text
