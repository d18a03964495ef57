/-
StartupReport/Proofs/Properties/PlainPairs.lean

The keys and values that a text without escapes holds, one after another.

`plainPairs` is what the plain reader finds in a text before a later pair
replaces an earlier one with its key.  It can be computed piece by piece:
whatever stands before a line feed has no influence on what stands behind it
(`plainPairs_append_newline`), so a text made of lines holds what each of its
lines holds (`plainPairs_flatMap`).  A line may still be cut further, at the
line ends inside it; its first part is then a line of its own
(`exists_fileLines_eq`).
-/
import StartupReport.Proofs.Properties.PlainReader

namespace StartupReport.Properties

open Text (isBlank streamLines normalizeNewlines)

/-! ### Lines of a file -/

/-- The lines of a text in which a carriage return, alone or before a line feed,
ends a line just as a line feed does. -/
def fileLines (cs : List Char) : List (List Char) := streamLines (normalizeNewlines cs)

/-- A text without line ends. -/
def OnOneLine (cs : List Char) : Prop := ∀ c ∈ cs, isLineEnd c = false

instance (cs : List Char) : Decidable (OnOneLine cs) :=
  List.decidableBAll (fun c => isLineEnd c = false) cs

theorem onOneLine_iff {cs : List Char} : OnOneLine cs ↔ '\r' ∉ cs ∧ '\n' ∉ cs := by
  constructor
  · intro h
    exact ⟨fun hcr => absurd (h _ hcr) (by decide), fun hlf => absurd (h _ hlf) (by decide)⟩
  · rintro ⟨hcr, hlf⟩ c hc
    refine Bool.eq_false_iff.2 fun hend => ?_
    simp only [isLineEnd, Bool.or_eq_true, beq_iff_eq] at hend
    rcases hend with rfl | rfl
    exacts [hcr hc, hlf hc]

theorem Survives.onOneLine {value : List Char} (h : Survives value) : OnOneLine value :=
  onOneLine_iff.2 ⟨h.1, h.2.1⟩

/-- Nothing is dropped in front of a value that survives. -/
theorem Survives.dropWhile_eq {value : List Char} (h : Survives value) :
    value.dropWhile isByteBlank = value := by
  cases value with
  | nil => rfl
  | cons c cs => exact List.dropWhile_cons_of_neg (by simp [h.2.2 c rfl])

/-- What stands before a line feed is cut into lines on its own. -/
theorem fileLines_append_newline (xs ys : List Char) :
    fileLines (xs ++ '\n' :: ys) = fileLines (xs ++ ['\n']) ++ fileLines ys := by
  obtain ⟨zs, hzs⟩ := Text.exists_normalizeNewlines_append_newline xs
  rw [fileLines, fileLines, fileLines, hzs ys, hzs [], Text.streamLines_append_newline]
  rfl

/-- At its first line end a text is cut, and the line before it is whole. -/
theorem exists_fileLines_eq {xs : List Char} (h : OnOneLine xs) {e : Char}
    (he : isLineEnd e = true) (ys : List Char) :
    ∃ lines, fileLines (xs ++ e :: ys) = (xs ++ ['\n']) :: lines := by
  obtain ⟨hcr, hlf⟩ := onOneLine_iff.1 h
  have hfeed : ∃ ds, normalizeNewlines (e :: ys) = '\n' :: ds := by
    simp only [isLineEnd, Bool.or_eq_true, beq_iff_eq] at he
    rcases he with rfl | rfl
    · exact Text.exists_normalizeNewlines_cons_return ys
    · exact ⟨_, Text.normalizeNewlines_cons_of_ne (by decide) ys⟩
  obtain ⟨ds, hds⟩ := hfeed
  refine ⟨streamLines ds, ?_⟩
  rw [fileLines, Text.normalizeNewlines_append_of_not_mem hcr, hds,
    Text.streamLines_append_of_not_mem hlf, streamLines, if_pos rfl, Text.foldr_consToFirst_cons]

/-- A text without line ends is a single line. -/
theorem fileLines_of_onOneLine {xs : List Char} (h : OnOneLine xs) :
    fileLines (xs ++ ['\n']) = [xs ++ ['\n']] := by
  obtain ⟨hcr, hlf⟩ := onOneLine_iff.1 h
  have hnormal : normalizeNewlines (xs ++ ['\n']) = xs ++ ['\n'] :=
    Text.normalizeNewlines_append_of_not_mem hcr ['\n']
  rw [fileLines, hnormal, Text.streamLines_append_of_not_mem hlf, streamLines, if_pos rfl,
    streamLines, Text.foldr_consToFirst_cons]

/-- A text and the line feed behind it have a first line end. -/
theorem exists_firstLineEnd (cs : List Char) :
    ∃ first e rest, cs ++ ['\n'] = first ++ e :: rest ∧ OnOneLine first ∧ isLineEnd e = true := by
  induction cs with
  | nil => exact ⟨[], '\n', [], rfl, fun c hc => absurd hc List.not_mem_nil, by decide⟩
  | cons c cs ih =>
    by_cases hc : isLineEnd c = true
    · exact ⟨[], c, cs ++ ['\n'], rfl, fun d hd => absurd hd List.not_mem_nil, hc⟩
    · obtain ⟨first, e, rest, hcut, hfirst, he⟩ := ih
      refine ⟨c :: first, e, rest, by rw [List.cons_append, hcut]; rfl, ?_, he⟩
      exact List.forall_mem_cons.2 ⟨Bool.eq_false_iff.2 hc, hfirst⟩

/-! ### Pairs of lines -/

/-- The key and the value of a line without escapes. -/
def plainPair (line : List Char) : String × String :=
  (String.ofList (plainKey line), String.ofList (plainValue line))

/-- The keys and values that the lines of a text hold, one after another. -/
def plainPairs (cs : List Char) : List (String × String) :=
  ((fileLines cs).filterMap plainLine?).map plainPair

/-- Of the pairs with one key the reader keeps the last value. -/
theorem readPlain_fileLines (cs : List Char) :
    readPlain (fileLines cs) = Entries.ofPairs (plainPairs cs) := rfl

theorem plainPairs_append_newline (xs ys : List Char) :
    plainPairs (xs ++ '\n' :: ys) = plainPairs (xs ++ ['\n']) ++ plainPairs ys := by
  rw [plainPairs, fileLines_append_newline, List.filterMap_append, List.map_append]
  rfl

/-- A text made of lines holds what its lines hold. -/
theorem plainPairs_flatMap (lines : List (List Char)) :
    plainPairs (lines.flatMap (· ++ ['\n']))
      = lines.flatMap fun line => plainPairs (line ++ ['\n']) := by
  induction lines with
  | nil => rfl
  | cons line lines ih =>
    rw [List.flatMap_cons, List.append_assoc, List.singleton_append, plainPairs_append_newline, ih,
      List.flatMap_cons]

end StartupReport.Properties
