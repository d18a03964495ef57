/-
StartupReport/Proofs/Properties/AppendedLines.lean

Reading some lines and then others.

Whether the reader is in the middle of a group behind some lines can be told line by line
(`endsOpen`, `exists_left_open`).  If it is not, the lines that follow are read as they are
read alone (`logicalLines_append`), and what they spell is written over what is there
already.

Main result: `parse_append`, which says what the properties of all lines are, key by key:
the places of the keys, the values, and that lines without content may stand anywhere
between the two parts.
-/
import StartupReport.Proofs.EntryOrder
import StartupReport.Proofs.Properties.LineGroups

namespace StartupReport.Properties

/-! ### Lines that leave a group open -/

/-- The reader is in the middle of a group behind some lines, if it was so before them as
`isOpen` says. -/
def endsOpen (isOpen : Bool) : List (List Char) → Bool
  | [] => isOpen
  | line :: rest =>
    endsOpen ((isOpen || !isSkipped (withoutLineEnd line)) && isContinued (withoutLineEnd line))
      rest

theorem endsOpen_of_noContent {lines : List (List Char)}
    (h : ∀ line ∈ lines, NoContent (withoutLineEnd line)) : endsOpen false lines = false := by
  induction lines with
  | nil => rfl
  | cons line lines ih =>
    obtain ⟨hline, hlines⟩ := List.forall_mem_cons.1 h
    rw [endsOpen, noContent_iff.1 hline]
    exact ih hlines

/-- **Reading some lines first.**  Whatever follows, some logical lines are complete behind
them, and one is begun exactly if they end in the middle of a group. -/
theorem exists_left_open {begun : Option (List Char)}
    (hbegun : isContinued (begun.getD []) = false) (lines : List (List Char)) :
    ∃ complete left, left.isSome = endsOpen begun.isSome lines ∧
      ∀ later, logicalLines begun (lines ++ later) = complete ++ logicalLines left later := by
  induction lines generalizing begun with
  | nil => exact ⟨[], begun, rfl, fun _ => rfl⟩
  | cons line lines ih =>
    by_cases hskip : begun = none ∧ NoContent (withoutLineEnd line)
    · obtain ⟨rfl, hline⟩ := hskip
      obtain ⟨complete, left, hleft, hread⟩ := ih hbegun
      refine ⟨complete, left, ?_, fun later => ?_⟩
      · rw [hleft, endsOpen, noContent_iff.1 hline]
        rfl
      · rw [List.cons_append, logicalLines_cons_of_noContent hline, hread]
    · have hcontent : begun = none → ¬ NoContent (withoutLineEnd line) :=
        fun hnone hline => hskip ⟨hnone, hline⟩
      have hcounts : (begun.isSome || !isSkipped (withoutLineEnd line)) = true := by
        rcases begun with - | text
        · simpa [noContent_iff] using hcontent rfl
        · rfl
      simp only [List.cons_append, logicalLines_cons hbegun hcontent, endsOpen, hcounts,
        Bool.true_and]
      by_cases hgo : GoesOn (withoutLineEnd line)
      · rw [goesOn_iff.1 hgo]
        simp only [if_pos hgo]
        exact ih (isContinued_begun hbegun _)
      · rw [Bool.eq_false_iff.2 (mt goesOn_iff.2 hgo)]
        simp only [if_neg hgo]
        have hnothing : isContinued ((none : Option (List Char)).getD []) = false := rfl
        obtain ⟨complete, left, hleft, hread⟩ := ih hnothing
        exact ⟨_ :: complete, left, hleft, fun later => congrArg _ (hread later)⟩

/-- Lines that follow a finished group are read as they are read alone. -/
theorem logicalLines_append {lines : List (List Char)} (h : endsOpen false lines = false)
    (later : List (List Char)) :
    logicalLines none (lines ++ later) = logicalLines none lines ++ logicalLines none later := by
  have hnothing : isContinued ((none : Option (List Char)).getD []) = false := rfl
  obtain ⟨complete, left, hleft, hread⟩ := exists_left_open hnothing lines
  rw [Option.isSome_none, h] at hleft
  obtain rfl : left = none := by
    cases left with
    | none => rfl
    | some text => cases hleft
  have halone : logicalLines none lines = complete := by
    have hend := hread []
    rwa [List.append_nil, logicalLines, List.append_nil] at hend
  rw [hread, halone]

theorem logicalLines_of_noContent {lines : List (List Char)}
    (h : ∀ line ∈ lines, NoContent (withoutLineEnd line)) : logicalLines none lines = [] := by
  induction lines with
  | nil => rfl
  | cons line lines ih =>
    obtain ⟨hline, hlines⟩ := List.forall_mem_cons.1 h
    rw [logicalLines_cons_of_noContent hline, ih hlines]

/-! ### What lines spell -/

/-- The keys and values that lines spell, one after another. -/
def spelled (lines : List (List Char)) : List (String × String) :=
  (logicalLines none lines).map readEntry

theorem parse_eq (lines : List (List Char)) : parse lines = Entries.ofPairs (spelled lines) := rfl

theorem spelled_append {lines : List (List Char)} (h : endsOpen false lines = false)
    (later : List (List Char)) : spelled (lines ++ later) = spelled lines ++ spelled later := by
  rw [spelled, logicalLines_append h, List.map_append]
  rfl

theorem spelled_of_noContent {lines : List (List Char)}
    (h : ∀ line ∈ lines, NoContent (withoutLineEnd line)) : spelled lines = [] := by
  rw [spelled, logicalLines_of_noContent h]
  rfl

/-- **Later lines are written over earlier ones.**  If the earlier lines do not end in the
middle of a group, the properties of all lines are those of the earlier ones updated with
those of the later ones.  No key comes twice; the earlier keys keep their places, and the
new ones follow in the order in which they are first spelled; a key that the later lines
spell has their value.  The last pair with a key always decides, and lines without content
may stand between the two parts. -/
theorem parse_append {lines : List (List Char)} (h : endsOpen false lines = false)
    (later : List (List Char)) :
    parse (lines ++ later) = (parse lines).update (parse later) ∧
    (parse (lines ++ later)).keys.Nodup ∧
    (parse (lines ++ later)).keys = (parse lines).keys ++
      (((spelled later).map (·.1)).filter (· ∉ (parse lines).keys)).eraseDups ∧
    (∀ key, (parse (lines ++ later)).get? key
      = ((parse later).get? key).or ((parse lines).get? key)) ∧
    (∀ key, (parse (lines ++ later)).get? key = (spelled (lines ++ later)).reverse.lookup key) ∧
    ∀ unread : List (List Char), (∀ line ∈ unread, NoContent (withoutLineEnd line)) →
      parse (lines ++ unread ++ later) = parse (lines ++ later) := by
  have hwritten : parse (lines ++ later) = (parse lines).update (spelled later) := by
    rw [parse_eq, spelled_append h, Entries.ofPairs, Entries.update, List.foldl_append]
    rfl
  refine ⟨?_, Entries.nodup_keys_ofPairs _, ?_, ?_, Entries.get?_ofPairs _, ?_⟩
  · rw [hwritten, parse_eq later]
    exact (Entries.update_ofPairs (Entries.nodup_keys_ofPairs _) _).symm
  · rw [hwritten, Entries.keys_update]
  · intro key
    rw [hwritten, Entries.get?_update, parse_eq later]
  · intro unread hunread
    have hopen : endsOpen false unread = false := endsOpen_of_noContent hunread
    rw [parse_eq, parse_eq, List.append_assoc, spelled_append h, spelled_append hopen,
      spelled_of_noContent hunread, List.nil_append, spelled_append h]

/-- A key, and another one that is spelled with an escape; its value goes on in a line that
would be a comment by itself. -/
def earlierLines : List (List Char) := ["port = 1".toList, "h\\u006fst : a\\".toList, "  #b".toList]

/-- A comment, the second key in plain spelling, and a new key. -/
def laterLines : List (List Char) := ["! none".toList, "host=c\\\\".toList, "path /".toList]

theorem parse_append_respelled : endsOpen false earlierLines = false ∧
    parse earlierLines = [("port", "1"), ("host", "a#b")] ∧
    parse (earlierLines ++ laterLines) = [("port", "1"), ("host", "c\\"), ("path", "/")] := by
  have hclosed : endsOpen false earlierLines = false := by decide
  refine ⟨hclosed, by decide +kernel, ?_⟩
  rw [(parse_append hclosed laterLines).1]
  decide +kernel

end StartupReport.Properties
