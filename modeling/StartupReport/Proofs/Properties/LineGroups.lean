/-
StartupReport/Proofs/Properties/LineGroups.lean

Logical lines as groups of physical ones.

`Grouped` says which physical lines belong together, and it looks at each line on its
own: lines without content are left out, and any other line begins a group, which goes
on as long as its last line ends in an odd number of backslashes and another line
follows.  Inside a group no line is left out.  What a group says is put together from
what its lines say, one by one (`joined`).

The reader decides on what it has put together so far, not on the line that it has just
read.  That this is the same rests on one fact: what is put together so far never ends in
an odd number of backslashes (`isContinued_begun`), so a line goes on behind it exactly
if it goes on by itself (`logicalLines_cons`).

Main result: `exists_grouped_logicalLines`, that there is exactly one way to group the
lines and that the reader finds it.
-/
import StartupReport.Proofs.Properties.SourceForms
import StartupReport.Proofs.Properties.EscapeLaws

namespace StartupReport.Properties

open Text (isBlank trimStart)

/-! ### What is seen on a line -/

/-- A line ends in exactly `n` backslashes. -/
def EndsInBackslashes (n : Nat) (line : List Char) : Prop :=
  ∃ before, line = before ++ List.replicate n '\\' ∧ before.getLast? ≠ some '\\'

/-- A line that wants to go on in the next one: it ends in an odd number of
backslashes. -/
def GoesOn (line : List Char) : Prop := ∃ n, n % 2 = 1 ∧ EndsInBackslashes n line

/-- A line without content: it is blank, or its first character that is no blank makes it
a comment. -/
def NoContent (line : List Char) : Prop :=
  ∃ blanks rest, line = blanks ++ rest ∧ (∀ c ∈ blanks, isBlank c = true) ∧
    ∀ c ∈ rest.head?, c = '#' ∨ c = '!'

theorem endsInBackslashes_iff {n : Nat} {line : List Char} :
    EndsInBackslashes n line ↔ trailingBackslashes line = n := by
  constructor
  · rintro ⟨before, rfl, hlast⟩
    have hall : trailingBackslashes (List.replicate n '\\') = n := by
      simp [trailingBackslashes]
    have hbefore : trailingBackslashes before = 0 := by
      rcases List.eq_nil_or_concat before with rfl | ⟨init, c, rfl⟩
      · rfl
      · rw [List.concat_eq_append] at hlast ⊢
        refine trailingBackslashes_append_singleton ?_ init
        rintro rfl
        exact hlast List.getLast?_concat
    rw [trailingBackslashes_append, hall, List.length_replicate, if_pos rfl, hbefore, Nat.zero_add]
  · rintro rfl
    -- seen from the end, a line is its backslashes and what follows them
    refine ⟨(line.reverse.dropWhile (· == '\\')).reverse, ?_, ?_⟩
    · have hall : line.reverse.takeWhile (· == '\\')
          = List.replicate (trailingBackslashes line) '\\' := by
        refine List.eq_replicate_iff.2 ⟨rfl, fun c hc => ?_⟩
        have hback := List.mem_takeWhile_imp (p := (· == '\\')) hc
        exact beq_iff_eq.1 hback
      have hsplit := congrArg List.reverse
        (List.takeWhile_append_dropWhile (p := (· == '\\')) (l := line.reverse))
      rw [List.reverse_append, hall, List.reverse_replicate, List.reverse_reverse] at hsplit
      exact hsplit.symm
    · rw [List.getLast?_reverse]
      intro hhead
      have hnot := List.head?_dropWhile_not (· == '\\') line.reverse
      rw [hhead] at hnot
      exact absurd hnot (by decide)

theorem goesOn_iff {line : List Char} : GoesOn line ↔ isContinued line = true := by
  rw [isContinued, beq_iff_eq]
  constructor
  · rintro ⟨n, hodd, hends⟩
    rw [endsInBackslashes_iff.1 hends]
    exact hodd
  · intro hodd
    exact ⟨_, hodd, endsInBackslashes_iff.2 rfl⟩

instance (line : List Char) : Decidable (GoesOn line) := decidable_of_iff _ goesOn_iff.symm

theorem isCommentMark_iff {c : Char} : isCommentMark c = true ↔ c = '#' ∨ c = '!' := by
  rw [isCommentMark, Bool.or_eq_true, beq_iff_eq, beq_iff_eq]

theorem noContent_iff {line : List Char} : NoContent line ↔ isSkipped line = true := by
  constructor
  · rintro ⟨blanks, rest, rfl, hblanks, hmark⟩
    have hrest : ∀ c ∈ rest.head?, isBlank c = false := by
      intro c hc
      rcases hmark c hc with rfl | rfl <;> rfl
    rw [isSkipped, Text.trimStart_append hblanks hrest]
    cases rest with
    | nil => rfl
    | cons c cs => exact isCommentMark_iff.2 (hmark c rfl)
  · intro h
    refine ⟨line.takeWhile isBlank, line.dropWhile isBlank, List.takeWhile_append_dropWhile.symm,
      fun c hc => List.mem_takeWhile_imp hc, ?_⟩
    intro c hc
    obtain ⟨cs, hcs⟩ := List.head?_eq_some_iff.1 hc
    rw [isSkipped, trimStart, hcs] at h
    exact isCommentMark_iff.1 h

instance (line : List Char) : Decidable (NoContent line) := decidable_of_iff _ noContent_iff.symm

/-! ### Groups of lines -/

/-- Lines that belong together when others follow them: each goes on in the next one, and
the last one would do so only if nothing followed. -/
inductive Together : List (List Char) → List (List Char) → Prop
  | last {line rest} : (GoesOn line → rest = []) → Together [line] rest
  | more {line group rest} : GoesOn line → Together group rest → Together (line :: group) rest

/-- Lines and the groups that they make. -/
inductive Grouped : List (List Char) → List (List (List Char)) → Prop
  | nil : Grouped [] []
  | skip {line rest groups} : NoContent line → Grouped rest groups → Grouped (line :: rest) groups
  | group {line others rest groups} : ¬ NoContent line → Together (line :: others) rest →
      Grouped rest groups → Grouped (line :: others ++ rest) ((line :: others) :: groups)

/-- A line belongs together with lines after it, down to some place. -/
theorem exists_together (line : List Char) (lines : List (List Char)) :
    ∃ others rest, lines = others ++ rest ∧ Together (line :: others) rest := by
  induction lines generalizing line with
  | nil => exact ⟨[], [], rfl, .last fun _ => rfl⟩
  | cons next lines ih =>
    by_cases hline : GoesOn line
    · obtain ⟨others, rest, rfl, hgroup⟩ := ih next
      exact ⟨next :: others, rest, rfl, .more hline hgroup⟩
    · exact ⟨[], next :: lines, rfl, .last fun h => absurd h hline⟩

theorem Together.ne_nil {group rest : List (List Char)} (h : Together group rest) :
    group ≠ [] := by
  cases h <;> exact List.cons_ne_nil _ _

/-- Where a group ends is determined by the lines. -/
theorem Together.unique {group rest : List (List Char)} (h : Together group rest)
    {group' rest' : List (List Char)} (h' : Together group' rest')
    (hlines : group ++ rest = group' ++ rest') : group = group' ∧ rest = rest' := by
  induction h generalizing group' with
  | @last line rest hend =>
    cases h' with
    | last hend' =>
      obtain ⟨rfl, rfl⟩ := List.cons.inj hlines
      exact ⟨rfl, rfl⟩
    | more hgo hmore =>
      obtain ⟨rfl, hrest⟩ := List.cons.inj hlines
      exact absurd (List.append_eq_nil_iff.1 (hrest.symm.trans (hend hgo))).1 hmore.ne_nil
  | @more line group rest hgo hmore ih =>
    cases h' with
    | last hend' =>
      obtain ⟨rfl, hrest⟩ := List.cons.inj hlines
      exact absurd (List.append_eq_nil_iff.1 (hrest.trans (hend' hgo))).1 hmore.ne_nil
    | more _ hmore' =>
      obtain ⟨rfl, htail⟩ := List.cons.inj hlines
      obtain ⟨rfl, rfl⟩ := ih hmore' htail
      exact ⟨rfl, rfl⟩

theorem exists_grouped (lines : List (List Char)) : ∃ groups, Grouped lines groups := by
  induction hn : lines.length using Nat.strong_induction_on generalizing lines with
  | _ n ih =>
    cases lines with
    | nil => exact ⟨[], .nil⟩
    | cons line lines =>
      subst hn
      by_cases hline : NoContent line
      · obtain ⟨groups, hgroups⟩ := ih lines.length (Nat.lt_succ_self _) lines rfl
        exact ⟨groups, .skip hline hgroups⟩
      · obtain ⟨others, rest, rfl, hgroup⟩ := exists_together line lines
        have hshorter : rest.length < (line :: (others ++ rest)).length := by
          rw [List.length_cons, List.length_append]
          omega
        obtain ⟨groups, hgroups⟩ := ih rest.length hshorter rest rfl
        exact ⟨_, .group hline hgroup hgroups⟩

/-- There is only one way to group lines. -/
theorem Grouped.unique {lines : List (List Char)} {groups groups' : List (List (List Char))}
    (h : Grouped lines groups) (h' : Grouped lines groups') : groups = groups' := by
  induction h generalizing groups' with
  | nil =>
    cases h'
    rfl
  | skip hline _ ih =>
    cases h' with
    | skip _ hrest => exact ih hrest
    | group hcontent _ _ => exact absurd hline hcontent
  | @group line others rest groups hcontent hgroup _ ih =>
    generalize hlines : line :: others ++ rest = lines at h'
    cases h' with
    | nil => cases hlines
    | skip hline _ =>
      obtain ⟨rfl, -⟩ := List.cons.inj hlines
      exact absurd hline hcontent
    | group _ hgroup' hrest' =>
      obtain ⟨hsame, rfl⟩ := hgroup.unique hgroup' hlines
      rw [hsame, ih hrest']

/-! ### What lines say together -/

/-- What a line adds to its group: it counts without leading blanks, and without the
backslash that only says that it goes on. -/
def share (line : List Char) : List Char :=
  (if GoesOn line then line.dropLast else line).dropWhile isBlank

/-- What the lines of a group say together. -/
def joined (group : List (List Char)) : List Char := group.flatMap share

/-- Behind a text that does not end in an odd number of backslashes a line goes on if it
goes on by itself. -/
theorem isContinued_append {before : List Char} (h : isContinued before = false)
    (line : List Char) : isContinued (before ++ line) = isContinued line := by
  rw [isContinued, beq_eq_false_iff_ne] at h
  rw [isContinued, isContinued, trailingBackslashes_append]
  split
  · next hall =>
    have hparity : (trailingBackslashes before + line.length) % 2
        = trailingBackslashes line % 2 := by
      omega
    rw [hparity]
  · rfl

theorem isContinued_of_forall_isBlank {blanks : List Char} (h : ∀ c ∈ blanks, isBlank c = true) :
    isContinued blanks = false := by
  rcases List.eq_nil_or_concat blanks with rfl | ⟨init, c, rfl⟩
  · rfl
  · rw [List.concat_eq_append] at h ⊢
    have hc : c ≠ '\\' := by
      rintro rfl
      exact absurd (h '\\' (List.mem_append_right _ List.mem_cons_self)) (by decide)
    rw [isContinued, trailingBackslashes_append_singleton hc]
    rfl

/-- Leading blanks do not matter to whether a line goes on. -/
theorem isContinued_trimStart (line : List Char) :
    isContinued (trimStart line) = isContinued line := by
  have hsplit := Text.takeWhile_append_trimStart line
  have hblanks : isContinued (line.takeWhile isBlank) = false :=
    isContinued_of_forall_isBlank fun c hc => List.mem_takeWhile_imp hc
  rw [← isContinued_append hblanks, hsplit]

/-- A line that goes on ends in a backslash, and without it does not go on. -/
theorem exists_of_isContinued {line : List Char} (h : isContinued line = true) :
    ∃ before, line = before ++ ['\\'] ∧ isContinued before = false := by
  rcases List.eq_nil_or_concat line with rfl | ⟨before, c, rfl⟩
  · cases h
  · rw [List.concat_eq_append] at h ⊢
    obtain rfl : c = '\\' := by
      by_contra hc
      rw [isContinued, trailingBackslashes_append_singleton hc] at h
      cases h
    refine ⟨before, rfl, Bool.eq_false_iff.2 fun hbefore => ?_⟩
    rw [isContinued, beq_iff_eq] at h hbefore
    have hone : trailingBackslashes ['\\'] = ['\\'].length := rfl
    rw [trailingBackslashes_append, if_pos hone, List.length_singleton] at h
    omega

theorem share_of_isContinued {line : List Char} (h : isContinued line = true) :
    share line = (trimStart line).dropLast := by
  obtain ⟨before, rfl, -⟩ := exists_of_isContinued h
  have hlast : isBlank '\\' = false := rfl
  rw [share, if_pos (goesOn_iff.2 h), List.dropLast_concat, trimStart, List.dropWhile_append]
  split
  · next hnil =>
    rw [List.dropWhile_cons_of_neg (by rw [hlast]; exact Bool.false_ne_true)]
    exact List.isEmpty_iff.1 hnil
  · exact List.dropLast_concat.symm

theorem share_of_not_isContinued {line : List Char} (h : isContinued line = false) :
    share line = trimStart line := by
  rw [share, if_neg (by rw [goesOn_iff, h]; exact Bool.false_ne_true), trimStart]

theorem isContinued_share (line : List Char) : isContinued (share line) = false := by
  rw [share]
  split
  · next h =>
    obtain ⟨before, rfl, hbefore⟩ := exists_of_isContinued (goesOn_iff.1 h)
    rw [List.dropLast_concat, ← trimStart, isContinued_trimStart, hbefore]
  · next h =>
    rw [← trimStart, isContinued_trimStart]
    exact Bool.eq_false_iff.2 fun hline => h (goesOn_iff.2 hline)

/-- **The invariant of the reader.**  With what another line says, what is begun still does
not end in an odd number of backslashes. -/
theorem isContinued_begun {begun : Option (List Char)} (h : isContinued (begun.getD []) = false)
    (line : List Char) : isContinued ((some (begun.getD [] ++ share line)).getD []) = false := by
  rw [Option.getD_some, isContinued_append h, isContinued_share]

theorem isContinued_joined (group : List (List Char)) : isContinued (joined group) = false := by
  induction group with
  | nil => rfl
  | cons line group ih =>
    rw [joined, List.flatMap_cons, ← joined, isContinued_append (isContinued_share line), ih]

/-- What a group says begins with no blank. -/
theorem isBlank_of_head?_joined {group : List (List Char)} {c : Char}
    (h : c ∈ (joined group).head?) : isBlank c = false := by
  rw [joined, List.head?_flatMap] at h
  obtain ⟨line, -, hc⟩ := List.exists_of_findSome?_eq_some h
  rw [share] at hc
  exact Text.isBlank_of_head?_trimStart hc

/-! ### The reader finds the groups -/

/-- Outside a group a line without content is passed over. -/
theorem logicalLines_cons_of_noContent {line : List Char} (h : NoContent (withoutLineEnd line))
    (rest : List (List Char)) : logicalLines none (line :: rest) = logicalLines none rest := by
  rw [logicalLines]
  exact if_pos (noContent_iff.1 h)

/-- **One line.**  The reader adds what a line says to what is begun, and then goes on or
not as the line itself wants to. -/
theorem logicalLines_cons {begun : Option (List Char)} {line : List Char}
    (hbegun : isContinued (begun.getD []) = false)
    (hline : begun = none → ¬ NoContent (withoutLineEnd line)) (rest : List (List Char)) :
    logicalLines begun (line :: rest) =
      if GoesOn (withoutLineEnd line)
      then logicalLines (some (begun.getD [] ++ share (withoutLineEnd line))) rest
      else (begun.getD [] ++ share (withoutLineEnd line)) :: logicalLines none rest := by
  have hcontent : ¬ (begun.isNone && isSkipped (withoutLineEnd line)) = true := by
    rw [Bool.and_eq_true, Option.isNone_iff_eq_none, ← noContent_iff]
    rintro ⟨hnone, hskip⟩
    exact hline hnone hskip
  rw [logicalLines, if_neg hcontent]
  simp only [isContinued_append hbegun, isContinued_trimStart]
  by_cases h : isContinued (withoutLineEnd line) = true
  · rw [if_pos h, if_pos (goesOn_iff.2 h), share_of_isContinued h, List.dropLast_append_of_ne_nil]
    -- without its leading blanks the line still has its last backslash
    intro hnil
    rw [← isContinued_trimStart, hnil] at h
    cases h
  · rw [if_neg h, if_neg (mt goesOn_iff.1 h), share_of_not_isContinued (Bool.eq_false_iff.2 h)]

/-- **One group.**  The reader adds what the lines of a group say to what is begun, and
stops behind the group. -/
theorem logicalLines_together {group rest : List (List Char)} (h : Together group rest)
    (hbare : ∀ line ∈ group, withoutLineEnd line = line) {begun : Option (List Char)}
    (hbegun : isContinued (begun.getD []) = false)
    (hfirst : begun = none → ∀ line ∈ group.head?, ¬ NoContent line) :
    logicalLines begun (group ++ rest)
      = (begun.getD [] ++ joined group) :: logicalLines none rest := by
  induction h generalizing begun with
  | @last line rest hend =>
    have hline : withoutLineEnd line = line := hbare line List.mem_cons_self
    have hcontent : begun = none → ¬ NoContent (withoutLineEnd line) :=
      fun hnone => hline.symm ▸ hfirst hnone line rfl
    rw [List.singleton_append, logicalLines_cons hbegun hcontent, hline, joined,
      List.flatMap_singleton]
    split
    · next hgo =>
      -- the lines are over, and what is begun is all there is
      rw [hend hgo]
      rfl
    · rfl
  | @more line group rest hgo _ ih =>
    have hline : withoutLineEnd line = line := hbare line List.mem_cons_self
    have hcontent : begun = none → ¬ NoContent (withoutLineEnd line) :=
      fun hnone => hline.symm ▸ hfirst hnone line rfl
    rw [List.cons_append, logicalLines_cons hbegun hcontent, hline, if_pos hgo,
      ih (fun l hl => hbare l (List.mem_cons_of_mem _ hl)) (isContinued_begun hbegun line)
        (fun hnone => nomatch hnone),
      Option.getD_some, List.append_assoc, joined, joined, List.flatMap_cons]

/-- The reader puts together what the lines of each group say. -/
theorem logicalLines_of_grouped {lines : List (List Char)} {groups : List (List (List Char))}
    (h : Grouped lines groups) (hbare : ∀ line ∈ lines, withoutLineEnd line = line) :
    logicalLines none lines = groups.map joined := by
  induction h with
  | nil => rfl
  | skip hline _ ih =>
    obtain ⟨hfirst, hrest⟩ := List.forall_mem_cons.1 hbare
    rw [logicalLines_cons_of_noContent (by rw [hfirst]; exact hline), ih hrest]
  | @group line others rest groups hcontent hgroup _ ih =>
    obtain ⟨hgroupBare, hrest⟩ := List.forall_mem_append.1 hbare
    have hfirst : ∀ l ∈ (line :: others).head?, ¬ NoContent l := by
      intro l hl
      obtain rfl := Option.some.inj hl
      exact hcontent
    rw [logicalLines_together hgroup hgroupBare rfl fun _ => hfirst, ih hrest, List.map_cons]
    rfl

/-- **Logical lines are groups of physical ones.**  There is exactly one way to group the
lines, once the carriage returns and line feeds at their ends are gone; the logical lines
are what its groups say.  No logical line begins with a blank, and each ends in an even
number of backslashes. -/
theorem exists_grouped_logicalLines (lines : List (List Char)) :
    ∃ groups, (∀ gs, Grouped (lines.map (List.rdropWhile fun c => c == '\r' || c == '\n')) gs ↔
        gs = groups) ∧
      logicalLines none lines = groups.map joined ∧
      ∀ line ∈ logicalLines none lines, (∀ c ∈ line.head?, isBlank c = false) ∧
        ∃ n, n % 2 = 0 ∧ EndsInBackslashes n line := by
  have hends : List.rdropWhile (fun c => c == '\r' || c == '\n') = withoutLineEnd := by
    funext line
    exact (Text.dropEndWhile_eq_reverse isLineEnd line).symm
  rw [hends]
  obtain ⟨groups, hgroups⟩ := exists_grouped (lines.map withoutLineEnd)
  have hbare : ∀ line ∈ lines.map withoutLineEnd, withoutLineEnd line = line := by
    intro line hline
    obtain ⟨physical, -, rfl⟩ := List.mem_map.1 hline
    exact withoutLineEnd_withoutLineEnd physical
  have hread : logicalLines none lines = groups.map joined := by
    rw [← logicalLines_map_withoutLineEnd, logicalLines_of_grouped hgroups hbare]
  refine ⟨groups, fun gs => ⟨fun hgs => hgs.unique hgroups, ?_⟩, hread, ?_⟩
  · rintro rfl
    exact hgroups
  · intro line hline
    rw [hread] at hline
    obtain ⟨group, -, rfl⟩ := List.mem_map.1 hline
    have heven := isContinued_joined group
    rw [isContinued, beq_eq_false_iff_ne] at heven
    exact ⟨fun c hc => isBlank_of_head?_joined hc, _, by omega, endsInBackslashes_iff.2 rfl⟩

/-- Inside a group a comment mark is a character like any other. -/
example : logicalLines none ["a = b\\".toList, " # c".toList, "# d".toList]
    = ["a = b# c".toList] := by decide

end StartupReport.Properties
