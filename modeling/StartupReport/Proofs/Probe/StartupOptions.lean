/-
StartupReport/Proofs/Probe/StartupOptions.lean

What the startup options tell about an interpreter.

A reported option is the text of a `StartupOption`: a flag with its level, a warning option
or an option for the implementation.  `StartupOption.read?` takes such a text apart again: the
character behind the dash says what kind of option it is, the number of letters is the level of
a flag, and a key ends in front of the first sign of equality.  Hence lists of
legible options differ as soon as the options do (`StartupOption.map_text_injOn`).

A `Startup` is what there is to know about how an interpreter was started.  Its options are
put one behind the other (`Startup.options`), and a level, the warning options and the options
for the implementation are found again by picking them out of the list (`levelOf_options`,
`warningsOf_options`, `extrasOf_options`).  The levels of flags that come with
isolation are left out, and only those.

How long a text an interpreter can put together is a parameter.  A report fails if one of the
options is longer than that (`startupOptions?_of_tooLong`), and for no other reason
(`startupOptions?_of_fits`).  The line of options is a text of its own: it can be too long
although none of the options is (`startupOptionLine_eq`).

Main result: `startupOptionList_tells`.
-/
import Mathlib.Data.List.Basic
import Mathlib.Data.Option.Basic
import StartupReport.Probe.Interpreter
import StartupReport.Proofs.BareHost

namespace StartupReport

/-- A number counts as present unless it is zero. -/
theorem Value.isPresent_iff_of_number? {v : Value} {n : Int} (h : v.number? = some n) :
    v.isPresent = true ↔ n ≠ 0 := by
  cases v with
  | bool b => cases b <;> cases h <;> simp [Value.isPresent]
  | int m =>
    cases h
    simp [Value.isPresent]
  | _ => cases h

namespace Probe

theorem wholeNumber_of_number? {v : Value} {n : Int} (h : v.number? = some n) :
    wholeNumber v = .ok n := by
  unfold wholeNumber
  rw [h]

/-- Readings fail if one of them does. -/
theorem mapM_eq_none {α β : Type} {f : α → Option β} {xs : List α} {x : α} (hx : x ∈ xs)
    (h : f x = none) : xs.mapM f = none := by
  induction xs with
  | nil => cases hx
  | cons y ys ih =>
    rw [List.mapM_cons]
    rcases List.mem_cons.1 hx with rfl | hx
    · rw [h]
      rfl
    · rw [ih hx]
      cases f y <;> rfl

/-! ### Options and their texts -/

/-- An option that an interpreter was started with. -/
inductive StartupOption
  | flag (letter : Char) (level : Nat)
  | warning (filter : String)
  | extra (key : String) (value : Option String)
deriving DecidableEq

namespace StartupOption

/-- The text of an option. -/
def text : StartupOption → String
  | .flag letter level => String.ofList ('-' :: List.replicate level letter)
  | .warning filter => "-W" ++ filter
  | .extra key none => "-X" ++ key
  | .extra key (some value) => "-X" ++ key ++ "=" ++ value

/-- The value in a text that starts with a key: what follows the first sign of equality. -/
def valueIn? (cs : List Char) : Option String :=
  match cs.dropWhile (· != '=') with
  | [] => none
  | _ :: value => some (String.ofList value)

/-- The option that a text is read as.  Of a flag, the first letter and the number of letters
count. -/
def read? : List Char → Option StartupOption
  | '-' :: 'W' :: cs => some (.warning (String.ofList cs))
  | '-' :: 'X' :: cs => some (.extra (String.ofList (cs.takeWhile (· != '='))) (valueIn? cs))
  | '-' :: c :: cs => some (.flag c (cs.length + 1))
  | _ => none

/-- An option whose text cannot be taken for that of another one. -/
inductive Legible : StartupOption → Prop
  | flag {letter level} (hwarning : letter ≠ 'W') (hextra : letter ≠ 'X') (hlevel : level ≠ 0) :
      Legible (.flag letter level)
  | warning {filter} : Legible (.warning filter)
  | extra {key value} (hkey : '=' ∉ key.toList) : Legible (.extra key value)

theorem read?_flag {letter : Char} (hwarning : letter ≠ 'W') (hextra : letter ≠ 'X')
    (cs : List Char) : read? ('-' :: letter :: cs) = some (.flag letter (cs.length + 1)) := by
  unfold read?
  split <;> simp_all

section
variable {key : List Char} (hkey : '=' ∉ key)
include hkey

theorem takeWhile_key (cs : List Char) :
    (key ++ cs).takeWhile (· != '=') = key ++ cs.takeWhile (· != '=') :=
  List.takeWhile_append_of_pos fun _ hc => bne_iff_ne.2 (ne_of_mem_of_not_mem hc hkey)

theorem dropWhile_key (cs : List Char) :
    (key ++ cs).dropWhile (· != '=') = cs.dropWhile (· != '=') :=
  List.dropWhile_append_of_pos fun _ hc => bne_iff_ne.2 (ne_of_mem_of_not_mem hc hkey)

/-- A key alone is read as one without a value. -/
theorem read?_key : read? ('-' :: 'X' :: key) = some (.extra (String.ofList key) none) := by
  have htake := takeWhile_key hkey []
  have hdrop := dropWhile_key hkey []
  rw [List.append_nil] at htake hdrop
  simp [read?, valueIn?, htake, hdrop]

/-- A key and a value are read as they stand, whatever is in the value. -/
theorem read?_assignment (value : List Char) :
    read? ('-' :: 'X' :: (key ++ '=' :: value))
      = some (.extra (String.ofList key) (some (String.ofList value))) := by
  simp [read?, valueIn?, takeWhile_key hkey, dropWhile_key hkey]

end

/-- A legible option is read from its text. -/
theorem read?_text {o : StartupOption} (ho : o.Legible) : read? o.text.toList = some o := by
  cases ho with
  | @flag letter level hwarning hextra hlevel =>
    obtain ⟨more, rfl⟩ := Nat.exists_eq_succ_of_ne_zero hlevel
    rw [text, String.toList_ofList, List.replicate_succ, read?_flag hwarning hextra,
      List.length_replicate]
  | @warning filter =>
    have htext : (text (.warning filter)).toList = '-' :: 'W' :: filter.toList := by simp [text]
    rw [htext, read?, String.ofList_toList]
  | @extra key value hkey =>
    rcases value with - | value
    · have htext : (text (.extra key none)).toList = '-' :: 'X' :: key.toList := by simp [text]
      rw [htext, read?_key hkey, String.ofList_toList]
    · have htext : (text (.extra key (some value))).toList
          = '-' :: 'X' :: (key.toList ++ '=' :: value.toList) := by simp [text]
      rw [htext, read?_assignment hkey, String.ofList_toList, String.ofList_toList]

/-- The dash counts too. -/
theorem length_text_flag (letter : Char) (level : Nat) :
    (text (.flag letter level)).length = level + 1 := by
  rw [text, String.length_ofList, List.length_cons, List.length_replicate]

/-- Lists of legible options that have the same texts are the same. -/
theorem map_text_injOn {os ps : List StartupOption} (hos : ∀ o ∈ os, o.Legible)
    (hps : ∀ o ∈ ps, o.Legible) (h : os.map text = ps.map text) : os = ps := by
  have read_map : ∀ {os : List StartupOption}, (∀ o ∈ os, o.Legible) →
      (os.map text).map (fun t => read? t.toList) = os.map some := fun hos => by
    rw [List.map_map]
    exact List.map_congr_left fun o ho => read?_text (hos o ho)
  have hread := congrArg (List.map fun t : String => read? t.toList) h
  rw [read_map hos, read_map hps] at hread
  exact List.map_injective_iff.2 (Option.some_injective _) hread

/-! ### Picking options out of a list -/

/-- The level that a list of options gives the flag of a letter, zero if the flag is not there. -/
def levelOf (letter : Char) : List StartupOption → Nat
  | [] => 0
  | .flag other level :: os => if other = letter then level else levelOf letter os
  | .warning _ :: os => levelOf letter os
  | .extra _ _ :: os => levelOf letter os

/-- The warning option that an option is. -/
def warning? : StartupOption → Option String
  | .warning filter => some filter
  | _ => none

/-- The option for the implementation that an option is. -/
def extra? : StartupOption → Option (String × Option String)
  | .extra key value => some (key, value)
  | _ => none

end StartupOption

open StartupOption

/-! ### What an interpreter was started with -/

/-- The value that an option for the implementation has: plainly true, or a text. -/
def extraValue : Option String → Value
  | none => .bool true
  | some text => .str text

/-- What there is to know about how an interpreter was started: the levels of its flags by name, its
warning options, and its options for the implementation in order. -/
structure Startup where
  level : String → Nat
  warnings : List String
  extras : List (String × Option String)

namespace Startup

/-- An interpreter was started in this way: its flags have whole numbers for levels, zero for a
flag that is missing, its warning options are texts, and its options for the implementation are
plainly true or texts, under keys without a sign of equality. -/
structure Describes (s : Startup) (i : Interpreter) : Prop where
  levels : ∀ entry ∈ reportedFlags, (flag i entry.1).number? = some (s.level entry.1 : Int)
  warnings : i.warningOptions = .list (s.warnings.map .str)
  extras : i.extraOptions.getD (.map []) = .map (s.extras.map fun e => (.str e.1, extraValue e.2))
  keys : ∀ e ∈ s.extras, '=' ∉ e.1.toList

/-- A flag is left out because it comes with isolation. -/
def Hides (s : Startup) (name : String) : Prop :=
  s.level "isolated" ≠ 0 ∧ name ∈ impliedByIsolation

instance (s : Startup) (name : String) : Decidable (s.Hides name) :=
  inferInstanceAs (Decidable (_ ∧ _))

/-- The level at which a flag is reported. -/
def shown (s : Startup) (name : String) : Nat := if s.Hides name then 0 else s.level name

/-- The option of a flag, in a list that is empty if the flag is left out or not set. -/
def reported (s : Startup) (entry : String × Char) : List StartupOption :=
  if s.shown entry.1 = 0 then [] else [.flag entry.2 (s.shown entry.1)]

/-- The options behind the flags. -/
def others (s : Startup) : List StartupOption :=
  s.warnings.map .warning ++ s.extras.map fun e => .extra e.1 e.2

/-- The options, section behind section. -/
def options (s : Startup) : List StartupOption := reportedFlags.flatMap s.reported ++ s.others

/-- Some option is longer than the longest text that can be put together. -/
def TooLong (s : Startup) (longest : Nat) : Prop := ∃ o ∈ s.options, longest < (text o).length

/-- Two ways of starting agree in all that is reported: the levels of the flags, except those
that come with isolation if there is isolation, and the other options. -/
structure Agrees (s t : Startup) : Prop where
  isolated : s.level "isolated" = t.level "isolated"
  levels : ∀ entry ∈ reportedFlags, ¬ s.Hides entry.1 → s.level entry.1 = t.level entry.1
  warnings : s.warnings = t.warnings
  extras : s.extras = t.extras

/-- An interpreter that was started in a given way and can put together texts up to a length. -/
def interpreter (s : Startup) (longest : Nat) : Interpreter where
  flags := reportedFlags.map fun entry => (entry.1, .int (s.level entry.1))
  warningOptions := .list (s.warnings.map .str)
  extraOptions := some (.map (s.extras.map fun e => (.str e.1, extraValue e.2)))
  modulePath := .list []
  version := (3, 11)
  longestText := longest

theorem get?_named {α : Type} (value : String → α) {entries : List (String × Char)}
    {entry : String × Char} (hentry : entry ∈ entries) :
    Entries.get? (entries.map fun e => (e.1, value e.1)) entry.1 = some (value entry.1) := by
  induction entries with
  | nil => cases hentry
  | cons e es ih =>
    rw [List.map_cons, Entries.get?]
    split
    · next heq => rw [heq]
    · next hne =>
      rcases List.mem_cons.1 hentry with rfl | hentry
      · exact absurd rfl hne
      · exact ih hentry

theorem describes_interpreter {s : Startup} (hkeys : ∀ e ∈ s.extras, '=' ∉ e.1.toList)
    (longest : Nat) : s.Describes (s.interpreter longest) where
  levels entry hentry := by
    rw [flag, interpreter, get?_named (fun name => Value.int (s.level name)) hentry]
    rfl
  warnings := rfl
  extras := rfl
  keys := hkeys

/-! ### What is reported -/

/-- A missing table of options for the implementation counts as an empty one. -/
theorem startupOptions?_eq (i : Interpreter) :
    startupOptions? i = do
      let flags ← reportedFlags.mapM (flagOption i)
      let warnings ← i.warningOptions.items.toOption
      let extras ← ((i.extraOptions.getD (.map [])).entriesFor "items").toOption
      let others ←
        (warnings.map (fun w => "-W" ++ w.text) ++ extras.map extraOption).mapM (built? i)
      return flags.flatten ++ others := by
  rw [startupOptions?]
  rcases i.extraOptions with - | v <;> rfl

theorem extraOption_eq (e : String × Option String) :
    extraOption (.str e.1, extraValue e.2) = text (.extra e.1 e.2) := by
  rcases e with ⟨key, - | value⟩ <;> rfl

/-- What is put together of the options behind the flags. -/
theorem others_eq (s : Startup) :
    (s.warnings.map Value.str).map (fun w => "-W" ++ w.text)
        ++ (s.extras.map fun e => (Value.str e.1, extraValue e.2)).map extraOption
      = s.others.map text := by
  have hwarnings : (s.warnings.map Value.str).map (fun w => "-W" ++ w.text)
      = (s.warnings.map StartupOption.warning).map text := by
    rw [List.map_map, List.map_map]
    rfl
  have hextras : (s.extras.map fun e => (Value.str e.1, extraValue e.2)).map extraOption
      = (s.extras.map fun e => StartupOption.extra e.1 e.2).map text := by
    rw [List.map_map, List.map_map]
    exact List.map_congr_left fun e _ => extraOption_eq e
  rw [others, List.map_append, hwarnings, hextras]

section
variable {s : Startup} {i : Interpreter} (h : s.Describes i)
include h

theorem isIsolated_iff : isIsolated i = true ↔ s.level "isolated" ≠ 0 := by
  have hlevel : (flag i "isolated").number? = some (s.level "isolated" : Int) :=
    h.levels ("isolated", 'I') (by decide)
  rw [isIsolated, Value.isPresent_iff_of_number? hlevel, Int.natCast_ne_zero]

/-- The option of a flag, unless it is too long. -/
theorem flagOption_eq {entry : String × Char} (hentry : entry ∈ reportedFlags) :
    flagOption i entry = (s.reported entry).mapM fun o => built? i (text o) := by
  have hhidden :
      (isIsolated i && impliedByIsolation.contains entry.1) = true ↔ s.Hides entry.1 := by
    rw [Bool.and_eq_true, isIsolated_iff h, List.contains_iff_mem, Hides]
  rw [flagOption, if_congr hhidden rfl rfl, wholeNumber_of_number? (h.levels entry hentry)]
  by_cases hides : s.Hides entry.1
  · simp [reported, shown, hides]
  · by_cases hzero : s.level entry.1 = 0
    · simp [reported, shown, hides, hzero]
    · have hpos : ¬ (s.level entry.1 : Int) ≤ 0 := by omega
      have hreported : s.reported entry = [.flag entry.2 (s.level entry.1)] := by
        rw [reported, shown, if_neg hides, if_neg hzero]
      rw [hreported, if_neg hides]
      simp only [List.mapM_cons, List.mapM_nil, built?, length_text_flag, hpos, if_false]
      by_cases hlong : i.longestText ≤ s.level entry.1
      · rw [if_pos (Int.ofNat_le.2 hlong), if_neg (Nat.not_le.2 (Nat.lt_succ_of_le hlong))]
        rfl
      · have hfits : s.level entry.1 + 1 ≤ i.longestText := Nat.not_le.1 hlong
        rw [if_neg fun hle => hlong (Int.ofNat_le.1 hle), if_pos hfits]
        rfl

/-- The options are put together section by section. -/
theorem startupOptions?_eq_bind :
    startupOptions? i = do
      let flags ← reportedFlags.mapM (flagOption i)
      let others ← (s.others.map text).mapM (built? i)
      return flags.flatten ++ others := by
  rw [startupOptions?_eq, h.warnings, h.extras, ← others_eq s]
  rfl

/-- A report fails if an option is too long. -/
theorem startupOptions?_of_tooLong (hlong : s.TooLong i.longestText) :
    startupOptions? i = none := by
  obtain ⟨o, ho, hlength⟩ := hlong
  have hbuilt : built? i (text o) = none := if_neg (Nat.not_le.2 hlength)
  rw [startupOptions?_eq_bind h]
  rcases List.mem_append.1 ho with hflag | hother
  · obtain ⟨entry, hentry, ho⟩ := List.mem_flatMap.1 hflag
    have hnone : flagOption i entry = none :=
      (flagOption_eq h hentry).trans (mapM_eq_none ho hbuilt)
    rw [mapM_eq_none hentry hnone]
    rfl
  · rw [mapM_eq_none (List.mem_map_of_mem hother) hbuilt]
    exact Option.bind_fun_none _

/-- Unless an option is too long, all of them are reported. -/
theorem startupOptions?_of_fits (hfits : ¬ s.TooLong i.longestText) :
    startupOptions? i = some (s.options.map text) := by
  have hbuilt : ∀ o ∈ s.options, built? i (text o) = some (text o) := fun o ho =>
    if_pos (Nat.not_lt.1 fun hlength => hfits ⟨o, ho, hlength⟩)
  have hflags : reportedFlags.mapM (flagOption i)
      = some (reportedFlags.map fun entry => (s.reported entry).map text) :=
    mapM_eq_pure fun entry hentry => (flagOption_eq h hentry).trans <| mapM_eq_pure fun o ho =>
      hbuilt o (List.mem_append_left _ (List.mem_flatMap.2 ⟨entry, hentry, ho⟩))
  have hothers : (s.others.map text).mapM (built? i) = some ((s.others.map text).map id) :=
    mapM_eq_pure fun t ht => by
      obtain ⟨o, ho, rfl⟩ := List.mem_map.1 ht
      exact hbuilt o (List.mem_append_right _ ho)
  calc startupOptions? i
      = some ((reportedFlags.map fun entry => (s.reported entry).map text).flatten
          ++ (s.others.map text).map id) := by
        rw [startupOptions?_eq_bind h, hflags, hothers]
        rfl
    _ = some (s.options.map text) := by
        rw [List.map_id, options, List.map_append, List.map_flatMap, List.flatMap_def]

end

/-! ### Reading a report -/

theorem mem_reported {s : Startup} {entry : String × Char} {o : StartupOption}
    (ho : o ∈ s.reported entry) : o = .flag entry.2 (s.shown entry.1) ∧ s.shown entry.1 ≠ 0 := by
  rw [reported] at ho
  split at ho
  · cases ho
  · next hlevel => exact ⟨List.mem_singleton.1 ho, hlevel⟩

/-- All options can be told from their texts. -/
theorem options_legible {s : Startup} (hkeys : ∀ e ∈ s.extras, '=' ∉ e.1.toList)
    {o : StartupOption} (ho : o ∈ s.options) : o.Legible := by
  have hletters : ∀ entry ∈ reportedFlags, entry.2 ≠ 'W' ∧ entry.2 ≠ 'X' := by decide
  rcases List.mem_append.1 ho with hflag | hrest
  · obtain ⟨entry, hentry, ho⟩ := List.mem_flatMap.1 hflag
    obtain ⟨rfl, hlevel⟩ := mem_reported ho
    obtain ⟨hwarning, hextra⟩ := hletters entry hentry
    exact .flag hwarning hextra hlevel
  · rcases List.mem_append.1 hrest with hwarning | hextra
    · obtain ⟨filter, -, rfl⟩ := List.mem_map.1 hwarning
      exact .warning
    · obtain ⟨e, he, rfl⟩ := List.mem_map.1 hextra
      exact .extra (hkeys e he)

section
variable (s : Startup) (letter : Char)

theorem levelOf_reported_append (entry : String × Char) (os : List StartupOption) :
    levelOf letter (s.reported entry ++ os)
      = if entry.2 = letter ∧ s.shown entry.1 ≠ 0 then s.shown entry.1 else levelOf letter os := by
  by_cases hlevel : s.shown entry.1 = 0
  · simp [reported, hlevel]
  · simp [reported, hlevel, levelOf]

theorem levelOf_warnings_append (filters : List String) (os : List StartupOption) :
    levelOf letter (filters.map .warning ++ os) = levelOf letter os := by
  induction filters with
  | nil => rfl
  | cons filter filters ih => exact ih

theorem levelOf_extras (es : List (String × Option String)) :
    levelOf letter (es.map fun e => .extra e.1 e.2) = 0 := by
  induction es with
  | nil => rfl
  | cons e es ih => exact ih

/-- Flags with other letters do not count. -/
theorem levelOf_flags_of_notMem {flags : List (String × Char)}
    (hletter : letter ∉ flags.map (·.2)) (os : List StartupOption) :
    levelOf letter (flags.flatMap s.reported ++ os) = levelOf letter os := by
  induction flags with
  | nil => rfl
  | cons other flags ih =>
    rw [List.map_cons, List.mem_cons, not_or] at hletter
    rw [List.flatMap_cons, List.append_assoc, levelOf_reported_append, if_neg (hletter.1 ·.1.symm),
      ih hletter.2]

/-- The level of a flag is found again if the flags have letters of their own: no flag in front of
it is taken for it, and behind it there is none that stands in for one that is not set. -/
theorem levelOf_flags {flags : List (String × Char)} (hnodup : (flags.map (·.2)).Nodup)
    {entry : String × Char} (hentry : entry ∈ flags) {os : List StartupOption}
    (hos : levelOf entry.2 os = 0) :
    levelOf entry.2 (flags.flatMap s.reported ++ os) = s.shown entry.1 := by
  induction flags with
  | nil => cases hentry
  | cons other flags ih =>
    rw [List.map_cons, List.nodup_cons] at hnodup
    rw [List.flatMap_cons, List.append_assoc, levelOf_reported_append]
    rcases List.mem_cons.1 hentry with rfl | hentry
    · rw [levelOf_flags_of_notMem s _ hnodup.1, hos]
      split
      · rfl
      · next hlevel => simp_all
    · have hother : other.2 ≠ entry.2 := fun h =>
        hnodup.1 (h ▸ List.mem_map_of_mem hentry)
      rw [if_neg (hother ·.1), ih hnodup.2 hentry]

theorem levelOf_options {entry : String × Char} (hentry : entry ∈ reportedFlags) :
    levelOf entry.2 s.options = s.shown entry.1 :=
  levelOf_flags s (by decide) hentry (by rw [others, levelOf_warnings_append, levelOf_extras])

/-- What is picked out of a list, and not from flags, comes from the two other sections. -/
theorem filterMap_options {α : Type} (pick : StartupOption → Option α)
    (hpick : ∀ letter level, pick (.flag letter level) = none) :
    s.options.filterMap pick
      = s.warnings.filterMap (fun filter => pick (.warning filter))
        ++ s.extras.filterMap (fun e => pick (.extra e.1 e.2)) := by
  have hflags : (reportedFlags.flatMap s.reported).filterMap pick = [] :=
    List.filterMap_eq_nil_iff.2 fun o ho => by
      obtain ⟨entry, -, ho⟩ := List.mem_flatMap.1 ho
      rw [(mem_reported ho).1, hpick]
  rw [options, others, List.filterMap_append, List.filterMap_append, hflags, List.nil_append,
    List.filterMap_map, List.filterMap_map]
  rfl

theorem warningsOf_options : s.options.filterMap warning? = s.warnings := by
  rw [filterMap_options s warning? fun _ _ => rfl]
  simp [warning?]

theorem extrasOf_options : s.options.filterMap extra? = s.extras := by
  rw [filterMap_options s extra? fun _ _ => rfl]
  simp [extra?]

end

/-! ### What a report tells -/

section
variable {s t : Startup}

/-- Isolation itself is not left out. -/
theorem shown_isolated : s.shown "isolated" = s.level "isolated" := by
  have hides : ¬ s.Hides "isolated" := fun h => absurd h.2 (by decide)
  rw [shown, if_neg hides]

theorem hides_congr (h : s.level "isolated" = t.level "isolated") (name : String) :
    s.Hides name ↔ t.Hides name := by
  rw [Hides, Hides, h]

theorem Agrees.shown_eq (h : s.Agrees t) {entry : String × Char} (hentry : entry ∈ reportedFlags) :
    s.shown entry.1 = t.shown entry.1 := by
  have hides := hides_congr h.isolated entry.1
  by_cases hs : s.Hides entry.1
  · rw [shown, shown, if_pos hs, if_pos (hides.1 hs)]
  · rw [shown, shown, if_neg hs, if_neg fun ht => hs (hides.2 ht)]
    exact h.levels entry hentry hs

theorem Agrees.options_eq (h : s.Agrees t) : s.options = t.options := by
  have hflags : reportedFlags.flatMap s.reported = reportedFlags.flatMap t.reported :=
    List.flatMap_congr fun entry hentry => by rw [reported, reported, h.shown_eq hentry]
  rw [options, options, others, others, hflags, h.warnings, h.extras]

theorem Agrees.tooLong_iff (h : s.Agrees t) (longest : Nat) :
    s.TooLong longest ↔ t.TooLong longest := by
  rw [TooLong, TooLong, h.options_eq]

/-- The options tell everything that is reported. -/
theorem agrees_of_options_eq (h : s.options = t.options) : s.Agrees t := by
  have hshown : ∀ entry ∈ reportedFlags, s.shown entry.1 = t.shown entry.1 := fun entry hentry =>
    calc s.shown entry.1
        = levelOf entry.2 s.options := (levelOf_options s hentry).symm
      _ = levelOf entry.2 t.options := by rw [h]
      _ = t.shown entry.1 := levelOf_options t hentry
  have hisolated : s.level "isolated" = t.level "isolated" := by
    have := hshown ("isolated", 'I') (by decide)
    rwa [shown_isolated, shown_isolated] at this
  constructor
  case isolated => exact hisolated
  case levels =>
    intro entry hentry hs
    have := hshown entry hentry
    rwa [shown, shown, if_neg hs, if_neg fun ht => hs ((hides_congr hisolated _).2 ht)] at this
  case warnings => rw [← warningsOf_options s, h, warningsOf_options]
  case extras => rw [← extrasOf_options s, h, extrasOf_options]

end

section
variable {s t : Startup} {i j : Interpreter} (hs : s.Describes i) (ht : t.Describes j)
include hs

theorem startupOptions?_eq_none_iff : startupOptions? i = none ↔ s.TooLong i.longestText := by
  constructor
  · intro hnone
    by_contra hfits
    rw [startupOptions?_of_fits hs hfits] at hnone
    cases hnone
  · exact startupOptions?_of_tooLong hs

theorem startupOptionList_of_tooLong (hlong : s.TooLong i.longestText) :
    startupOptionList i = [] := by
  rw [startupOptionList, startupOptions?_of_tooLong hs hlong]
  rfl

theorem startupOptionList_of_fits (hfits : ¬ s.TooLong i.longestText) :
    startupOptionList i = s.options.map text := by
  rw [startupOptionList, startupOptions?_of_fits hs hfits]
  rfl

include ht

theorem startupOptionList_congr (h : s.Agrees t) (hlongest : i.longestText = j.longestText) :
    startupOptionList i = startupOptionList j := by
  have hiff : s.TooLong i.longestText ↔ t.TooLong j.longestText := hlongest ▸ h.tooLong_iff _
  by_cases hlong : s.TooLong i.longestText
  · rw [startupOptionList_of_tooLong hs hlong, startupOptionList_of_tooLong ht (hiff.1 hlong)]
  · rw [startupOptionList_of_fits hs hlong, startupOptionList_of_fits ht fun ht =>
      hlong (hiff.2 ht), h.options_eq]

/-- Of lists of options that come about without a failure, each one tells what it was made from. -/
theorem agrees_of_startupOptionList_eq (hsfits : ¬ s.TooLong i.longestText)
    (htfits : ¬ t.TooLong j.longestText) (h : startupOptionList i = startupOptionList j) :
    s.Agrees t := by
  rw [startupOptionList_of_fits hs hsfits, startupOptionList_of_fits ht htfits] at h
  exact agrees_of_options_eq
    (map_text_injOn (fun _ => options_legible hs.keys) (fun _ => options_legible ht.keys) h)

end

end Startup

/-- The line of options is the list with blanks between the options, unless that is too long. -/
theorem startupOptionLine_eq (i : Interpreter) :
    startupOptionLine i
      = if (" ".intercalate (startupOptionList i)).length ≤ i.longestText then
          " ".intercalate (startupOptionList i)
        else "" := by
  rw [startupOptionLine, startupOptionList]
  rcases startupOptions? i with - | options
  · exact (ite_self "").symm
  · show (built? i (" ".intercalate options)).getD "" = _
    rw [built?, Option.getD_some]
    split
    · rfl
    · rfl

theorem startupOptionLine_eq_intercalate_iff (i : Interpreter) :
    startupOptionLine i = " ".intercalate (startupOptionList i)
      ↔ (" ".intercalate (startupOptionList i)).length ≤ i.longestText := by
  rw [startupOptionLine_eq]
  constructor
  · intro h
    by_contra hlong
    rw [if_neg hlong] at h
    exact hlong (h ▸ Nat.zero_le _)
  · exact fun hfits => if_pos hfits

/-- **What the startup options tell.**  The line of options is the list with blanks between the
options, unless that is too long; where the options cannot be found out, both are empty.  If two
lists are the same, they are about interpreters that agree in everything that is reported, or
both are empty and one of them because an option is too long, which is the one reason for a
failure.  Interpreters that agree, and can put together texts of the same length, have the same
list. -/
theorem startupOptionList_tells :
    (∀ i,
      startupOptionLine i
        = (if (" ".intercalate (startupOptionList i)).length ≤ i.longestText then
            " ".intercalate (startupOptionList i)
          else "") ∧
      (startupOptions? i = none → startupOptionList i = [] ∧ startupOptionLine i = "")) ∧
    ∀ i j (s t : Startup), s.Describes i → t.Describes j →
      (startupOptions? i = none ↔ s.TooLong i.longestText) ∧
      (startupOptionList i = startupOptionList j →
        s.Agrees t ∨
          (s.TooLong i.longestText ∨ t.TooLong j.longestText) ∧
            startupOptionList i = [] ∧ startupOptionList j = []) ∧
      (s.Agrees t → i.longestText = j.longestText →
        startupOptionList i = startupOptionList j) := by
  refine ⟨fun i => ⟨startupOptionLine_eq i, fun hnone => ?_⟩, fun i j s t hs ht =>
    ⟨Startup.startupOptions?_eq_none_iff hs, fun h => ?_, Startup.startupOptionList_congr hs ht⟩⟩
  · rw [startupOptionList, startupOptionLine, hnone]
    exact ⟨rfl, rfl⟩
  · by_cases hlong : s.TooLong i.longestText ∨ t.TooLong j.longestText
    · right
      rcases hlong with hlong | hlong
      · have hempty := Startup.startupOptionList_of_tooLong hs hlong
        exact ⟨.inl hlong, hempty, h.symm.trans hempty⟩
      · have hempty := Startup.startupOptionList_of_tooLong ht hlong
        exact ⟨.inr hlong, h.trans hempty, hempty⟩
    · rw [not_or] at hlong
      exact .inl (Startup.agrees_of_startupOptionList_eq hs ht hlong.1 hlong.2 h)

/-- A start with some levels, a warning option, and both kinds of options for the implementation. -/
def sampleStartup (levels : Entries Nat) : Startup where
  level name := (levels.get? name).getD 0
  warnings := ["error"]
  extras := [("utf8", none), ("prefix", some "a=b")]

/-- With isolation, a flag that comes with it makes no difference, but the level of another one
does. -/
theorem startupOptionList_of_isolated :
    let list (levels : Entries Nat) : List String :=
      startupOptionList ((sampleStartup levels).interpreter 100)
    list [("isolated", 1), ("optimize", 2), ("no_user_site", 1)]
        = list [("isolated", 1), ("optimize", 2)] ∧
      list [("isolated", 1), ("optimize", 2)] ≠ list [("isolated", 1), ("optimize", 1)] := by
  have hdescribes : ∀ levels,
      (sampleStartup levels).Describes ((sampleStartup levels).interpreter 100) :=
    fun _ => Startup.describes_interpreter (by simp [sampleStartup]) 100
  have hlist := fun levels levels' =>
    (startupOptionList_tells.2 _ _ _ _ (hdescribes levels) (hdescribes levels')).2
  constructor
  · refine (hlist _ _).2 ⟨?_, ?_, rfl, rfl⟩ rfl
    · decide
    · decide
  · intro h
    rcases (hlist _ _).1 h with hagrees | ⟨-, hempty, -⟩
    · exact absurd (hagrees.levels ("optimize", 'O') (by decide) (by decide)) (by decide)
    · exact absurd hempty (by decide)

/-- Two warning options that are as long as a text can be. -/
def wideStartup (longest : Nat) : Startup where
  level _ := 0
  warnings := List.replicate 2 (String.ofList (List.replicate (longest - 2) 'a'))
  extras := []

/-- A flag of a level as high as a text is long. -/
def highStartup (longest : Nat) : Startup where
  level name := if name = "debug" then longest + 1 else 0
  warnings := []
  extras := []

/-- The options of a wide start can be put together, but not the line of them. -/
theorem startupOptionLine_ne_of_wide {longest : Nat} (hlongest : 2 ≤ longest) :
    let i := (wideStartup longest).interpreter longest
    startupOptionLine i ≠ " ".intercalate (startupOptionList i) := by
  intro i
  let wide := StartupOption.warning (String.ofList (List.replicate (longest - 2) 'a'))
  have hdescribes : (wideStartup longest).Describes i :=
    Startup.describes_interpreter (by simp [wideStartup]) longest
  have hoptions : (wideStartup longest).options = [wide, wide] := rfl
  have hlength : (text wide).length = longest := by
    simp only [wide, text, String.length_append, String.length_ofList, List.length_replicate]
    exact Nat.add_sub_cancel' hlongest
  have hfits : ¬ (wideStartup longest).TooLong longest := by
    rintro ⟨o, ho, hlong⟩
    rw [hoptions] at ho
    obtain rfl : o = wide := by simpa using ho
    omega
  have hlist : startupOptionList i = [text wide, text wide] := by
    rw [Startup.startupOptionList_of_fits hdescribes hfits, hoptions]
    rfl
  intro hline
  rw [startupOptionLine_eq_intercalate_iff, hlist, String.intercalate_cons_cons,
    String.intercalate_singleton, String.length_append, String.length_append, hlength] at hline
  have hlongestText : i.longestText = longest := rfl
  omega

/-- A level that is too high makes the list of options look like that of an interpreter that was
started without any. -/
theorem startupOptionList_of_high (longest : Nat) :
    (highStartup longest).Describes ((highStartup longest).interpreter longest) ∧
      startupOptionList ((highStartup longest).interpreter longest) = [] := by
  have hdescribes : (highStartup longest).Describes ((highStartup longest).interpreter longest) :=
    Startup.describes_interpreter (by simp [highStartup]) longest
  have hlong : (highStartup longest).TooLong longest := by
    have hoption : StartupOption.flag 'd' (longest + 1)
        ∈ (highStartup longest).reported ("debug", 'd') := List.mem_singleton.2 rfl
    refine ⟨_, List.mem_append_left _ (List.mem_flatMap.2 ⟨_, ?_, hoption⟩), ?_⟩
    · decide
    · rw [length_text_flag]
      omega
  exact ⟨hdescribes, Startup.startupOptionList_of_tooLong hdescribes hlong⟩

/-- However long a text can be, the line of options need not be the list with blanks between the
options, and lists may be the same although the interpreters do not agree. -/
theorem startupOptionList_forgets_tooLong :
    (¬ ∃ longest, 2 ≤ longest ∧ ∀ i, i.longestText = longest →
      startupOptionLine i = " ".intercalate (startupOptionList i)) ∧
    ¬ ∃ longest, ∀ i j (s t : Startup), i.longestText = longest → j.longestText = longest →
      s.Describes i → t.Describes j → startupOptionList i = startupOptionList j →
      s.Agrees t := by
  constructor
  · rintro ⟨longest, hlongest, hline⟩
    exact startupOptionLine_ne_of_wide hlongest (hline _ rfl)
  · rintro ⟨longest, htells⟩
    let plain : Startup := ⟨fun _ => 0, [], []⟩
    have hplain : plain.Describes (plain.interpreter longest) :=
      Startup.describes_interpreter (by simp [plain]) longest
    obtain ⟨hhigh, hempty⟩ := startupOptionList_of_high longest
    have hagrees := htells _ _ _ _ rfl rfl hhigh hplain (hempty.trans rfl)
    have hshown : ¬ (highStartup longest).Hides "debug" := fun h => absurd h.2 (by decide)
    exact absurd (hagrees.levels ("debug", 'd') (by decide) hshown) (Nat.succ_ne_zero longest)

end Probe

end StartupReport
