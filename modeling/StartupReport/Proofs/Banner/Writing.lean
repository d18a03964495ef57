/-
StartupReport/Proofs/Banner/Writing.lean

A banner is written as a whole or not at all.

All the facts are gathered before the first line is written, and writing a line cannot
fail.  So what comes of writing is decided by gathering: a fault of a source of facts is
the fault of writing, and then there is no line, and without such a fault there are all
of the lines, each in a record of its own (`write_whole_or_nothing`).
-/
import Mathlib.Data.List.Forall2
import StartupReport.Proofs.Banner.Gathering
import StartupReport.Proofs.Banner.Layout
import StartupReport.Proofs.Banner.Redaction

namespace StartupReport.Banner

/-! ### Arguments -/

/-- Arguments as a value, null if none are given. -/
def argumentList : Option (List Value) → Value
  | some arguments => .list arguments
  | none => .null

/-- An argument is shown by a text: the one that covers it if it is sensitive, or else
its own. -/
def ShownBy (settings : Settings) (argument : Value) (text : String) : Prop :=
  ∃ sensitive, isSensitive argument settings.keys = .ok sensitive ∧
    text = if sensitive then settings.cover.text ++ " (sensitive information)" else argument.text

theorem shownBy_of_shownArgument {settings : Settings} {argument : Value} {text : String}
    (h : shownArgument settings argument = .ok text) : ShownBy settings argument text := by
  unfold shownArgument at h
  rcases hsensitive : isSensitive argument settings.keys with e | sensitive
  · rw [hsensitive] at h
    cases h
  · refine ⟨sensitive, hsensitive, ?_⟩
    rw [hsensitive] at h
    cases sensitive <;> exact (Except.ok.inj h).symm

/-- Arguments are shown one by one in their order. -/
theorem forall₂_of_mapM {settings : Settings} {arguments : List Value} {texts : List String}
    (h : arguments.mapM (shownArgument settings) = .ok texts) :
    List.Forall₂ (ShownBy settings) arguments texts := by
  induction arguments generalizing texts with
  | nil =>
    cases h
    exact .nil
  | cons argument arguments ih =>
    rw [List.mapM_cons] at h
    rcases hfirst : shownArgument settings argument with e | text
    · rw [hfirst] at h
      cases h
    rcases hrest : arguments.mapM (shownArgument settings) with e | rest
    · rw [hfirst, hrest] at h
      cases h
    rw [hfirst, hrest] at h
    cases h
    exact .cons (shownBy_of_shownArgument hfirst) (ih hrest)

theorem forall₂_of_shownArguments {settings : Settings} {arguments : Option (List Value)}
    {texts : List String} (h : shownArguments settings (argumentList arguments) = .ok texts) :
    List.Forall₂ (ShownBy settings) (arguments.getD []) texts := by
  rcases arguments with - | (- | ⟨argument, arguments⟩)
  · cases h
    exact .nil
  · cases h
    exact .nil
  · rw [argumentList, shownArguments_list] at h
    exact forall₂_of_mapM h

/-! ### Lines -/

/-- The record of a line of a banner. -/
def lineRecord (logger line : String) : Record := ⟨logger, Log.Level.info, line, none⟩

/-- Lines are written one after another, and nothing can keep one from being written. -/
theorem forM_log (logger : String) (lines : List String) :
    (lines.forM fun line => Traced.log logger Log.Level.info line)
      = ⟨.ok (), lines.map fun line => .logged (lineRecord logger line)⟩ := by
  induction lines with
  | nil => rfl
  | cons line lines ih =>
    show (Traced.log logger Log.Level.info line >>= fun _ =>
      lines.forM fun line => Traced.log logger Log.Level.info line) = _
    rw [ih]
    rfl

section
variable (h : Host) (logger : String) {threshold : Log.Level} (component arguments config : Value)
  (source : Option MemorySource)

theorem write_of_le (hle : threshold ≤ Log.Level.info) :
    write h logger threshold component arguments config source
      = gather h component arguments config source >>= fun f =>
        ⟨.ok (), f.lines.map fun line => .logged (lineRecord logger line)⟩ := by
  rw [write, if_pos hle, lines, Traced.bind_of_map]
  exact Traced.bind_congr fun f _ => forM_log logger f.lines

theorem write_of_not_le (hnot : ¬ threshold ≤ Log.Level.info) :
    write h logger threshold component arguments config source = pure () :=
  if_neg hnot

end

/-- **A banner is written as a whole or not at all.**  A logger whose threshold is above
the lines, as that of one that is switched off, is given none of them, and no source
of facts is asked whatever the host would say.  For any other logger the facts are
gathered first.  If that fails, so does writing, and nothing is left behind but what
the sources left behind up to then.  If it does not, every fact is what its source
gave, and the records of all the lines follow, one for each part of the layout: every
option and every argument has one, in the order in which they are given. -/
theorem write_whole_or_nothing (h : Host) (logger : String) (threshold : Log.Level)
    (component : Value) (arguments : Option (List Value)) (config : Value)
    (source : Option MemorySource) :
    let gathering := gather h component (argumentList arguments) config source
    let writing := write h logger threshold component (argumentList arguments) config source
    let inherited := (h.valueOf? inheritedVariable).isSome
    let options := (Probe.startupOptionList h.interpreter).length
    let given := (arguments.getD []).length
    if threshold ≤ Log.Level.info then
      (∀ e ∈ gathering.events, OfGathering source e) ∧
      ((∃ fault, gathering.outcome = .error fault ∧ writing.outcome = .error fault ∧
          writing.events = gathering.events) ∨
        ∃ (facts : Facts) (lines : List String),
          gathering.outcome = .ok facts ∧ writing.outcome = .ok () ∧
          writing.events
            = gathering.events ++ lines.map (fun line => .logged (lineRecord logger line)) ∧
          Gathered h component (argumentList arguments) config source facts ∧
          (∃ settings, Settings.of (config.orElse (.map [])) = .ok settings ∧
            List.Forall₂ (ShownBy settings) (arguments.getD []) facts.arguments) ∧
          (layout inherited options given).map (·.line? facts) = lines.map some ∧
          lines.length = 12 + (if inherited then 3 else 0) + options + given)
    else writing = pure () := by
  intro gathering writing inherited options given
  by_cases hle : threshold ≤ Log.Level.info
  · rw [if_pos hle]
    refine ⟨leaves_gather h component (argumentList arguments) config source, ?_⟩
    have hwriting : writing = _ :=
      write_of_le h logger component (argumentList arguments) config source hle
    rcases hgathering : gathering.outcome with fault | facts
    · refine .inl ⟨fault, rfl, ?_, ?_⟩
      · rw [hwriting, Traced.outcome_bind_error hgathering]
      · rw [hwriting, Traced.events_bind_error hgathering]
    · have hgathered := gathered_of_gather hgathering
      obtain ⟨settings, hsettings, hshown⟩ := hgathered.arguments
      have harguments := forall₂_of_shownArguments hshown
      -- the parts depend on the facts only by what the host and the arguments say
      have hlayout : layout inherited options given = facts.layout := by
        rw [Facts.layout, hgathered.inherited, hgathered.options, ← harguments.length_eq]
      have hparts := map_line?_layout facts
      rw [← hlayout] at hparts
      have hcount := congrArg List.length hparts
      rw [List.length_map, List.length_map, length_layout] at hcount
      refine .inr ⟨facts, facts.lines, rfl, ?_, ?_, hgathered, ⟨settings, hsettings, harguments⟩,
        hparts, hcount.symm⟩
      · rw [hwriting, Traced.outcome_bind_ok hgathering]
      · rw [hwriting, Traced.events_bind_ok hgathering]
  · rw [if_neg hle]
    exact write_of_not_le h logger component (argumentList arguments) config source hle

end StartupReport.Banner
