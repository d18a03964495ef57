/-
StartupReport/Proofs/CommandLine/BlankSection.lean

A section of the settings that is there but null.

A section below which every line is a comment is null, and in the settings of a run it
takes the place of the default section.  Those who read a section go on as if a null
one were empty, and the default sections of the log and of the memory say no more than
an empty one does: a run is the same as without them (`SameForBanner`).  The section of
the banner is also read, for the name of the component, by two who do not go on: one
writes a name to it that is given, and the other looks up the name (`refusal`).
-/
import StartupReport.CommandLine.Run
import StartupReport.Proofs.BareHost
import StartupReport.Proofs.Configuration.Merging
import StartupReport.Proofs.Configuration.UserFile

namespace StartupReport.CommandLine

open StartupReport.Configuration (Packages Spells readerOf merge defaults withComponent withoutKey
  userFile? pathVariable)
open StartupReport.Value (lookup? write KeysDiffer lookup?_write)

/-! ### The banner under settings -/

/-- The name of a component as a setting. -/
def componentSetting : Option String → Value
  | some name => .str name
  | none => .null

/-- What is left of a run with a banner once the component has its name. -/
def announce (h : Host) (arguments : List String) (config : Value) : Traced Nat := do
  let setup ← Traced.ask (Log.Setup.of config)
  Traced.emit (.patterned setup.pattern)
  let component ← Traced.ask (do required (← required config "banner") "component_name")
  above setup.level <| guarded
    (do
      let logger ← Traced.ask (componentLogger component)
      Banner.write h logger setup.level component (.list (arguments.map .str)) config none)
    fun _ => pure ()

/-- What is left of a run with a banner once the settings are there. -/
def bannerUnder (h : Host) (arguments : List String) (component : Option String)
    (config : Value) : Traced Nat :=
  Traced.use (withComponent config (componentSetting component)) >>= announce h arguments

theorem runBanner_eq (h : Host) (arguments : List String) (component config : Option String) :
    runBanner h arguments component config
      = settings h config >>= bannerUnder h arguments component := by
  cases component <;> rfl

/-- The texts of files count only as far as the settings are read from them. -/
theorem bannerUnder_files (h : Host) (fs : Files) (arguments : List String)
    (component : Option String) (config : Value) :
    bannerUnder { h with files := fs } arguments component config
      = bannerUnder h arguments component config := rfl

/-! ### Who reads what -/

section
variable {es fs : Mapping}

theorem group_congr {name : String} (h : lookup? es (.str name) = lookup? fs (.str name)) :
    (Value.map es).group name = (Value.map fs).group name := by
  simp only [Value.group, Value.entry, Value.entriesFor, Except.map, h]

theorem setup_congr {c d : Value} (h : c.group "logging" = d.group "logging") :
    Log.Setup.of c = Log.Setup.of d := by
  rw [Log.Setup.of, Log.Setup.of, h]

theorem ceiling_congr {c d : Value} (h : c.group "memory" = d.group "memory") :
    Banner.configuredCeiling c = Banner.configuredCeiling d := by
  rw [Banner.configuredCeiling, Banner.configuredCeiling, h]

/-- Settings that a run with a banner does not tell apart. -/
structure SameForBanner (es fs : Mapping) : Prop where
  banner : lookup? es (.str "banner") = lookup? fs (.str "banner")
  logging : Log.Setup.of (.map es) = Log.Setup.of (.map fs)
  memory : Banner.configuredCeiling (.map es) = Banner.configuredCeiling (.map fs)

namespace SameForBanner

/-- A section of the banner that is written to both leaves them alike. -/
theorem set_banner (h : SameForBanner es fs) (banner : Value) :
    SameForBanner (write es (.str "banner") banner) (write fs (.str "banner") banner) := by
  have hother : ∀ (gs : Mapping) {name : String}, name ≠ "banner" →
      (Value.map (write gs (.str "banner") banner)).group name = (Value.map gs).group name := by
    intro gs name hname
    refine group_congr ?_
    rw [lookup?_write, if_neg fun heq => hname (Value.identity_str_eq_iff.1 heq).symm]
  exact {
    banner := by rw [lookup?_write, lookup?_write, if_pos rfl, if_pos rfl]
    logging := by
      rw [setup_congr (hother es (by decide)), setup_congr (hother fs (by decide)), h.logging]
    memory := by
      rw [ceiling_congr (hother es (by decide)), ceiling_congr (hother fs (by decide)), h.memory] }

theorem gather_eq (h : SameForBanner es fs) (host : Host) (component arguments : Value) :
    Banner.gather host component arguments (.map es) none
      = Banner.gather host component arguments (.map fs) none := by
  have hpresent : ∀ gs : Mapping, (Value.map gs).orElse (.map []) = .map gs := by
    intro gs
    cases gs <;> rfl
  have hsettings : Banner.Settings.of (.map es) = Banner.Settings.of (.map fs) := by
    rw [Banner.Settings.of, Banner.Settings.of, group_congr h.banner]
  simp only [Banner.gather, hpresent, hsettings, h.memory]

theorem announce_eq (h : SameForBanner es fs) (host : Host) (arguments : List String) :
    announce host arguments (.map es) = announce host arguments (.map fs) := by
  have hrequired : required (.map es) "banner" = required (.map fs) "banner" := by
    simp only [required, h.banner]
  simp only [announce, Banner.write, Banner.lines, hrequired, h.logging, h.gather_eq]

theorem bannerUnder_eq (h : SameForBanner es fs) (host : Host) (arguments : List String)
    (component : Option String) :
    bannerUnder host arguments component (.map es)
      = bannerUnder host arguments component (.map fs) := by
  cases component with
  | none => exact h.announce_eq host arguments
  | some name =>
    simp only [bannerUnder, componentSetting, withComponent, Value.entriesFor, bind, Except.bind,
      h.banner]
    -- the name can be written to a mapping only, and anything else refuses it on both sides
    rcases (lookup? fs (.str "banner")).getD (.map []) with - | - | - | - | - | banner | -
    case map => exact (h.set_banner _).announce_eq host arguments
    all_goals rfl

end SameForBanner

/-! ### A null section -/

/-- A null section of the log is as good as the default one, which says no more than is
taken for granted. -/
theorem setup_of_null (hes : lookup? es (.str "logging") = some .null)
    (hfs : lookup? fs (.str "logging") = lookup? defaults (.str "logging")) :
    Log.Setup.of (.map es) = Log.Setup.of (.map fs) := by
  have hnull : Log.Setup.of (.map es) = Log.Setup.of (.map [(.str "logging", .null)]) :=
    setup_congr (group_congr hes)
  have hdefault : Log.Setup.of (.map fs) = Log.Setup.of (.map defaults) :=
    setup_congr (group_congr hfs)
  rw [hnull, hdefault]
  rfl

/-- A null section of the memory is as good as the default one, which has no ceiling. -/
theorem ceiling_of_null (hes : lookup? es (.str "memory") = some .null)
    (hfs : lookup? fs (.str "memory") = lookup? defaults (.str "memory")) :
    Banner.configuredCeiling (.map es) = Banner.configuredCeiling (.map fs) := by
  have hnull : Banner.configuredCeiling (.map es)
      = Banner.configuredCeiling (.map [(.str "memory", .null)]) := ceiling_congr (group_congr hes)
  have hdefault : Banner.configuredCeiling (.map fs)
      = Banner.configuredCeiling (.map defaults) := ceiling_congr (group_congr hfs)
  rw [hnull, hdefault]
  rfl

/-- How a run with a banner fails whose own section is null: at once if there is a name to
write to it, and else when the name is looked up, after the log is set up. -/
def refusal (component : Option String) (setup : Outcome Log.Setup) : Traced Nat :=
  match component with
  | some _ => Traced.fail (.misuse (.assignment .null))
  | none => do
    let setup ← Traced.ask setup
    Traced.emit (.patterned setup.pattern)
    Traced.fail (.misuse (.lookup .null))

theorem bannerUnder_of_null (hes : lookup? es (.str "banner") = some .null) (host : Host)
    (arguments : List String) (component : Option String) :
    bannerUnder host arguments component (.map es)
      = refusal component (Log.Setup.of (.map es)) := by
  cases component with
  | some name =>
    have hrefused : withComponent (.map es) (.str name) = .error (.assignment .null) := by
      simp only [withComponent, Value.entriesFor, bind, Except.bind, hes]
      rfl
    rw [bannerUnder, componentSetting, hrefused]
    rfl
  | none =>
    have hrefused : (do required (← required (.map es) "banner") "component_name")
        = (.error (.misuse (.lookup .null)) : Outcome Value) := by
      simp only [required, hes]
      rfl
    show announce host arguments (.map es) = _
    simp only [announce, hrefused]
    rfl

end

/-! ### A run -/

/-- The host with a text in one of its files. -/
def withFile (h : Host) (place : Place) (text : String) : Host :=
  { h with files := h.files.withText place text }

theorem run_banner_withFile (h : Host) {place : Place} {text : String} {settings : Mapping}
    (arguments : List String) (component config : Option String)
    (hpackaged : Packages h.readDocument defaults)
    (hplace : userFile? h.files config (h.valueOf? pathVariable) = some place)
    (hspells : Spells h.readDocument text settings) :
    (Command.banner arguments component config).run (withFile h place text)
      = bannerUnder h arguments component (.map (merge defaults settings)) := by
  have hsettings : CommandLine.settings (withFile h place text) config
      = pure (.map (merge defaults settings)) := by
    have hdiscover := Configuration.discover_withText hpackaged hplace hspells
    have hpath : (withFile h place text).valueOf? pathVariable = h.valueOf? pathVariable := rfl
    rw [CommandLine.settings, hpath]
    exact congrArg Traced.ask hdiscover
  show runBanner _ _ _ _ = _
  rw [runBanner_eq, hsettings, Traced.pure_bind]
  exact bannerUnder_files h _ arguments component _

/-- **What a null section comes to.**  In the file of settings that a run with a banner
reads, a null section of the log or of the memory makes no difference: the run is the
same as without it, event by event.  A null section of the banner makes the run fail,
whatever the host is like and whatever else is set.

How texts spell settings is the business of the host; all that is asked of it is that the
text in the package spells the defaults. -/
theorem run_banner_of_null_section (h : Host) {place : Place} {name : String}
    {settings : Mapping} {blank without : String} (arguments : List String)
    (component config : Option String) (hpackaged : Packages h.readDocument defaults)
    (hplace : userFile? h.files config (h.valueOf? pathVariable) = some place)
    (hname : Value.str name ∈ defaults.map (·.1)) (hkeys : KeysDiffer settings)
    (hnull : lookup? settings (.str name) = some .null)
    (hblank : Spells h.readDocument blank settings)
    (hwithout : Spells h.readDocument without (withoutKey settings (.str name))) :
    (Command.banner arguments component config).run (withFile h place blank)
      = if name = "banner" then
          refusal component
            (Log.Setup.of (.map (merge defaults (withoutKey settings (.str name)))))
        else (Command.banner arguments component config).run (withFile h place without) := by
  rw [run_banner_withFile h arguments component config hpackaged hplace hblank,
    run_banner_withFile h arguments component config hpackaged hplace hwithout]
  have hself : lookup? (merge defaults settings) (.str name) = some .null :=
    Configuration.lookup?_merge_of_null hkeys hnull defaults
  have hleft : lookup? (merge defaults (withoutKey settings (.str name))) (.str name)
      = lookup? defaults (.str name) :=
    Configuration.lookup?_merge_withoutKey_self hkeys defaults (.str name)
  have hother : ∀ other : String, other ≠ name →
      lookup? (merge defaults settings) (.str other)
        = lookup? (merge defaults (withoutKey settings (.str name))) (.str other) :=
    fun _ hne => (Configuration.lookup?_merge_withoutKey hkeys defaults fun heq =>
      hne (Value.identity_str_eq_iff.1 heq)).symm
  obtain rfl | rfl | rfl : name = "banner" ∨ name = "memory" ∨ name = "logging" := by
    simpa [defaults] using hname
  -- the section of the banner itself, which is also read for the name of the component
  · have hlogging := setup_congr (group_congr (hother "logging" (by decide)))
    rw [if_pos rfl, bannerUnder_of_null hself, hlogging]
  -- the two other sections, of which the default says nothing
  · rw [if_neg (by decide)]
    refine SameForBanner.bannerUnder_eq ?_ h arguments component
    exact {
      banner := hother _ (by decide)
      logging := setup_congr (group_congr (hother _ (by decide)))
      memory := ceiling_of_null hself hleft }
  · rw [if_neg (by decide)]
    refine SameForBanner.bannerUnder_eq ?_ h arguments component
    exact {
      banner := hother _ (by decide)
      logging := setup_of_null hself hleft
      memory := ceiling_congr (group_congr (hother _ (by decide))) }

/-- Settings with one section, which is null. -/
def nullSettings (name : String) : Mapping := [(.str name, .null)]

/-- The text of a section below which every line is a comment. -/
def blankText (name : String) : String := name ++ ":\n  # nothing is set\n"

/-- A host with an empty file of settings in its working directory, whose reader knows the
sections of the memory and of the banner below which every line is a comment. -/
def settledHost : Host :=
  { bareHost with
    files := ⟨[], [], [([Configuration.localFile], "")]⟩
    readDocument := readerOf
      [("", .null), (blankText "memory", .map (nullSettings "memory")),
        (blankText "banner", .map (nullSettings "banner"))] }

/-- A run does not notice a section of the memory below which every line is a comment. -/
theorem run_banner_of_blank_memory :
    Spells settledHost.readDocument (blankText "memory") (nullSettings "memory") ∧
    (Command.banner [] none none).run
        (withFile settledHost [Configuration.localFile] (blankText "memory"))
      = (Command.banner [] none none).run
        (withFile settledHost [Configuration.localFile] "") := by
  have hplace : userFile? settledHost.files none (settledHost.valueOf? pathVariable)
      = some [Configuration.localFile] := by decide +kernel
  have hblank : Spells settledHost.readDocument (blankText "memory") (nullSettings "memory") := by
    decide +kernel
  have hwithout : Spells settledHost.readDocument ""
      (withoutKey (nullSettings "memory") (.str "memory")) := by decide +kernel
  refine ⟨hblank, ?_⟩
  rw [run_banner_of_null_section settledHost [] none none (Configuration.packages_readerOf _) hplace
    (by decide) (by decide) (by decide) hblank hwithout, if_neg (by decide)]

/-- A section of the banner below which every line is a comment makes a run fail that
ends well without it. -/
theorem not_run_banner_of_blank_banner :
    ¬ ∀ (h : Host) (place : Place) (name : String) (settings : Mapping)
      (blank without : String) (arguments : List String) (component config : Option String),
      Packages h.readDocument defaults →
      userFile? h.files config (h.valueOf? pathVariable) = some place →
      Value.str name ∈ defaults.map (·.1) → KeysDiffer settings →
      lookup? settings (.str name) = some .null → Spells h.readDocument blank settings →
      Spells h.readDocument without (withoutKey settings (.str name)) →
      (Command.banner arguments component config).run (withFile h place blank)
        = (Command.banner arguments component config).run (withFile h place without) := by
  intro hclaim
  have hsame := hclaim settledHost [Configuration.localFile] "banner" (nullSettings "banner")
    (blankText "banner") "" [] none none (Configuration.packages_readerOf _) (by decide +kernel)
    (by decide) (by decide) (by decide) (by decide +kernel) (by decide +kernel)
  have hfails : (((Command.banner [] none none).run (withFile settledHost
      [Configuration.localFile] (blankText "banner"))).outcome.toOption) = none := by
    decide +kernel
  have hends : (((Command.banner [] none none).run (withFile settledHost
      [Configuration.localFile] "")).outcome.toOption) = some 0 := by decide +kernel
  rw [hsame, hends] at hfails
  cases hfails

end StartupReport.CommandLine
