/-
StartupReport/Proofs/Configuration/Sources.lean

Where the settings of a run come from.

There are four sources in a fixed order, and a run takes the first that is set
(`FirstSource`): the file that the user asks for, the one that the environment names, the
one in the working directory, and the package.  An empty name is as good as none.  From
there on neither the two names nor the other sources play a part (`discover_eq_outcome`),
and of the file system only what is under the name of the source (`outcome_congr`).

So a file that is asked for and does not exist is a failure and never a reason to look
further, and what other files hold makes no difference.

Main result: `discover_of_firstSource`.
-/
import StartupReport.Proofs.Configuration.UserFile

namespace StartupReport

/-! ### What is under a name -/

namespace Files

/-- Two file systems cannot be told apart by looking under a name. -/
structure SameUnder (fs fs' : Files) (path : String) : Prop where
  existsAt : fs'.existsAt path = fs.existsAt path
  read : fs'.read path = fs.read path

/-- What is read under a name that leads to a place. -/
theorem read_of_resolve {fs : Files} {path : String} {place : Place}
    (hplace : fs.resolve path = .ok place) :
    fs.read path =
      if fs.isDirectory place then .error (.directory path)
      else match fs.textAt? place with
        | some text => .ok text
        | none => .error (.missing path) := by
  rw [read, mapError_eq_ok_iff.2 hplace]
  simp only [bind, Except.bind]
  split <;> rfl

/-- A name under which there is something other than a directory is that of a file. -/
theorem exists_read_of_existsAt {fs : Files} {path : String} (h : fs.existsAt path = true)
    (hfile : fs.isDirectoryAt path = false) : ∃ text, fs.read path = .ok text := by
  unfold existsAt at h
  unfold isDirectoryAt at hfile
  rcases hplace : fs.resolve path with obstacle | place
  · rw [hplace] at h
    cases h
  · simp only [hplace, holds] at h hfile
    rw [hfile, Bool.false_or] at h
    obtain ⟨text, htext⟩ := Option.isSome_iff_exists.1 h
    refine ⟨text, ?_⟩
    rw [read_of_resolve hplace, hfile, htext]
    rfl

theorem textAt?_withText_of_ne {place other : Place} (h : other ≠ place) (fs : Files)
    (text : String) : (fs.withText place text).textAt? other = fs.textAt? other := by
  rw [textAt?, withText, List.lookup_cons, beq_false_of_ne h]
  rfl

/-- A name that leads elsewhere does not notice what a file gets for a text. -/
theorem sameUnder_withText {fs : Files} {place : Place} {path : String}
    (hfile : (fs.textAt? place).isSome = true) (hplace : fs.resolve path ≠ .ok place)
    (text : String) : fs.SameUnder (fs.withText place text) path where
  existsAt := existsAt_withText text hfile path
  read := by
    have hresolve := resolve_withText text hfile path
    rcases hother : fs.resolve path with obstacle | other
    · rw [Files.read, Files.read, hresolve, hother]
      rfl
    · have hne : other ≠ place := fun heq => hplace (by rw [hother, heq])
      rw [read_of_resolve hother, read_of_resolve (hresolve.trans hother),
        textAt?_withText_of_ne hne]
      rfl

end Files

namespace Configuration

/-! ### The sources of settings -/

/-- Where settings come from. -/
inductive Source
  /-- The file that the user asks for. -/
  | asked (path : String)
  /-- The file that the environment names. -/
  | named (path : String)
  /-- The file in the working directory. -/
  | working
  /-- No file: the settings that come with the package. -/
  | packaged
deriving DecidableEq, Repr

namespace Source

/-- The name of the file of a source, if it has one. -/
def path? : Source → Option String
  | asked path | named path => some path
  | working => some localFile
  | packaged => none

/-- The name of a file that must exist, and the variable that it stands in if it comes from
the environment. -/
def required? : Source → Option (String × Option String)
  | asked path => some (path, none)
  | named path => some (path, some pathVariable)
  | working | packaged => none

/-- What comes of a source. -/
def outcome (read : String → Outcome Value) (fs : Files) : Source → Outcome Value
  | asked path => loadNamed read fs path none
  | named path => loadNamed read fs path (some pathVariable)
  | working => loadOver read fs localFile
  | packaged => loadPackaged read

end Source

/-- A name that is not given, or empty. -/
def Unset (name : Option String) : Prop := name = none ∨ name = some ""

/-- The first source that is set. -/
inductive FirstSource (fs : Files) (asked named : Option String) : Source → Prop
  | asked {path : String} : asked = some path → path ≠ "" →
      FirstSource fs asked named (.asked path)
  | named {path : String} : Unset asked → named = some path → path ≠ "" →
      FirstSource fs asked named (.named path)
  | working : Unset asked → Unset named → fs.existsAt localFile = true →
      FirstSource fs asked named .working
  | packaged : Unset asked → Unset named → fs.existsAt localFile = false →
      FirstSource fs asked named .packaged

theorem given?_of_unset {name : Option String} (h : Unset name) : given? name = none := by
  rcases h with rfl | rfl
  · rfl
  · rfl

theorem given?_of_ne {path : String} (h : path ≠ "") : given? (some path) = some path := by
  rw [given?, Option.filter_some, if_pos (decide_eq_true h)]

theorem unset_or_set (name : Option String) :
    Unset name ∨ ∃ path, name = some path ∧ path ≠ "" := by
  rcases name with - | path
  · exact .inl (.inl rfl)
  · by_cases h : path = ""
    · exact .inl (.inr (congrArg some h))
    · exact .inr ⟨path, rfl, h⟩

section
variable {read : String → Outcome Value} {fs fs' : Files} {asked named : Option String}
  {source : Source}

theorem exists_firstSource (fs : Files) (asked named : Option String) :
    ∃ source, FirstSource fs asked named source := by
  rcases unset_or_set asked with hasked | ⟨path, hasked, hne⟩
  · rcases unset_or_set named with hnamed | ⟨path, hnamed, hne⟩
    · rcases hlocal : fs.existsAt localFile with - | -
      · exact ⟨_, .packaged hasked hnamed hlocal⟩
      · exact ⟨_, .working hasked hnamed hlocal⟩
    · exact ⟨_, .named hasked hnamed hne⟩
  · exact ⟨_, .asked hasked hne⟩

/-- The settings of a run are what comes of its first source. -/
theorem discover_eq_outcome (h : FirstSource fs asked named source) :
    discover read fs asked named = source.outcome read fs := by
  unfold discover
  cases h with
  | asked hasked hne =>
    rw [hasked, given?_of_ne hne]
    rfl
  | named hasked hnamed hne =>
    rw [given?_of_unset hasked, hnamed, given?_of_ne hne]
    rfl
  | working hasked hnamed hlocal =>
    rw [given?_of_unset hasked, given?_of_unset hnamed]
    exact if_pos hlocal
  | packaged hasked hnamed hlocal =>
    rw [given?_of_unset hasked, given?_of_unset hnamed]
    exact if_neg (Bool.eq_false_iff.1 hlocal)

/-- A name that is set is not empty. -/
theorem not_unset {name : Option String} {path : String} (hname : name = some path)
    (hne : path ≠ "") : ¬ Unset name := by
  rintro (hnone | hempty)
  · cases hname.symm.trans hnone
  · exact hne (Option.some.inj (hname.symm.trans hempty))

/-- There is one first source. -/
theorem FirstSource.unique {other : Source} (h : FirstSource fs asked named source)
    (h' : FirstSource fs asked named other) : other = source := by
  cases h with
  | asked hasked hne =>
    cases h' with
    | asked hasked' => rw [Option.some.inj (hasked.symm.trans hasked')]
    | named hunset | working hunset | packaged hunset => exact absurd hunset (not_unset hasked hne)
  | named hunset hnamed hne =>
    cases h' with
    | asked hasked hne' => exact absurd hunset (not_unset hasked hne')
    | named _ hnamed' => rw [Option.some.inj (hnamed.symm.trans hnamed')]
    | working _ hunset' | packaged _ hunset' => exact absurd hunset' (not_unset hnamed hne)
  | working hunset hunset' hlocal =>
    cases h' with
    | asked hasked hne => exact absurd hunset (not_unset hasked hne)
    | named _ hnamed hne => exact absurd hunset' (not_unset hnamed hne)
    | working => rfl
    | packaged _ _ hlocal' => cases hlocal.symm.trans hlocal'
  | packaged hunset hunset' hlocal =>
    cases h' with
    | asked hasked hne => exact absurd hunset (not_unset hasked hne)
    | named _ hnamed hne => exact absurd hunset' (not_unset hnamed hne)
    | working _ _ hlocal' => cases hlocal.symm.trans hlocal'
    | packaged => rfl

/-- Other texts in files do not make another source the first. -/
theorem FirstSource.withText {place : Place} (h : FirstSource fs asked named source)
    (hfile : (fs.textAt? place).isSome = true) (text : String) :
    FirstSource (fs.withText place text) asked named source := by
  have hexists := Files.existsAt_withText text hfile localFile
  cases h with
  | asked hasked hne => exact .asked hasked hne
  | named hasked hnamed hne => exact .named hasked hnamed hne
  | working hasked hnamed hlocal => exact .working hasked hnamed (hexists.trans hlocal)
  | packaged hasked hnamed hlocal => exact .packaged hasked hnamed (hexists.trans hlocal)

/-! ### What comes of a source -/

theorem loadOver_congr {path : String} (h : fs.SameUnder fs' path) :
    loadOver read fs' path = loadOver read fs path := by
  rw [loadOver, loadOver, load, load, h.read]

theorem loadNamed_congr {path : String} (h : fs.SameUnder fs' path) (origin : Option String) :
    loadNamed read fs' path origin = loadNamed read fs path origin := by
  rw [loadNamed, loadNamed, loadOver_congr h, h.existsAt]

/-- Of the file system only what is under the name of the source counts. -/
theorem outcome_congr (h : ∀ path, source.path? = some path → fs.SameUnder fs' path) :
    source.outcome read fs' = source.outcome read fs := by
  cases source with
  | asked path => exact loadNamed_congr (h path rfl) none
  | named path => exact loadNamed_congr (h path rfl) (some pathVariable)
  | working => exact loadOver_congr (h localFile rfl)
  | packaged => rfl

/-- A file that must exist and does not is what the run fails with. -/
theorem outcome_of_missing {path : String} {origin : Option String}
    (hrequired : source.required? = some (path, origin)) (h : fs.existsAt path = false) :
    source.outcome read fs = .error (.noConfiguration path origin) := by
  cases source with
  | asked _ | named _ =>
    cases hrequired
    exact if_neg (Bool.eq_false_iff.1 h)
  | working | packaged => cases hrequired

/-- A source with a file that exists is read. -/
theorem outcome_of_existsAt {path : String} (hpath : source.path? = some path)
    (h : fs.existsAt path = true) : source.outcome read fs = loadOver read fs path := by
  cases source with
  | asked _ | named _ =>
    cases hpath
    exact if_pos h
  | working =>
    cases hpath
    rfl
  | packaged => cases hpath

/-- The failure to find a file of settings says which. -/
theorem path_infix_message (path : String) (origin : Option String) :
    path.toList <:+: (Fault.noConfiguration path origin).message.toList := by
  rcases origin with - | origin
  · have hmessage : (Fault.noConfiguration path none).message
        = "Config file not found: " ++ path := rfl
    rw [hmessage, String.toList_append]
    exact (List.suffix_append _ _).isInfix
  · have hmessage : (Fault.noConfiguration path (some origin)).message
        = "Config file not found: " ++ path ++ " (from " ++ origin ++ ")" := rfl
    rw [hmessage, String.append_assoc, String.append_assoc, String.toList_append,
      String.toList_append]
    exact List.infix_append _ _ _

end

/-- **A run takes its settings from the first source that is set, and from nothing else.**
There is exactly one such source.  If its file must exist and does not, the run fails with a
failure that names the file; a file that exists is read, and the settings that its text spells
go on top of those that come with the package; without a file these hold as they are.  Any
other run with the same source, under whose name there is the same, has the same outcome,
whatever the two names and the rest of the file system are.  In particular it makes no
difference what another file holds.

This is so for every reader of documents that finds settings in the text in the package. -/
theorem discover_of_firstSource (read : String → Outcome Value) (packaged : Mapping)
    (hpackaged : Packages read packaged) (fs : Files) (asked named : Option String) :
    ∃ source, FirstSource fs asked named source ∧
      (∀ other, FirstSource fs asked named other → other = source) ∧
      (∀ path origin, source.required? = some (path, origin) → fs.existsAt path = false →
        ∃ f, discover read fs asked named = .error f ∧ f = .noConfiguration path origin ∧
          path.toList <:+: f.message.toList) ∧
      (∀ path, source.path? = some path → fs.existsAt path = true →
        fs.isDirectoryAt path = false →
        ∃ text, fs.read path = .ok text ∧ ∀ settings, Spells read text settings →
          discover read fs asked named = .ok (.map (merge packaged settings))) ∧
      (source.path? = none → discover read fs asked named = .ok (.map packaged)) ∧
      (∀ (fs' : Files) (asked' named' : Option String), FirstSource fs' asked' named' source →
        (∀ path, source.path? = some path → fs.SameUnder fs' path) →
        discover read fs' asked' named' = discover read fs asked named) ∧
      ∀ place text, (fs.textAt? place).isSome = true →
        (∀ path, source.path? = some path → fs.resolve path ≠ .ok place) →
        discover read (fs.withText place text) asked named = discover read fs asked named := by
  obtain ⟨source, hsource⟩ := exists_firstSource fs asked named
  have houtcome : discover read fs asked named = source.outcome read fs :=
    discover_eq_outcome hsource
  have hsame (fs' : Files) (asked' named' : Option String)
      (hsource' : FirstSource fs' asked' named' source)
      (h : ∀ path, source.path? = some path → fs.SameUnder fs' path) :
      discover read fs' asked' named' = discover read fs asked named := by
    rw [discover_eq_outcome hsource', houtcome, outcome_congr h]
  refine ⟨source, hsource, fun _ => hsource.unique, ?_, ?_, ?_, hsame, ?_⟩
  · intro path origin hrequired hmissing
    refine ⟨_, ?_, rfl, path_infix_message path origin⟩
    rw [houtcome, outcome_of_missing hrequired hmissing]
  · intro path hpath hexists hfile
    obtain ⟨text, hread⟩ := Files.exists_read_of_existsAt hexists hfile
    refine ⟨text, hread, fun settings hspells => ?_⟩
    rw [houtcome, outcome_of_existsAt hpath hexists]
    exact loadOver_of_spells hpackaged hread hspells
  · intro hpath
    cases source with
    | packaged => exact houtcome.trans hpackaged
    | asked _ | named _ | working => cases hpath
  · intro place text hfile hplace
    exact hsame _ _ _ (hsource.withText hfile text) fun path hpath =>
      Files.sameUnder_withText hfile (hplace path hpath) text

/-- The text of a file with a ceiling for the memory, and what it spells. -/
def ceilingText : String := "memory:\n  max_bytes: 1048576\n"

def ceilingSettings : Mapping :=
  [(.str "memory", .map [(.str "max_bytes", .int 1048576)])]

/-- A reader that knows this text. -/
def ceilingReader : String → Outcome Value := readerOf [(ceilingText, .map ceilingSettings)]

/-- A file system with settings in the working directory and none elsewhere. -/
def localFiles : Files := ⟨[], [], [([localFile], ceilingText)]⟩

/-- An empty name does not count, and a file that the environment names is not replaced by the
one in the working directory, which is read only if nothing else is set. -/
theorem discover_localFiles :
    Packages ceilingReader defaults ∧
    (∃ f, discover ceilingReader localFiles (some "") (some "site.yaml") = .error f ∧
      "site.yaml".toList <:+: f.message.toList) ∧
    discover ceilingReader localFiles (some "") none
      = .ok (.map (merge defaults ceilingSettings)) ∧
    ∀ text, discover ceilingReader (localFiles.withText [localFile] text) (some "")
        (some "site.yaml")
      = discover ceilingReader localFiles (some "") (some "site.yaml") := by
  have hpackaged : Packages ceilingReader defaults := packages_readerOf _
  have hnamed : FirstSource localFiles (some "") (some "site.yaml") (.named "site.yaml") :=
    .named (.inr rfl) rfl (by decide)
  have hworking : FirstSource localFiles (some "") none .working :=
    .working (.inr rfl) (.inl rfl) (by decide +kernel)
  obtain ⟨source, -, honly, hmissing, -, -, -, hother⟩ :=
    discover_of_firstSource ceilingReader defaults hpackaged localFiles (some "")
      (some "site.yaml")
  obtain ⟨source', -, honly', -, hread, -⟩ :=
    discover_of_firstSource ceilingReader defaults hpackaged localFiles (some "") none
  cases honly _ hnamed
  cases honly' _ hworking
  refine ⟨hpackaged, ?_, ?_, fun text => hother _ text (by decide +kernel) fun path hpath => ?_⟩
  · obtain ⟨f, hf, -, hnames⟩ := hmissing "site.yaml" _ rfl (by decide +kernel)
    exact ⟨f, hf, hnames⟩
  · obtain ⟨text, htext, hsettings⟩ :=
      hread localFile rfl (by decide +kernel) (by decide +kernel)
    have hlocal : localFiles.read localFile = .ok ceilingText := rfl
    cases htext.symm.trans hlocal
    exact hsettings _ (by decide +kernel)
  · cases hpath
    have hsite : localFiles.resolve "site.yaml" = .ok ["site.yaml"] := rfl
    rw [hsite]
    exact fun heq => absurd (Except.ok.inj heq) (by decide)

end Configuration

end StartupReport
