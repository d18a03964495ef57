/-
StartupReport/Proofs/Configuration/UserFile.lean

The file of settings that a run reads.

A run reads one file at most (`userFile?`).  What the names of a file system lead to
does not depend on the texts in it, so with another text in that file a run reads
this text, and it has the settings that the text spells on top of those that come with
the package (`discover_withText`).

How texts are read is a parameter, of which two things are asked where it matters: what
it makes of the text in the package (`Packages`) and of the text in the file (`Spells`).
-/
import StartupReport.Configuration.Discover

namespace StartupReport

/-! ### Another text in a file -/

namespace Files

/-- The file system with a text in the file at a place. -/
def withText (fs : Files) (place : Place) (text : String) : Files :=
  { fs with texts := (place, text) :: fs.texts }

section
variable {fs : Files} {place : Place} (text : String)

theorem textAt?_withText_self : (fs.withText place text).textAt? place = some text := by
  rw [textAt?, withText, List.lookup_cons_self]

/-- A file that gets another text was there before. -/
theorem isSome_textAt?_withText (h : (fs.textAt? place).isSome = true) (other : Place) :
    ((fs.withText place text).textAt? other).isSome = (fs.textAt? other).isSome := by
  rw [textAt?, withText, List.lookup_cons]
  by_cases hplace : other = place
  · rw [hplace, beq_self_eq_true]
    exact h.symm
  · rw [beq_false_of_ne hplace]
    rfl

/-- The way to a place leads through directories only. -/
theorem follow_withText (h : (fs.textAt? place).isSome = true) (start : Place)
    (components : List String) :
    (fs.withText place text).follow start components = fs.follow start components := by
  induction components generalizing start with
  | nil => rfl
  | cons c cs ih =>
    rw [follow, follow, ih, ih, ih, isSome_textAt?_withText text h]
    rfl

theorem resolve_withText (h : (fs.textAt? place).isSome = true) (path : String) :
    (fs.withText place text).resolve path = fs.resolve path := by
  rw [resolve, resolve, follow_withText text h]
  rfl

theorem existsAt_withText (h : (fs.textAt? place).isSome = true) (path : String) :
    (fs.withText place text).existsAt path = fs.existsAt path := by
  rw [existsAt, existsAt, resolve_withText text h]
  rcases fs.resolve path with - | other
  · rfl
  · dsimp only
    rw [holds, isSome_textAt?_withText text h]
    rfl

/-- The file under a name that leads to a place now has the text. -/
theorem read_withText (h : (fs.textAt? place).isSome = true) {path : String}
    (hpath : fs.resolve path = .ok place) (hfile : fs.isDirectory place = false) :
    (fs.withText place text).read path = .ok text := by
  have hdirectory : (fs.withText place text).isDirectory place = false := hfile
  have hplace : ((fs.withText place text).resolve path).mapError (Obstacle.refuse path)
      = .ok place := mapError_eq_ok_iff.2 ((resolve_withText text h path).trans hpath)
  rw [read, hplace]
  simp only [bind, Except.bind, hdirectory, textAt?_withText_self]
  rfl

theorem existsAt_of_resolve {path : String} (hpath : fs.resolve path = .ok place)
    (h : (fs.textAt? place).isSome = true) : fs.existsAt path = true := by
  rw [existsAt, hpath]
  dsimp only
  rw [holds, h, Bool.or_true]

end

end Files

namespace Configuration

/-! ### The file that is read -/

/-- The name of the file that a run reads: `asked` is the file that the user asks for
and `named` the one that the environment names. -/
def userFileName? (fs : Files) (asked named : Option String) : Option String :=
  match given? asked, given? named with
  | some path, _ => some path
  | none, some path => some path
  | none, none => if fs.existsAt localFile then some localFile else none

/-- The place of the file that a run reads, if there is a file that it can read. -/
def userFile? (fs : Files) (asked named : Option String) : Option Place := do
  let name ← userFileName? fs asked named
  let place ← (fs.resolve name).toOption
  if fs.isDirectory place then none else (fs.textAt? place).map fun _ => place

/-- A reader finds settings in the text that comes with the package. -/
def Packages (read : String → Outcome Value) (packaged : Mapping) : Prop :=
  loadPackaged read = .ok (.map packaged)

/-- A text spells settings for a reader: it is a mapping, or null, zero or empty instead of
an empty one. -/
def Spells (read : String → Outcome Value) (text : String) (settings : Mapping) : Prop :=
  (document read text).toOption.map (·.orElse (.map [])) = some (.map settings)

instance (read : String → Outcome Value) (text : String) (settings : Mapping) :
    Decidable (Spells read text settings) :=
  inferInstanceAs (Decidable (Option.map _ _ = some (Value.map settings)))

section
variable {fs : Files} {asked named : Option String} {place : Place} {text : String}
  {read : String → Outcome Value} {packaged settings : Mapping}

/-- A file that a run can read is one under the name that the run has for it. -/
theorem exists_name_of_userFile? (h : userFile? fs asked named = some place) :
    ∃ name, userFileName? fs asked named = some name ∧ fs.resolve name = .ok place ∧
      fs.isDirectory place = false ∧ (fs.textAt? place).isSome = true := by
  unfold userFile? at h
  obtain ⟨name, hname, h⟩ := Option.bind_eq_some_iff.1 h
  obtain ⟨found, hfound, h⟩ := Option.bind_eq_some_iff.1 h
  rcases hresolve : fs.resolve name with e | other
  · rw [hresolve] at hfound
    cases hfound
  rw [hresolve] at hfound
  cases hfound
  by_cases hdirectory : fs.isDirectory found
  · rw [if_pos hdirectory] at h
    cases h
  · rw [if_neg hdirectory] at h
    obtain ⟨text, htext, rfl⟩ := Option.map_eq_some_iff.1 h
    exact ⟨name, hname, hresolve, by simpa using hdirectory, by rw [htext]; rfl⟩

theorem load_of_spells {path : String} (hread : fs.read path = .ok text)
    (hspells : Spells read text settings) : load read fs path = .ok (.map settings) := by
  obtain ⟨v, hv, hvalue⟩ := Option.map_eq_some_iff.1 hspells
  rcases hdocument : document read text with f | w
  · rw [hdocument] at hv
    cases hv
  · rw [hdocument] at hv
    cases hv
    rw [load, mapError_eq_ok_iff.2 hread, ← hvalue]
    show (do return (← document read text).orElse (.map []) : Outcome Value) = _
    rw [hdocument]
    rfl

theorem loadOver_of_spells {path : String} (hpackaged : Packages read packaged)
    (hread : fs.read path = .ok text) (hspells : Spells read text settings) :
    loadOver read fs path = .ok (.map (merge packaged settings)) := by
  rw [loadOver, load_of_spells hread hspells, hpackaged]
  rfl

/-- A file that exists is read in every case, whoever named it. -/
theorem discover_eq_loadOver {name : String} (hname : userFileName? fs asked named = some name)
    (hexists : fs.existsAt name = true) :
    discover read fs asked named = loadOver read fs name := by
  revert hname
  unfold userFileName? discover
  rcases given? asked with - | path
  · rcases given? named with - | path
    · intro hname
      obtain ⟨hlocal, rfl⟩ : fs.existsAt localFile = true ∧ localFile = name := by
        simpa using hname
      exact if_pos hlocal
    · rintro ⟨⟩
      exact if_pos hexists
  · rintro ⟨⟩
    exact if_pos hexists

/-- **A run has the settings that its file spells** on top of those of the package. -/
theorem discover_withText (hpackaged : Packages read packaged)
    (hplace : userFile? fs asked named = some place) (hspells : Spells read text settings) :
    discover read (fs.withText place text) asked named
      = .ok (.map (merge packaged settings)) := by
  obtain ⟨name, hname, hresolve, hfile, htext⟩ := exists_name_of_userFile? hplace
  -- the names lead where they led before, so the same file is found, with the new text in it
  have hname' : userFileName? (fs.withText place text) asked named = some name := by
    rw [userFileName?, Files.existsAt_withText text htext]
    exact hname
  have hexists : (fs.withText place text).existsAt name = true := by
    rw [Files.existsAt_withText text htext]
    exact Files.existsAt_of_resolve hresolve htext
  rw [discover_eq_loadOver hname' hexists]
  exact loadOver_of_spells hpackaged (Files.read_withText text htext hresolve hfile) hspells

end

/-! ### A reader of known texts -/

/-- A reader that knows what the text in the package spells, and what some others do. -/
def readerOf (known : List (String × Value)) (text : String) : Outcome Value :=
  match ((packagedText, Value.map defaults) :: known).lookup text with
  | some v => .ok v
  | none => .error (.external "YAMLError" .other "")

theorem packages_readerOf (known : List (String × Value)) : Packages (readerOf known) defaults := by
  rw [Packages, loadPackaged, readerOf, List.lookup_cons_self]

end Configuration

end StartupReport
