/-
StartupReport/Proofs/Log/LevelNames.lean

The level that a name sets up.

A name in capitals may be given in any letter case (`InAnyCase`).  The letters are those of
ASCII, with two small letters beyond it whose capitals lie in ASCII; a few characters have
more than one capital.  The setup looks for what stands under the given name in capitals,
which is a name that is given in some case (`inAnyCase_iff`).

What stands there should be a level, or nothing, and then INFO holds.  But under two names
there stands something else (`TakenName`), and with one of these the setup fails.

Main result: `setsUp_iff_not_taken`, that only these two names do not set up the level that
they should.
-/
import Mathlib.Data.List.Nodup
import StartupReport.Log.Setup
import StartupReport.Text.Lowercase

namespace StartupReport.Log

open Text (upperIntoAscii upperOutsideAscii)

/-! ### Letter case -/

/-- The second character is the capital of the first, or the character itself if it has
none.  Of the small letters beyond ASCII, the dotless i and the long s have capitals in
ASCII. -/
def HasCapital (c u : Char) : Prop := c.toUpper = u ∨ (c = 'ı' ∧ u = 'I') ∨ (c = 'ſ' ∧ u = 'S')

/-- The characters with several capitals, all of them in ASCII. -/
def ligatures : List (Char × List Char) :=
  [('ß', ['S', 'S']), ('ﬀ', ['F', 'F']), ('ﬁ', ['F', 'I']), ('ﬂ', ['F', 'L']),
   ('ﬃ', ['F', 'F', 'I']), ('ﬄ', ['F', 'F', 'L']), ('ﬅ', ['S', 'T']), ('ﬆ', ['S', 'T'])]

/-- A text is a name in capitals that is written in some letter case. -/
inductive InAnyCase : List Char → List Char → Prop
  | nil : InAnyCase [] []
  | letter {c u text name} : HasCapital c u → InAnyCase text name →
      InAnyCase (c :: text) (u :: name)
  | ligature {c capitals text name} : (c, capitals) ∈ ligatures → InAnyCase text name →
      InAnyCase (c :: text) (capitals ++ name)

theorem mem_upperOutsideAscii_iff {c : Char} {capitals : List Char} :
    (c, capitals) ∈ upperOutsideAscii ↔
      (c = 'ı' ∧ capitals = ['I']) ∨ (c = 'ſ' ∧ capitals = ['S']) ∨ (c, capitals) ∈ ligatures := by
  have hperm : upperOutsideAscii.Perm (('ı', ['I']) :: ('ſ', ['S']) :: ligatures) := by decide
  rw [hperm.mem_iff]
  simp only [List.mem_cons, Prod.mk.injEq]

/-- In a table whose keys differ, a look-up finds every entry. -/
theorem lookup_eq_some_iff_mem {α β : Type} [BEq α] [LawfulBEq α] {table : List (α × β)}
    (h : (table.map Prod.fst).Nodup) {key : α} {value : β} :
    table.lookup key = some value ↔ (key, value) ∈ table := by
  induction table with
  | nil => simp
  | cons entry table ih =>
    obtain ⟨k, v⟩ := entry
    obtain ⟨hk, htable⟩ := List.nodup_cons.1 h
    by_cases hkey : key = k
    · subst hkey
      have hrest : (key, value) ∉ table := fun hmem => hk (List.mem_map.2 ⟨_, hmem, rfl⟩)
      simp [hrest, eq_comm]
    · have hne : (key == k) = false := beq_false_of_ne hkey
      simp [List.lookup_cons, hne, hkey, ih htable]

theorem upperIntoAscii_cons_of_mem {c : Char} {capitals : List Char}
    (h : (c, capitals) ∈ upperOutsideAscii) (text : List Char) :
    upperIntoAscii (c :: text) = capitals ++ upperIntoAscii text := by
  have hlookup : upperOutsideAscii.lookup c = some capitals :=
    (lookup_eq_some_iff_mem (by decide)).2 h
  rw [upperIntoAscii, List.flatMap_cons, hlookup]
  rfl

theorem upperIntoAscii_cons_of_not_mem {c : Char}
    (h : ∀ capitals, (c, capitals) ∉ upperOutsideAscii) (text : List Char) :
    upperIntoAscii (c :: text) = c.toUpper :: upperIntoAscii text := by
  have hlookup : upperOutsideAscii.lookup c = none :=
    Option.eq_none_iff_forall_not_mem.2 fun capitals hmem =>
      h capitals ((lookup_eq_some_iff_mem (by decide)).1 hmem)
  rw [upperIntoAscii, List.flatMap_cons, hlookup]
  rfl

/-- A letter of ASCII is found from all characters of which it is the capital. -/
theorem upperIntoAscii_cons_of_hasCapital {c u : Char} (h : HasCapital c u) (hu : u.toNat < 128)
    (text : List Char) : upperIntoAscii (c :: text) = u :: upperIntoAscii text := by
  rcases h with rfl | ⟨hdotless, rfl⟩ | ⟨hlong, rfl⟩
  · -- none of the characters in the table has its capital in ASCII by the rule for ASCII
    have hall : ∀ e ∈ upperOutsideAscii, ¬ e.1.toUpper.toNat < 128 := by decide
    exact upperIntoAscii_cons_of_not_mem (fun capitals hmem => hall _ hmem hu) text
  · exact upperIntoAscii_cons_of_mem (mem_upperOutsideAscii_iff.2 (.inl ⟨hdotless, rfl⟩)) text
  · exact upperIntoAscii_cons_of_mem (mem_upperOutsideAscii_iff.2 (.inr (.inl ⟨hlong, rfl⟩))) text

/-- A name of ASCII characters. -/
def InAscii (name : List Char) : Prop := ∀ u ∈ name, u.toNat < 128

instance (name : List Char) : Decidable (InAscii name) :=
  List.decidableBAll (fun u : Char => u.toNat < 128) name

/-- **A text is a name in some letter case iff it is that name in capitals.** -/
theorem inAnyCase_iff {text name : List Char} (hname : InAscii name) :
    InAnyCase text name ↔ upperIntoAscii text = name := by
  constructor
  · intro h
    induction h with
    | nil => rfl
    | letter hcapital _ ih =>
      obtain ⟨hu, hrest⟩ := List.forall_mem_cons.1 hname
      rw [upperIntoAscii_cons_of_hasCapital hcapital hu, ih hrest]
    | ligature hmem _ ih =>
      obtain ⟨-, hrest⟩ := List.forall_mem_append.1 hname
      rw [upperIntoAscii_cons_of_mem (mem_upperOutsideAscii_iff.2 (.inr (.inr hmem))), ih hrest]
  · rintro rfl
    clear hname
    induction text with
    | nil => exact .nil
    | cons c text ih =>
      by_cases hc : ∃ capitals, (c, capitals) ∈ upperOutsideAscii
      · obtain ⟨capitals, hmem⟩ := hc
        rw [upperIntoAscii_cons_of_mem hmem]
        rcases mem_upperOutsideAscii_iff.1 hmem with ⟨hdotless, rfl⟩ | ⟨hlong, rfl⟩ | hligature
        · exact .letter (.inr (.inl ⟨hdotless, rfl⟩)) ih
        · exact .letter (.inr (.inr ⟨hlong, rfl⟩)) ih
        · exact .ligature hligature ih
      · rw [upperIntoAscii_cons_of_not_mem fun capitals hmem => hc ⟨capitals, hmem⟩]
        exact .letter (.inl rfl) ih

/-- A ligature and a long s are written in capitals with letters of ASCII. -/
example : InAnyCase "_ﬆyleſ".toList "_STYLES".toList :=
  (inAnyCase_iff (by decide)).2 (by decide)

/-! ### What stands under a name -/

/-- The standard levels by their names. -/
inductive StandardName : String → Level → Prop
  | critical : StandardName "CRITICAL" 50
  | fatal : StandardName "FATAL" 50
  | error : StandardName "ERROR" 40
  | warning : StandardName "WARNING" 30
  | warn : StandardName "WARN" 30
  | info : StandardName "INFO" 20
  | debug : StandardName "DEBUG" 10
  | notset : StandardName "NOTSET" 0

/-- The names under which something stands that is no level, and how a setup with one of
them fails. -/
inductive TakenName : String → Fault → Prop
  | pattern : TakenName "BASIC_FORMAT" (.logLevelText basicPattern)
  | styles : TakenName "_STYLES" (.logLevelShape stylesText)

/-- A given text is a name in some letter case. -/
def Writes (given name : String) : Prop := InAnyCase given.toList name.toList

/-- The level that a given name should set up: the standard level of that name in any
letter case, and INFO if it is none. -/
def StandsFor (given : String) (level : Level) : Prop :=
  (∃ name, StandardName name level ∧ Writes given name) ∨
    (level = 20 ∧ ∀ name other, StandardName name other → ¬ Writes given name)

theorem standardName_iff {name : String} {level : Level} :
    StandardName name level ↔ levelNames.lookup name = some level := by
  rw [lookup_eq_some_iff_mem (by decide)]
  constructor
  · rintro ⟨⟩ <;> decide
  · intro h
    simp only [levelNames, List.mem_cons, Prod.mk.injEq, List.not_mem_nil, or_false] at h
    rcases h with ⟨rfl, rfl⟩ | ⟨rfl, rfl⟩ | ⟨rfl, rfl⟩ | ⟨rfl, rfl⟩ | ⟨rfl, rfl⟩ | ⟨rfl, rfl⟩ |
      ⟨rfl, rfl⟩ | ⟨rfl, rfl⟩
    exacts [.critical, .fatal, .error, .warning, .warn, .info, .debug, .notset]

theorem StandardName.ascii {name : String} {level : Level} (h : StandardName name level) :
    InAscii name.toList := by
  cases h <;> decide

theorem TakenName.ascii {name : String} {fault : Fault} (h : TakenName name fault) :
    InAscii name.toList := by
  cases h <;> decide

/-- The name under which the setup looks. -/
def inCapitals (given : String) : String := String.ofList (upperIntoAscii given.toList)

theorem writes_iff {given name : String} (hname : InAscii name.toList) :
    Writes given name ↔ inCapitals given = name := by
  rw [Writes, inAnyCase_iff hname, inCapitals]
  constructor
  · intro h
    rw [h, String.ofList_toList]
  · rintro rfl
    rw [String.toList_ofList]

theorem TakenName.levelOfName_eq {name : String} {fault : Fault} (h : TakenName name fault) :
    levelOfName name = .error fault := by
  cases h <;> rfl

/-- Under a name there stands a level, something else or nothing. -/
theorem levelOfName_cases (name : String) :
    (∃ level, StandardName name level ∧ levelOfName name = .ok level) ∨
      (∃ fault, TakenName name fault) ∨
      ((∀ level, ¬ StandardName name level) ∧ (∀ fault, ¬ TakenName name fault) ∧
        levelOfName name = .ok 20) := by
  rcases hlookup : levelNames.lookup name with - | level
  · by_cases htaken : ∃ fault, TakenName name fault
    · exact .inr (.inl htaken)
    · have hpattern : name ≠ "BASIC_FORMAT" := by
        rintro rfl
        exact htaken ⟨_, .pattern⟩
      have hstyles : name ≠ "_STYLES" := by
        rintro rfl
        exact htaken ⟨_, .styles⟩
      refine .inr (.inr ⟨fun level hlevel => ?_, fun fault hfault => htaken ⟨fault, hfault⟩, ?_⟩)
      · rw [standardName_iff, hlookup] at hlevel
        cases hlevel
      · rw [levelOfName, hlookup]
        exact (if_neg hpattern).trans (if_neg hstyles)
  · refine .inl ⟨level, standardName_iff.2 hlookup, ?_⟩
    rw [levelOfName, hlookup]

/-! ### Setting up -/

/-- There is no pattern among the settings of the log, or one that counts as none. -/
def NamesNoPattern (logging : Mapping) : Prop :=
  ∀ v, Value.lookup? logging (.str "format") = some v → v.isPresent = false

/-- A configuration asks for a level by a name, which is INFO if it gives none, and for no
pattern. -/
inductive AsksFor : Value → String → Prop
  | absent {es} : Value.lookup? es (.str "logging") = none → AsksFor (.map es) "INFO"
  | null {es} : Value.lookup? es (.str "logging") = some .null → AsksFor (.map es) "INFO"
  | silent {es logging} : Value.lookup? es (.str "logging") = some (.map logging) →
      NamesNoPattern logging → Value.lookup? logging (.str "level") = none → AsksFor (.map es) "INFO"
  | named {es logging given} : Value.lookup? es (.str "logging") = some (.map logging) →
      NamesNoPattern logging → Value.lookup? logging (.str "level") = some (.str given) →
      AsksFor (.map es) given

/-- A configuration sets up the level that a given name should, and the default pattern. -/
def SetsUp (config : Value) (given : String) : Prop :=
  ∃ setup, Setup.of config = .ok setup ∧ StandsFor given setup.level ∧
    setup.pattern = Configuration.defaultPattern

/-- However the section is missing, what is read from it is the name. -/
theorem exists_section_of_asksFor {config : Value} {given : String} (h : AsksFor config given) :
    ∃ logging, config.group "logging" = .ok (.map logging) ∧ NamesNoPattern logging ∧
      (Value.lookup? logging (.str "level")).getD (.str "INFO") = .str given := by
  have hempty : NamesNoPattern [] := fun v hv => nomatch hv
  have hgroup {es : Mapping} :
      (Value.map es).group "logging"
        = .ok (((Value.lookup? es (.str "logging")).getD .null).orElse (.map [])) := rfl
  have hmap (logging : Mapping) : (Value.map logging).orElse (.map []) = .map logging := by
    cases logging <;> rfl
  cases h with
  | absent hnone => exact ⟨[], by rw [hgroup, hnone]; rfl, hempty, rfl⟩
  | null hnull => exact ⟨[], by rw [hgroup, hnull]; rfl, hempty, rfl⟩
  | silent hsection hpattern hlevel =>
    exact ⟨_, by rw [hgroup, hsection, Option.getD_some, hmap], hpattern, by rw [hlevel]; rfl⟩
  | named hsection hpattern hlevel =>
    exact ⟨_, by rw [hgroup, hsection, Option.getD_some, hmap], hpattern, by rw [hlevel]; rfl⟩

theorem setup_of_asksFor {config : Value} {given : String} (h : AsksFor config given) :
    Setup.of config
      = (levelOfName (inCapitals given)).map fun level => ⟨level, Configuration.defaultPattern⟩ := by
  obtain ⟨logging, hgroup, hpattern, hlevel⟩ := exists_section_of_asksFor h
  have hdefault : ((Value.lookup? logging (.str "format")).getD .null).orElse
      (.str Configuration.defaultPattern) = .str Configuration.defaultPattern := by
    rw [Value.orElse, if_neg]
    rcases hformat : Value.lookup? logging (.str "format") with - | v
    · exact Bool.false_ne_true
    · rw [Option.getD_some, hpattern v hformat]
      exact Bool.false_ne_true
  have hfield : patternOf (.str Configuration.defaultPattern)
      = .ok Configuration.defaultPattern := by
    have hany : hasField Configuration.defaultPattern.toList = true := by decide +kernel
    rw [patternOf, if_pos hany]
  have hread : levelSetting (.map logging) = .ok (.str given) := congrArg Except.ok hlevel
  have hformat : (Value.map logging).entry "format"
      = .ok ((Value.lookup? logging (.str "format")).getD .null) := rfl
  have hof : levelOf (.str given) = levelOfName (inCapitals given) := rfl
  rw [Setup.of, hgroup]
  simp only [Outcome.ofMisuse, Except.mapError, bind, Except.bind, hread, hformat, hdefault, hfield,
    hof]
  cases levelOfName (inCapitals given) <;> rfl

/-- **What a name sets up.**  A configuration that asks for a level by a name sets up the
standard level of that name in any letter case, and INFO for a name of none, except for
two names: with one of these, again in any letter case, the setup fails. -/
theorem setsUp_iff_not_taken {config : Value} {given : String} (h : AsksFor config given) :
    (SetsUp config given ↔ ∀ name fault, TakenName name fault → ¬ Writes given name) ∧
      ∀ name fault, TakenName name fault → Writes given name →
        Setup.of config = .error fault := by
  have hsetup := setup_of_asksFor h
  have hfails : ∀ name fault, TakenName name fault → Writes given name →
      Setup.of config = .error fault := by
    intro name fault htaken hwrites
    rw [hsetup, (writes_iff htaken.ascii).1 hwrites, htaken.levelOfName_eq]
    rfl
  refine ⟨⟨?_, fun hnot => ?_⟩, hfails⟩
  · rintro ⟨setup, hok, -⟩ name fault htaken hwrites
    rw [hfails name fault htaken hwrites] at hok
    cases hok
  · rcases levelOfName_cases (inCapitals given) with
      ⟨level, hname, hlevel⟩ | ⟨fault, htaken⟩ | ⟨hnone, -, hlevel⟩
    · refine ⟨⟨level, _⟩, by rw [hsetup, hlevel]; rfl, .inl ⟨_, hname, ?_⟩, rfl⟩
      exact (writes_iff hname.ascii).2 rfl
    · exact absurd ((writes_iff htaken.ascii).2 rfl) (hnot _ fault htaken)
    · refine ⟨⟨20, _⟩, by rw [hsetup, hlevel]; rfl, .inr ⟨rfl, fun name other hname => ?_⟩, rfl⟩
      rw [writes_iff hname.ascii]
      rintro rfl
      exact hnone other hname

/-- Settings with a name for the level of the log and nothing else. -/
def levelSettings (given : String) : Value := 
  .map [(.str "logging", .map [(.str "level", .str given)])]

theorem asksFor_levelSettings (given : String) : AsksFor (levelSettings given) given :=
  .named rfl (fun _ hformat => nomatch hformat) rfl

/-- The dotless i has the same capital as the other one, so this is a name of a level. -/
theorem setsUp_dotless :
    AsksFor (levelSettings "Warnıng") "Warnıng" ∧ SetsUp (levelSettings "Warnıng") "Warnıng" ∧
      Setup.of (levelSettings "Warnıng") = .ok ⟨30, Configuration.defaultPattern⟩ := by
  have hnot : ∀ name fault, TakenName name fault → ¬ Writes "Warnıng" name := by
    intro name fault htaken
    rw [writes_iff htaken.ascii]
    cases htaken <;> decide
  have hcapitals : inCapitals "Warnıng" = "WARNING" := by decide
  refine ⟨asksFor_levelSettings _,
    (setsUp_iff_not_taken (asksFor_levelSettings "Warnıng")).1.2 hnot, ?_⟩
  rw [setup_of_asksFor (asksFor_levelSettings _), hcapitals]
  rfl

/-- The name of the pattern is no name of a level, and with it the setup fails instead of
taking INFO. -/
theorem not_setsUp_patternName :
    AsksFor (levelSettings "basic_format") "basic_format" ∧
      StandsFor "basic_format" 20 ∧
      Setup.of (levelSettings "basic_format") = .error (.logLevelText basicPattern) ∧
      ¬ SetsUp (levelSettings "basic_format") "basic_format" := by
  have hcapitals : inCapitals "basic_format" = "BASIC_FORMAT" := by decide
  have hfails : Setup.of (levelSettings "basic_format")
      = .error (.logLevelText basicPattern) := by
    rw [setup_of_asksFor (asksFor_levelSettings _), hcapitals, TakenName.pattern.levelOfName_eq]
    rfl
  have hinfo : StandsFor "basic_format" 20 := by
    refine .inr ⟨rfl, fun name other hname => ?_⟩
    rw [writes_iff hname.ascii]
    cases hname <;> decide
  refine ⟨asksFor_levelSettings _, hinfo, hfails, ?_⟩
  rintro ⟨setup, hok, -⟩
  rw [hfails] at hok
  cases hok

end StartupReport.Log
