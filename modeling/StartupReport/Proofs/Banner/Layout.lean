/-
StartupReport/Proofs/Banner/Layout.lean

The order of the lines of a banner.

A banner is a sequence of parts, each of which is one line.  Which parts there are
depends on three things only: whether log lines were inherited, and how many options
and arguments there are (`Facts.layout`).  Every part but an inherited text, an
option and an argument has a label of its own, by which a reader of logs can tell
it (`Part.line?`).

Main results: `map_line?_layout`, that the lines of a banner are those of its parts in
order, and `length_layout`, how many there are.
-/
import StartupReport.Banner.Facts

namespace StartupReport.Banner

/-! ### Parts -/

/-- A part of a banner, which is one line. -/
inductive Part
  | rule
  | preconfiguration
  | inherited
  | headline
  | user
  | principal
  | runtime
  | memory
  | home
  | security
  | optionHeading
  | option (place : Nat)
  | argumentHeading
  | argument (place : Nat)
  | modulePath
deriving DecidableEq, Repr

/-- A heading that says so if nothing comes below it. -/
def heading (label : String) (count : Nat) : String :=
  if count = 0 then label ++ " (none)" else label

/-- The line of a part, if the facts have one for it. -/
def Part.line? (f : Facts) : Part → Option String
  | rule => some (String.ofList (List.replicate 80 '-'))
  | preconfiguration => some " Preconfiguration: "
  | inherited => f.inherited
  | headline =>
    some (" Starting " ++ f.component.text ++ " (Version: " ++ f.version ++ ", Python: " ++
      f.toolchain ++ ", Rev:" ++ f.revision.commitId ++ ", Date:" ++ f.revision.commitDate ++ ")")
  | user => some (" OS current user: " ++ f.user.text)
  | principal => some (" Current Kerberos user: " ++ f.principal)
  | runtime => some (" Python runtime: " ++ f.runtime)
  | memory => some (" Maximum memory size: " ++ f.memory.text ++ " MiBytes")
  | home => some (" PYTHONHOME: " ++ f.home.getD "(not set)")
  | security =>
    some (match f.security with
      | .null => " No Kerberos Dependency available"
      | version => " Kerberos (gssapi) version: " ++ version.text)
  | optionHeading => some (heading " Interpreter Options:" f.options.length)
  | option place => (f.options[place]?).map ("    " ++ ·)
  | argumentHeading => some (heading " Program Arguments:" f.arguments.length)
  | argument place => (f.arguments[place]?).map ("    " ++ ·)
  | modulePath => some (" Python path: " ++ f.modulePath)

/-- The parts of a banner in order. -/
def layout (inherited : Bool) (options arguments : Nat) : List Part :=
  (if inherited then [.rule, .preconfiguration, .inherited] else []) ++
  [.rule, .headline, .user, .principal, .runtime, .memory, .home, .security] ++
  .optionHeading :: (List.range options).map .option ++
  .argumentHeading :: (List.range arguments).map .argument ++
  [.modulePath, .rule]

/-- The parts of the banner with some facts. -/
def Facts.layout (f : Facts) : List Part :=
  Banner.layout f.inherited.isSome f.options.length f.arguments.length

theorem length_layout (inherited : Bool) (options arguments : Nat) :
    (layout inherited options arguments).length
      = 12 + (if inherited then 3 else 0) + options + arguments := by
  rcases inherited with - | -
  · simp [layout]
    omega
  · simp [layout]
    omega

/-! ### Lines -/

/-- The items of a list by their places. -/
theorem map_getElem?_range {α β : Type} (g : α → β) (l : List α) :
    (List.range l.length).map (fun i => (l[i]?).map g) = l.map fun a => some (g a) := by
  apply List.ext_getElem
  · simp
  · intro i hrange hmap
    rw [List.length_map] at hmap
    simp [hmap]

/-- A listing is its heading and a line for each item. -/
theorem map_some_listing (label : String) (items : List String) :
    (listing label items).map some
      = some (heading label items.length)
        :: (List.range items.length).map fun i => (items[i]?).map ("    " ++ ·) := by
  rw [map_getElem?_range]
  cases items with
  | nil => rfl
  | cons item items => simp [listing, heading]

theorem map_line?_preamble (f : Facts) :
    (if f.inherited.isSome then [Part.rule, .preconfiguration, .inherited] else []).map (·.line? f)
      = f.preamble.map some := by
  unfold Facts.preamble
  rcases h : f.inherited with - | text
  · rfl
  · show [some rule, some " Preconfiguration: ", f.inherited] = _
    rw [h]
    rfl

theorem line?_headline (f : Facts) : Part.headline.line? f = some f.headline := by
  have hlabel : ", " ++ "Rev:" = ", Rev:" := by decide
  show some _ = some (" Starting " ++ f.component.text ++ " (Version: " ++ f.version ++
    ", Python: " ++ f.toolchain ++ ", " ++
      ("Rev:" ++ f.revision.commitId ++ ", Date:" ++ f.revision.commitDate ++ ")"))
  rw [← hlabel]
  simp only [String.append_assoc]

theorem line?_home (f : Facts) :
    Part.home.line? f = some (s!" {homeVariable}: " ++ f.home.getD "(not set)") := by
  have hlabel : " PYTHONHOME: " = s!" {homeVariable}: " := by decide
  rw [Part.line?, hlabel]

theorem line?_security (f : Facts) : Part.security.line? f = some f.securityLine := by
  cases hsecurity : f.security <;> simp only [Part.line?, Facts.securityLine, hsecurity]

/-- The lines that every banner has before its options. -/
theorem map_line?_facts (f : Facts) :
    [Part.rule, .headline, .user, .principal, .runtime, .memory, .home, .security].map (·.line? f)
      = [rule, f.headline,
         s!" OS current user: {f.user.text}",
         s!" Current Kerberos user: {f.principal}",
         s!" Python runtime: {f.runtime}",
         s!" Maximum memory size: {f.memory.text} MiBytes",
         s!" {homeVariable}: " ++ f.home.getD "(not set)",
         f.securityLine].map some := by
  rw [List.map_cons, List.map_cons, line?_headline]
  refine congrArg (some rule :: some f.headline :: ·) ?_
  rw [List.map_cons, List.map_cons, List.map_cons, List.map_cons, List.map_cons, List.map_cons,
    line?_home, line?_security]
  rfl

theorem map_line?_options (f : Facts) :
    (Part.optionHeading :: (List.range f.options.length).map .option).map (·.line? f)
      = (listing " Interpreter Options:" f.options).map some := by
  rw [map_some_listing]
  exact congrArg (some (heading " Interpreter Options:" f.options.length) :: ·) List.map_map

theorem map_line?_arguments (f : Facts) :
    (Part.argumentHeading :: (List.range f.arguments.length).map .argument).map (·.line? f)
      = (listing " Program Arguments:" f.arguments).map some := by
  rw [map_some_listing]
  exact congrArg (some (heading " Program Arguments:" f.arguments.length) :: ·) List.map_map

/-- **The lines of a banner are those of its parts**, in their order. -/
theorem map_line?_layout (f : Facts) : f.layout.map (·.line? f) = f.lines.map some := by
  have hend : [Part.modulePath, .rule].map (·.line? f)
      = [s!" Python path: {f.modulePath}", rule].map some := rfl
  rw [Facts.layout, layout, List.map_append, List.map_append, List.map_append, List.map_append,
    map_line?_preamble, map_line?_facts, map_line?_options, map_line?_arguments, hend,
    Facts.lines, List.map_append, List.map_append, List.map_append, List.map_append]

end StartupReport.Banner
