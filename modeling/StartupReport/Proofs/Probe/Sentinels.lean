/-
StartupReport/Proofs/Probe/Sentinels.lean

What the runtime queries answer on a host that refuses them.

A `Query` asks for one fact about the runtime.  What it is after is composed of
answers of the host (`Query.sought?`), and where that cannot be composed a value
of its own stands for it (`Query.sentinel?`).  A host `FailsOrdinarily` if none of
its refusals is an interrupt or a request to leave; there every query with a
handler answers.  Not all of them have one: `Query.LetsThrough` lists what passes,
a refusal to name the temporary directory or the operating system, and a module
path that is no sequence of texts.

`outcome_absorb` and `outcome_probe` say what a handler and a probe come to when
only ordinary failures occur, and each query has an equation of its own.

Main result: `outcome_ask_iff`, with `openFileLimit_fails` for a host on which the
limit of open files fails.
-/
import StartupReport.Probe.Identity
import StartupReport.Proofs.BareHost

namespace StartupReport

/-! ### Ordinary failures -/

/-- An outcome that is no failure but one that handlers take. -/
def Ordinary {α : Type} (o : Outcome α) : Prop := ∀ f, o = .error f → f.isOrdinary = true

namespace Ordinary

variable {α β : Type}

theorem ok (a : α) : Ordinary (.ok a) := fun _ h => nomatch h

theorem error {f : Fault} (hf : f.isOrdinary = true) : Ordinary (.error f : Outcome α) := by
  intro g hg
  cases hg
  exact hf

theorem bind {o : Outcome α} {g : α → Outcome β} (ho : Ordinary o)
    (hg : ∀ a, o = .ok a → Ordinary (g a)) : Ordinary (o >>= g) := by
  rcases h : o with f | a
  · exact error (ho f h)
  · exact hg a h

/-- A wrong shape is no reason to stop. -/
theorem ofMisuse (r : Except Misuse α) : Ordinary (Outcome.ofMisuse r) := by
  rcases r with m | a
  · cases m <;> exact error rfl
  · exact ok a

end Ordinary

/-- Whatever a host refuses, it refuses with an ordinary failure. -/
structure Host.FailsOrdinarily (h : Host) : Prop where
  system : Ordinary h.platform.system
  implementation : Ordinary h.platform.implementation
  compiler : Ordinary h.platform.compiler
  version : Ordinary h.platform.version
  user : Ordinary h.user
  temporaryDirectory : Ordinary h.temporaryDirectory
  limits : Ordinary h.limits
  openFiles : ∀ m answer, h.limits = .ok m → m.openFiles = some answer → Ordinary answer
  security : Ordinary h.security
  credentials : ∀ m answer, h.security = .ok m → m.credentials = some answer → Ordinary answer
  principal : ∀ m c, h.security = .ok m → m.credentials = some (.ok c) → Ordinary c.name
  securityErrors : ∀ name, Ordinary (h.securityErrors name)
  distribution : ∀ name, Ordinary (h.distribution name)

namespace Probe

/-! ### Handlers and probes -/

section
variable {α β μ : Type}

theorem outcome_absorb {x : Traced α} (hx : Ordinary x.outcome) (good : α → Traced β)
    (bad : Fault → β) :
    (absorb x good bad).outcome = match x.outcome with
      | .ok a => (good a).outcome
      | .error f => .ok (bad f) := by
  rcases h : x.outcome with f | a
  · simp [absorb, Traced.attempt, Traced.bind_def, Traced.bind, h, hx f h]
  · simp [absorb, Traced.attempt, Traced.bind_def, Traced.bind, h]

/-- What comes of a probe, by the outcomes of loading and of the accessor. -/
def probed (module : String) (loading : Outcome μ) (access : μ → Outcome α) : Probed α :=
  match loading with
  | .error f => ofLoadFailure module f
  | .ok m =>
    match access m with
    | .ok a => .available a
    | .error f => ofAccessFailure f

theorem outcome_probe (module : String) {loading : Outcome μ} {accessor : μ → Traced α}
    (hloading : Ordinary loading)
    (haccess : ∀ m, loading = .ok m → Ordinary (accessor m).outcome) :
    (probe module loading accessor).outcome
      = .ok (probed module loading fun m => (accessor m).outcome) := by
  unfold probe probed
  rw [outcome_absorb hloading]
  rcases h : loading with f | m
  · rfl
  · simp only [Traced.outcome_ask]
    rw [outcome_absorb (haccess m h)]
    rcases (accessor m).outcome with f | a
    · rfl
    · rfl

/-- A failure to load says that the module itself is not there. -/
def isMissing (module : String) (f : Fault) : Bool :=
  match f.family with
  | .moduleMissing name => isSelfOrPackage name.toList module.toList
  | _ => false

theorem ofLoadFailure_of_isMissing {module : String} {f : Fault} (h : isMissing module f = true) :
    (ofLoadFailure module f : Probed α) = .missing f := by
  unfold isMissing at h
  unfold ofLoadFailure
  split at h
  · next hname => simp only [hname, h, if_true]
  · cases h

theorem ofLoadFailure_of_not_isMissing {module : String} {f : Fault}
    (h : isMissing module f = false) :
    (ofLoadFailure module f : Probed α) = .incompatible f ∨
    (ofLoadFailure module f : Probed α) = .failed f := by
  unfold isMissing at h
  unfold ofLoadFailure
  split
  · next hname =>
    simp only [hname] at h
    simp [h]
  · exact .inl rfl
  · exact .inr rfl

theorem ofAccessFailure_cases (f : Fault) :
    (ofAccessFailure f : Probed α) = .incompatible f ∨
    (ofAccessFailure f : Probed α) = .failed f := by
  unfold ofAccessFailure
  split
  · exact .inl rfl
  · exact .inr rfl

theorem probed_of_load_error (module : String) (f : Fault) (access : μ → Outcome α) :
    probed module (.error f) access = ofLoadFailure module f := rfl

theorem probed_of_access_error (module : String) (access : μ → Outcome α) {m : μ} {f : Fault}
    (h : access m = .error f) : probed module (.ok m) access = ofAccessFailure f := by
  simp only [probed, h]

theorem probed_of_access_ok (module : String) (access : μ → Outcome α) {m : μ} {a : α}
    (h : access m = .ok a) : probed module (.ok m) access = .available a := by
  simp only [probed, h]

/-- A probe has a value if both steps gave one. -/
theorem value?_probed (module : String) (loading : Outcome μ) (access : μ → Outcome α) :
    (probed module loading access).value? = (loading >>= access).toOption := by
  rcases loading with f | m
  · rw [probed_of_load_error]
    show (ofLoadFailure module f : Probed α).value? = none
    rcases h : isMissing module f with - | -
    · obtain hp | hp := ofLoadFailure_of_not_isMissing (α := α) h
      · rw [hp]
        rfl
      · rw [hp]
        rfl
    · rw [ofLoadFailure_of_isMissing h]
      rfl
  · show (probed module (.ok m) access).value? = (access m).toOption
    rcases h : access m with f | a
    · rw [probed_of_access_error module access h]
      obtain hp | hp := ofAccessFailure_cases (α := α) f
      · rw [hp]
        rfl
      · rw [hp]
        rfl
    · rw [probed_of_access_ok module access h]
      rfl

end

/-! ### Queries -/

/-- The facts that can be asked for about the runtime. -/
inductive Query
  | runtimeVersion
  | startupOptionLine
  | startupOptionList
  | temporaryDirectory
  | openFileLimit
  | securityUser
  | securityVersion
  | osUser
  | modulePath
deriving DecidableEq, Repr

/-- The text that a value is. -/
def text? : Value → Option String
  | .str s => some s
  | _ => none

namespace Query

/-- Asks a host. -/
def ask (h : Host) : Query → Traced Value
  | runtimeVersion => .str <$> Probe.runtimeVersion h
  | startupOptionLine => pure (.str (Probe.startupOptionLine h.interpreter))
  | startupOptionList => pure (.list ((Probe.startupOptionList h.interpreter).map .str))
  | temporaryDirectory => Traced.ask h.temporaryDirectory
  | openFileLimit => .int <$> Probe.openFileLimit h
  | securityUser => .str <$> Probe.securityUser h
  | securityVersion => Probe.securityVersion h
  | osUser => Probe.osUser h
  | modulePath => .str <$> Traced.ask (Probe.modulePath h.interpreter)

/-- What a query is after, if the host answers all that it takes. -/
def sought? (h : Host) : Query → Option Value
  | runtimeVersion => do
    let implementation ← h.platform.implementation.toOption
    let compiler ← h.platform.compiler.toOption
    let version ← h.platform.version.toOption
    return .str (implementation.text ++ " - " ++ compiler.text ++ " - " ++
      languageVersion h.interpreter ++ "/" ++ version.text)
  | startupOptionLine => do
    let options ← startupOptions? h.interpreter
    let line ← built? h.interpreter (" ".intercalate options)
    return .str line
  | startupOptionList => do
    let options ← startupOptions? h.interpreter
    return .list (options.map .str)
  | temporaryDirectory => h.temporaryDirectory.toOption
  | openFileLimit => do
    let windows ← (isWindows h).toOption
    if windows then none
    else
      let m ← h.limits.toOption
      let limit ← (LimitModule.inForce m "RLIMIT_NOFILE" m.openFiles).toOption
      limit.map .int
  | securityUser => do
    let m ← h.security.toOption
    let _ ← (h.securityErrors (m.name ++ ".exceptions")).toOption
    let credentials ← (askCredentials m).toOption
    let name ← credentials.name.toOption
    return .str (String.ofList (shortName name.text.toList))
  | securityVersion => do
    let m ← h.security.toOption
    (h.distribution m.name).toOption
  | osUser => h.user.toOption
  | modulePath => do
    let items ← h.interpreter.modulePath.items.toOption
    let texts ← items.mapM text?
    return .str (":".intercalate texts)

/-- What stands for a fact that cannot be found out. -/
def sentinel? (h : Host) : Query → Option Value
  | runtimeVersion | osUser => some (.str Build.unknown)
  | startupOptionLine => some (.str "")
  | startupOptionList => some (.list [])
  | openFileLimit => some (.int (-1))
  | securityUser =>
    match h.security with
    | .error f =>
      some (.str (if isMissing securityModuleName f then noSecurityModule else Build.unknown))
    | .ok _ => some (.str Build.unknown)
  | securityVersion => some .null
  | temporaryDirectory | modulePath => none

/-- The failures that no handler stands before. -/
inductive LetsThrough (h : Host) : Query → Fault → Prop
  | directory {f : Fault} (hf : h.temporaryDirectory = .error f) :
      LetsThrough h temporaryDirectory f
  | system {f : Fault} (hf : h.platform.system = .error f) : LetsThrough h openFileLimit f
  /-- The module path is no sequence. -/
  | path {cause : Misuse} (hitems : h.interpreter.modulePath.items = .error cause) :
      LetsThrough h modulePath (.misuse (.join h.interpreter.modulePath.shape))
  /-- The module path holds something else than a text. -/
  | pathItem {texts : List String} {v : Value} {rest : List Value}
      (hitems : h.interpreter.modulePath.items = .ok (texts.map .str ++ v :: rest))
      (hv : ∀ s, v ≠ .str s) :
      LetsThrough h modulePath (.misuse (.element texts.length v.shape))

end Query

/-! ### What each query answers -/

section
variable {h : Host}

theorem ordinary_member {α : Type} (m : LimitModule) (name : String) (member : Option α) :
    Ordinary (LimitModule.member m name member) := by
  rcases member with - | a
  · exact .error rfl
  · exact .ok a

theorem ordinary_firstOfPair (v : Value) : Ordinary (firstOfPair v) := by
  refine .bind (.ofMisuse _) fun items _ => ?_
  split
  · exact .ok _
  · exact .error rfl
  · exact .error rfl
  · exact .error rfl

theorem ordinary_wholeNumber (v : Value) : Ordinary (wholeNumber v) := by
  unfold wholeNumber
  split
  · exact .ok _
  · split
    · exact .ok _
    · exact .error rfl
  · exact .error rfl

/-- Of the steps to a limit only the answer of the host can be more than an
ordinary failure. -/
theorem ordinary_inForce (m : LimitModule) (name : String) {limit : Option (Outcome Value)}
    (hlimit : ∀ answer, limit = some answer → Ordinary answer) :
    Ordinary (LimitModule.inForce m name limit) := by
  have hanswer (answer : Outcome Value) (ha : LimitModule.member m name limit = .ok answer) :
      Ordinary answer := by
    rcases limit with - | answer'
    · cases ha
    · cases ha
      exact hlimit answer rfl
  have hsoft (soft : Value) : Ordinary (do
      let infinity ← LimitModule.member m "RLIM_INFINITY" m.infinity
      if soft.equal infinity then return none
      return some (← wholeNumber soft) : Outcome (Option Int)) := by
    refine .bind (ordinary_member m _ _) fun infinity _ => ?_
    split
    · exact .ok none
    · exact .bind (ordinary_wholeNumber soft) fun n _ => .ok (some n)
  unfold LimitModule.inForce
  split
  · exact .error rfl
  · exact .bind (ordinary_member m _ _) fun answer ha =>
      .bind (hanswer answer ha) fun pair _ =>
        .bind (ordinary_firstOfPair pair) fun soft _ => hsoft soft

theorem ask_runtimeVersion (hh : h.FailsOrdinarily) :
    (Query.runtimeVersion.ask h).outcome
      = .ok ((Query.runtimeVersion.sought? h).getD (.str Build.unknown)) := by
  unfold Query.ask runtimeVersion
  rw [Traced.outcome_map, outcome_absorb]
  · simp only [Traced.outcome_bind, Traced.outcome_ask, Query.sought?]
    rcases h.platform.implementation with f | implementation
    · rfl
    rcases h.platform.compiler with f | compiler
    · rfl
    rcases h.platform.version with f | version
    · rfl
    · rfl
  · simp only [Traced.outcome_bind, Traced.outcome_ask]
    exact .bind hh.implementation fun _ _ => .bind hh.compiler fun _ _ =>
      .bind hh.version fun _ _ => .ok _

theorem ask_startupOptionLine (h : Host) :
    (Query.startupOptionLine.ask h).outcome
      = .ok ((Query.startupOptionLine.sought? h).getD (.str "")) := by
  show Except.ok (Value.str (startupOptionLine h.interpreter)) = _
  simp only [Query.sought?, startupOptionLine]
  rcases startupOptions? h.interpreter with - | options
  · rfl
  · show Except.ok (Value.str ((built? h.interpreter (" ".intercalate options)).getD "")) = _
    rcases hline : built? h.interpreter (" ".intercalate options) with - | line
    · simp [hline]
    · simp [hline]

theorem ask_startupOptionList (h : Host) :
    (Query.startupOptionList.ask h).outcome
      = .ok ((Query.startupOptionList.sought? h).getD (.list [])) := by
  show Except.ok (Value.list ((startupOptionList h.interpreter).map .str)) = _
  rcases ho : startupOptions? h.interpreter with - | options
  · simp [Query.sought?, startupOptionList, ho]
  · simp [Query.sought?, startupOptionList, ho]

theorem ask_openFileLimit (hh : h.FailsOrdinarily) {system : Value}
    (hsystem : h.platform.system = .ok system) :
    (Query.openFileLimit.ask h).outcome
      = .ok ((Query.openFileLimit.sought? h).getD (.int (-1))) := by
  have hwindows : isWindows h = .ok (system.equal (.str "Windows")) := by
    rw [isWindows, hsystem]
    rfl
  simp only [Query.ask, Traced.outcome_map]
  rw [openFileLimit, Traced.outcome_bind_ok hwindows]
  rcases hw : system.equal (.str "Windows") with - | -
  · have haccess (m : LimitModule) (hm : h.limits = .ok m) :
        Ordinary (Traced.ask (LimitModule.inForce m "RLIMIT_NOFILE" m.openFiles)).outcome :=
      ordinary_inForce m _ fun answer ha => hh.openFiles m answer hm ha
    simp only [Bool.false_eq_true, if_false]
    rw [Traced.outcome_bind_ok (outcome_probe _ hh.limits haccess)]
    simp only [Traced.outcome_ask]
    have hsought : Query.openFileLimit.sought? h
        = (probed limitModuleName h.limits fun m =>
            LimitModule.inForce m "RLIMIT_NOFILE" m.openFiles).value? >>= (·.map .int) := by
      rw [value?_probed, Outcome.toOption_bind, bind_assoc]
      simp only [Query.sought?, hwindows, hw]
      rfl
    rw [hsought]
    rcases probed limitModuleName h.limits fun m =>
      LimitModule.inForce m "RLIMIT_NOFILE" m.openFiles with (- | n) | f | f | f
    · rfl
    · rfl
    · rfl
    · rfl
    · rfl
  · simp only [Query.sought?, hwindows, hw]
    rfl

theorem ordinary_askCredentials (hh : h.FailsOrdinarily) {m : SecurityModule}
    (hm : h.security = .ok m) : Ordinary (askCredentials m) := by
  unfold askCredentials
  split
  · next answer ha => exact hh.credentials m answer hm ha
  · exact .error rfl

/-- Credentials that are given are those of the module. -/
theorem credentials_of_askCredentials {m : SecurityModule} {c : Credentials}
    (hc : askCredentials m = .ok c) : m.credentials = some (.ok c) := by
  unfold askCredentials at hc
  split at hc
  · next answer hanswer => rw [hanswer, hc]
  · cases hc

/-- The short name of a principal: there is none unless it can be had, and no more
than an ordinary failure in its place. -/
theorem principalName_spec (hh : h.FailsOrdinarily) {m : SecurityModule}
    (hm : h.security = .ok m) :
    Ordinary (principalName h m).outcome ∧
    (principalName h m).outcome.toOption.join = (do
      let _ ← (h.securityErrors (m.name ++ ".exceptions")).toOption
      let credentials ← (askCredentials m).toOption
      let name ← credentials.name.toOption
      return String.ofList (shortName name.text.toList)) := by
  have hcredentials := ordinary_askCredentials hh hm
  unfold principalName
  rcases he : h.securityErrors (m.name ++ ".exceptions") with f | errors
  · exact ⟨.error (hh.securityErrors _ f he), rfl⟩
  rw [Traced.outcome_bind_ok (Traced.outcome_ask _)]
  rcases ha : askCredentials m with f | ⟨f | name⟩
  · simp only
    split
    · exact ⟨.error rfl, rfl⟩
    · split
      · exact ⟨.ok none, rfl⟩
      · exact ⟨.error (hcredentials f ha), rfl⟩
  · exact ⟨.error (hh.principal m _ hm (credentials_of_askCredentials ha) f rfl), rfl⟩
  · exact ⟨.ok _, rfl⟩

theorem outcome_securityUser_of_error {f : Fault} (hs : h.security = .error f)
    (hf : f.isOrdinary = true) :
    (securityUser h).outcome
      = .ok (if isMissing securityModuleName f then noSecurityModule else Build.unknown) := by
  rw [securityUser, hs, Traced.outcome_bind_ok (outcome_probe _ (.error hf) fun _ hm => nomatch hm),
    probed_of_load_error]
  rcases hmissing : isMissing securityModuleName f with - | -
  · obtain hp | hp := ofLoadFailure_of_not_isMissing hmissing
    · rw [hp]
      rfl
    · rw [hp]
      rfl
  · rw [ofLoadFailure_of_isMissing hmissing]
    rfl

theorem outcome_securityUser_of_ok (hh : h.FailsOrdinarily) {m : SecurityModule}
    (hs : h.security = .ok m) :
    (securityUser h).outcome
      = .ok ((principalName h m).outcome.toOption.join.getD Build.unknown) := by
  have hordinary : Ordinary (principalName h m).outcome := (principalName_spec hh hs).1
  have haccess (m' : SecurityModule) (hm : (.ok m : Outcome SecurityModule) = .ok m') :
      Ordinary (principalName h m').outcome := by
    cases hm
    exact hordinary
  rw [securityUser, hs, Traced.outcome_bind_ok (outcome_probe _ (.ok m) haccess)]
  rcases ho : (principalName h m).outcome with f | (- | name)
  · rw [probed_of_access_error securityModuleName (fun m => (principalName h m).outcome) ho]
    obtain hp | hp := ofAccessFailure_cases f
    · rw [hp]
      rfl
    · rw [hp]
      rfl
  · rw [probed_of_access_ok securityModuleName (fun m => (principalName h m).outcome) ho]
    rfl
  · rw [probed_of_access_ok securityModuleName (fun m => (principalName h m).outcome) ho]
    rfl

theorem ask_securityUser (hh : h.FailsOrdinarily) :
    ∃ s, Query.securityUser.sentinel? h = some s ∧
      (Query.securityUser.ask h).outcome = .ok ((Query.securityUser.sought? h).getD s) := by
  rcases hs : h.security with f | m
  · simp only [Query.ask, Query.sentinel?, Query.sought?, Traced.outcome_map, hs,
      outcome_securityUser_of_error hs (hh.security f hs)]
    exact ⟨_, rfl, rfl⟩
  · have hsought : Query.securityUser.sought? h
        = (principalName h m).outcome.toOption.join.map .str := by
      rw [(principalName_spec hh hs).2, Query.sought?, hs, ← Option.map_eq_map]
      simp only [map_bind, map_pure]
      rfl
    refine ⟨.str Build.unknown, by simp only [Query.sentinel?, hs], ?_⟩
    rw [Query.ask, Traced.outcome_map, outcome_securityUser_of_ok hh hs, hsought]
    rcases (principalName h m).outcome.toOption.join with - | name
    · rfl
    · rfl

theorem ask_securityVersion (hh : h.FailsOrdinarily) :
    (Query.securityVersion.ask h).outcome
      = .ok ((Query.securityVersion.sought? h).getD .null) := by
  have haccess (m : SecurityModule) (_ : h.security = .ok m) :
      Ordinary (Traced.ask (h.distribution m.name)).outcome := hh.distribution m.name
  have hvalue := value?_probed securityModuleName h.security fun m =>
    (Traced.ask (h.distribution m.name)).outcome
  unfold Query.ask securityVersion
  rw [Traced.outcome_bind_ok (outcome_probe _ hh.security haccess), Query.sought?]
  simp only [Traced.outcome_ask, Outcome.toOption_bind] at hvalue ⊢
  rw [← hvalue]
  rcases probed securityModuleName h.security fun m => h.distribution m.name with v | f | f | f
  · rfl
  · rfl
  · rfl
  · rfl

theorem ask_osUser (hh : h.FailsOrdinarily) :
    (Query.osUser.ask h).outcome
      = .ok ((Query.osUser.sought? h).getD (.str Build.unknown)) := by
  unfold Query.ask osUser
  rw [Traced.outcome_bind_ok rfl, Traced.outcome_ask, Query.sought?]
  rcases hu : h.user with f | user
  · simp only [hh.user f hu, if_true]
    rfl
  · rfl

/-- Texts cannot be put together because of the first item that is none. -/
theorem itemTexts_eq_error_iff {place : Nat} {vs : List Value} {cause : Misuse} :
    itemTexts place vs = .error cause ↔
      ∃ (texts : List String) (v : Value) (rest : List Value),
        vs = texts.map .str ++ v :: rest ∧ (∀ s, v ≠ .str s) ∧
          cause = .element (place + texts.length) v.shape := by
  induction vs generalizing place with
  | nil => simp [itemTexts]
  | cons v vs ih =>
    by_cases hv : ∃ s, v = .str s
    · obtain ⟨s, rfl⟩ := hv
      have hcons : itemTexts place (.str s :: vs) = .error cause
          ↔ itemTexts (place + 1) vs = .error cause := by
        rw [itemTexts]
        rcases itemTexts (place + 1) vs with e | ts <;> simp [Except.map]
      rw [hcons, ih]
      constructor
      · rintro ⟨texts, w, rest, rfl, hw, rfl⟩
        exact ⟨s :: texts, w, rest, rfl, hw, by simp; omega⟩
      · rintro ⟨texts, w, rest, hvs, hw, rfl⟩
        rcases texts with - | ⟨s', texts⟩
        · exact absurd (List.cons.inj hvs).1.symm (hw s)
        · exact ⟨texts, w, rest, (List.cons.inj hvs).2, hw, by simp; omega⟩
    · have hne : ∀ s, v ≠ .str s := fun s hs => hv ⟨s, hs⟩
      have herror : itemTexts place (v :: vs) = .error (.element place v.shape) := by
        cases v with
        | str s => exact absurd rfl (hne s)
        | _ => rfl
      rw [herror]
      constructor
      · intro h
        exact ⟨[], v, vs, rfl, hne, by simpa using h.symm⟩
      · rintro ⟨texts, w, rest, hvs, hw, rfl⟩
        rcases texts with - | ⟨s', texts⟩
        · rw [(List.cons.inj hvs).1]
          rfl
        · exact absurd (List.cons.inj hvs).1 (hne s')

theorem modulePath_of_items_error {i : Interpreter} {cause : Misuse}
    (hitems : i.modulePath.items = .error cause) :
    modulePath i = .error (.misuse (.join i.modulePath.shape)) := by
  simp only [modulePath, hitems]
  rfl

theorem modulePath_of_items {i : Interpreter} {vs : List Value}
    (hitems : i.modulePath.items = .ok vs) :
    modulePath i = Outcome.ofMisuse ((itemTexts 0 vs).map (":".intercalate ·)) := by
  simp only [modulePath, hitems]
  rfl

theorem modulePath_eq_error_iff {f : Fault} :
    modulePath h.interpreter = .error f ↔ Query.modulePath.LetsThrough h f := by
  rcases hitems : h.interpreter.modulePath.items with cause | vs
  · rw [modulePath_of_items_error hitems]
    constructor
    · intro hf
      cases hf
      exact .path hitems
    · intro hf
      cases hf with
      | path _ => rfl
      | pathItem hvs _ => cases hitems.symm.trans hvs
  · have hcause (cause : Misuse) (htexts : itemTexts 0 vs = .error cause) :
        Query.modulePath.LetsThrough h (.misuse cause) := by
      obtain ⟨texts, v, rest, rfl, hv, rfl⟩ := itemTexts_eq_error_iff.1 htexts
      rw [Nat.zero_add]
      exact .pathItem hitems hv
    rw [modulePath_of_items hitems]
    constructor
    · intro hf
      rcases htexts : itemTexts 0 vs with cause | texts
      · rw [htexts] at hf
        cases hf
        exact hcause cause htexts
      · rw [htexts] at hf
        cases hf
    · intro hf
      cases hf with
      | path hnone => cases hitems.symm.trans hnone
      | @pathItem texts v rest hvs hv =>
        cases hitems.symm.trans hvs
        rw [itemTexts_eq_error_iff.2 ⟨texts, v, rest, rfl, hv, rfl⟩, Nat.zero_add]
        rfl

theorem toOption_itemTexts (place : Nat) (vs : List Value) :
    (itemTexts place vs).toOption = vs.mapM text? := by
  induction vs generalizing place with
  | nil => rfl
  | cons v vs ih =>
    cases v with
    | str s =>
      rw [List.mapM_cons, ← ih (place + 1), itemTexts]
      rcases itemTexts (place + 1) vs with e | texts
      · rfl
      · rfl
    | _ => rfl

theorem sought?_modulePath (h : Host) :
    Query.modulePath.sought? h = (modulePath h.interpreter).toOption.map .str := by
  rw [Query.sought?]
  rcases hitems : h.interpreter.modulePath.items with cause | vs
  · rw [modulePath_of_items_error hitems]
    rfl
  · rw [modulePath_of_items hitems]
    show (vs.mapM text? >>= fun texts => some (Value.str (":".intercalate texts))) = _
    rw [← toOption_itemTexts 0 vs]
    rcases itemTexts 0 vs with cause | texts
    · rfl
    · rfl

theorem ask_modulePath (h : Host) :
    (Query.modulePath.ask h).outcome = (modulePath h.interpreter).map .str :=
  Traced.outcome_map _ _

theorem ask_openFileLimit_of_error {f : Fault} (hsystem : h.platform.system = .error f) :
    (Query.openFileLimit.ask h).outcome = .error f := by
  have hwindows : isWindows h = .error f := by
    rw [isWindows, hsystem]
    rfl
  rw [Query.ask, Traced.outcome_map, openFileLimit, Traced.outcome_bind_error hwindows]
  rfl

end

/-! ### All queries -/

section
variable {h : Host} {q : Query}

/-- A query that always answers lets nothing through. -/
theorem outcome_of_guarded {s : Value} (hs : q.sentinel? h = some s)
    (hthrough : ∀ f, ¬ q.LetsThrough h f)
    (hq : (q.ask h).outcome = .ok ((q.sought? h).getD s)) :
    (∀ f, (q.ask h).outcome = .error f ↔ q.LetsThrough h f) ∧
    ∀ a, (q.ask h).outcome = .ok a →
      q.sought? h = some a ∨ q.sought? h = none ∧ q.sentinel? h = some a := by
  rw [hq, hs]
  constructor
  · intro f
    exact iff_of_false nofun (hthrough f)
  · intro a ha
    rcases hsought : q.sought? h with - | b
    · rw [hsought] at ha
      exact .inr ⟨rfl, congrArg some (Except.ok.inj ha)⟩
    · rw [hsought] at ha
      exact .inl (congrArg some (Except.ok.inj ha))

/-- A query without a handler answers with what it is after and with nothing else. -/
theorem outcome_of_unguarded (hsought : q.sought? h = (q.ask h).outcome.toOption)
    (hthrough : ∀ f, (q.ask h).outcome = .error f ↔ q.LetsThrough h f) :
    (∀ f, (q.ask h).outcome = .error f ↔ q.LetsThrough h f) ∧
    ∀ a, (q.ask h).outcome = .ok a →
      q.sought? h = some a ∨ q.sought? h = none ∧ q.sentinel? h = some a := by
  refine ⟨hthrough, fun a ha => .inl ?_⟩
  rw [hsought, ha]
  rfl

end

/-- **Which queries fail.**  On a host that refuses nothing but ordinarily, a query
fails with exactly the failures that no handler stands before.  A query that
answers does so with what it is after, and with its sentinel if that cannot be
had. -/
theorem outcome_ask_iff (h : Host) (hordinary : h.FailsOrdinarily) (q : Query) :
    (∀ f, (q.ask h).outcome = .error f ↔ q.LetsThrough h f) ∧
    ∀ a, (q.ask h).outcome = .ok a →
      q.sought? h = some a ∨ q.sought? h = none ∧ q.sentinel? h = some a := by
  cases q with
  | runtimeVersion => exact outcome_of_guarded rfl nofun (ask_runtimeVersion hordinary)
  | startupOptionLine => exact outcome_of_guarded rfl nofun (ask_startupOptionLine h)
  | startupOptionList => exact outcome_of_guarded rfl nofun (ask_startupOptionList h)
  | temporaryDirectory =>
    refine outcome_of_unguarded rfl fun f => ⟨.directory, fun hf => ?_⟩
    cases hf with
    | directory hf => exact hf
  | openFileLimit =>
    rcases hsystem : h.platform.system with f | system
    · -- the question is put before any handler
      have hask := ask_openFileLimit_of_error hsystem
      constructor
      · intro g
        rw [hask]
        constructor
        · intro hg
          cases hg
          exact .system hsystem
        · intro hg
          cases hg with
          | system hg => exact hsystem.symm.trans hg
      · intro a ha
        cases hask.symm.trans ha
    · refine outcome_of_guarded rfl ?_ (ask_openFileLimit hordinary hsystem)
      intro f hf
      cases hf with
      | system hf => cases hsystem.symm.trans hf
  | securityUser =>
    obtain ⟨s, hs, hq⟩ := ask_securityUser hordinary
    exact outcome_of_guarded hs nofun hq
  | securityVersion => exact outcome_of_guarded rfl nofun (ask_securityVersion hordinary)
  | osUser => exact outcome_of_guarded rfl nofun (ask_osUser hordinary)
  | modulePath =>
    have hask := ask_modulePath h
    apply outcome_of_unguarded
    · rw [hask, sought?_modulePath]
      rcases modulePath h.interpreter with f | path
      · rfl
      · rfl
    · intro f
      rw [← modulePath_eq_error_iff, hask]
      rcases modulePath h.interpreter with g | path
      · simp [Except.map]
      · simp [Except.map]

/-- The operating system does not say what it is, and the module path holds a
number. -/
def reticentHost : Host :=
  { bareHost with
    platform := { bareHost.platform with system := .error (.external "OSError" .system "uname") }
    interpreter := { bareHost.interpreter with modulePath := .list [.str "/a", .int 5] } }

theorem reticentHost_failsOrdinarily : reticentHost.FailsOrdinarily where
  system := .error rfl
  implementation := .ok _
  compiler := .ok _
  version := .ok _
  user := .ok _
  temporaryDirectory := .ok _
  limits := .error rfl
  openFiles _ _ hm := nomatch hm
  security := .error rfl
  credentials _ _ hm := nomatch hm
  principal _ _ hm := nomatch hm
  securityErrors _ := .error rfl
  distribution _ := .error rfl

/-- The number in the module path is what its query fails with. -/
theorem outcome_ask_reticentHost :
    reticentHost.FailsOrdinarily ∧
    (Query.modulePath.ask reticentHost).outcome = .error (.misuse (.element 1 .int)) := by
  refine ⟨reticentHost_failsOrdinarily, ?_⟩
  have hiff := (outcome_ask_iff reticentHost reticentHost_failsOrdinarily .modulePath).1
  have hitems : reticentHost.interpreter.modulePath.items
      = .ok (List.map Value.str ["/a"] ++ Value.int 5 :: []) := rfl
  exact (hiff _).2 (.pathItem hitems fun s hs => nomatch hs)

/-- **Not every query answers.**  Where the operating system does not say what it
is, the limit of open files fails before its module is looked for, and its sentinel
is not given. -/
theorem openFileLimit_fails :
    reticentHost.FailsOrdinarily ∧
    (openFileLimit reticentHost).outcome = .error (.external "OSError" .system "uname") :=
  ⟨reticentHost_failsOrdinarily, rfl⟩

end Probe

end StartupReport
