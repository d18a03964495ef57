/-
StartupReport/Proofs/Probe/SecurityUser.lean

What the name of the current user at the security service comes to.

Asking the module of the service for credentials, and these for the principal, ends in one
of three ways (`obtained_or_refused_or_fails`): a name, a refusal of credentials by the
service, or a failure, which `AccessFails` lists by the step that fails.  Once there are
credentials, no failure counts as a refusal any more.  A host without the module has an
answer of its own.  Everything else is answered as not known and logged once, and how
weighty the record is depends on the failure alone (`Quiet`): an installation that does
not fit and a user without credentials are no reason for a warning.

A missing member counts as an installation that does not fit wherever it is met, hence also
while the module of failures is being loaded; any other failure to load that module is one
of the accessor and gives a warning (`securityUser_quiet_member`).

Main result: `securityUser_answers`.
-/
import Mathlib.Data.List.TakeWhile
import StartupReport.Proofs.Probe.Classification

namespace StartupReport.Probe

open Build (unknown)

/-! ### The name that is shown -/

/-- The longest beginning of a principal without a realm and an instance. -/
structure IsShortName (principal short : List Char) : Prop where
  begins : short <+: principal
  no_realm : '@' ∉ short
  no_instance : '/' ∉ short
  longest : ∀ longer, longer <+: principal → '@' ∉ longer → '/' ∉ longer →
    longer.length ≤ short.length

/-- A character that ends neither the name nor the instance. -/
def isOfName (c : Char) : Bool := c ≠ '@' && c ≠ '/'

theorem shortName_eq_takeWhile (principal : List Char) :
    shortName principal = principal.takeWhile isOfName := by
  rw [shortName, List.takeWhile_takeWhile]
  -- the order of the two cuts does not matter
  congr 1
  funext c
  rw [isOfName, Bool.eq_iff_iff]
  simp [and_comm]

theorem forall_isOfName_iff {cs : List Char} :
    (∀ c ∈ cs, isOfName c = true) ↔ '@' ∉ cs ∧ '/' ∉ cs := by
  constructor
  · intro h
    exact ⟨fun hat => by simpa [isOfName] using h _ hat,
      fun hslash => by simpa [isOfName] using h _ hslash⟩
  · rintro ⟨hat, hslash⟩ c hc
    have hne : c ≠ '@' := fun heq => hat (heq ▸ hc)
    have hne' : c ≠ '/' := fun heq => hslash (heq ▸ hc)
    simp [isOfName, hne, hne']

theorem isShortName_shortName (principal : List Char) :
    IsShortName principal (shortName principal) := by
  rw [shortName_eq_takeWhile]
  obtain ⟨hat, hslash⟩ := forall_isOfName_iff.1 fun c (hc : c ∈ principal.takeWhile isOfName) =>
    List.mem_takeWhile_imp hc
  refine ⟨List.takeWhile_prefix _, hat, hslash, fun longer hlonger hat' hslash' => ?_⟩
  obtain ⟨rest, rfl⟩ := hlonger
  rw [List.takeWhile_append_of_pos (forall_isOfName_iff.2 ⟨hat', hslash'⟩), List.length_append]
  exact Nat.le_add_right _ _

/-- A principal has one short name. -/
theorem IsShortName.eq_shortName {principal short : List Char} (h : IsShortName principal short) :
    short = shortName principal := by
  have h' := isShortName_shortName principal
  have hlength : short.length = (shortName principal).length :=
    Nat.le_antisymm (h'.longest _ h.begins h.no_realm h.no_instance)
      (h.longest _ h'.begins h'.no_realm h'.no_instance)
  have hprefix : short <+: shortName principal :=
    List.prefix_of_prefix_length_le h.begins h'.begins (Nat.le_of_eq hlength)
  exact hprefix.eq_of_length hlength

/-! ### Asking for the credentials -/

/-- The module of the failures of a security service. -/
def errorsOf (h : Host) (m : SecurityModule) : Outcome SecurityErrors :=
  h.securityErrors (m.name ++ ".exceptions")

/-- The service gives credentials, and these the principal. -/
structure Obtained (h : Host) (m : SecurityModule) (name : Value) : Prop where
  errors : ∃ e, errorsOf h m = .ok e
  credentials : m.credentials = some (.ok ⟨.ok name⟩)

/-- The service refuses to give credentials, with a failure of its own. -/
structure Refused (h : Host) (m : SecurityModule) (f : Fault) : Prop where
  errors : ∃ e, errorsOf h m = .ok e ∧ e.hasServiceError = true
  credentials : m.credentials = some (.error f)
  family : f.family = .security

/-- The failure with which asking for the principal ends. -/
inductive AccessFails (h : Host) (m : SecurityModule) : Fault → Prop
  /-- The module of failures cannot be loaded. -/
  | errors {f : Fault} : errorsOf h m = .error f → AccessFails h m f
  /-- The module cannot be asked. -/
  | member {e : SecurityErrors} : errorsOf h m = .ok e → e.hasServiceError = true →
      m.credentials = none → AccessFails h m (.moduleMember m.name "Credentials")
  /-- There are no credentials, and nothing to compare the failure with. -/
  | serviceError {e : SecurityErrors} : errorsOf h m = .ok e → e.hasServiceError = false →
      (∀ c, m.credentials ≠ some (.ok c)) →
      AccessFails h m (.moduleMember e.name "GSSError")
  /-- There are no credentials, because of a failure that is not one of the service. -/
  | credentials {e : SecurityErrors} {f : Fault} : errorsOf h m = .ok e →
      e.hasServiceError = true → m.credentials = some (.error f) → f.family ≠ .security →
      AccessFails h m f
  /-- The credentials do not give their principal, be it because of a failure of the service. -/
  | name {e : SecurityErrors} {f : Fault} : errorsOf h m = .ok e →
      m.credentials = some (.ok ⟨.error f⟩) → AccessFails h m f

/-- What is logged about a user without credentials. -/
def noCredentialsRecord (f : Fault) : Record :=
  ⟨probeLogger, Log.Level.debug,
    "No Kerberos credentials available for the current user: " ++ f.message, none⟩

section
variable {h : Host} {m : SecurityModule} {name : Value} {f : Fault}

theorem principalName_of_errors {e : SecurityErrors} (he : errorsOf h m = .ok e) :
    principalName h m = match askCredentials m with
      | .ok c => do
        let name ← Traced.ask c.name
        return some (String.ofList (shortName name.text.toList))
      | .error f =>
        if ¬ e.hasServiceError then Traced.fail (.moduleMember e.name "GSSError")
        else if f.family = .security then ⟨.ok none, [.logged (noCredentialsRecord f)]⟩
        else Traced.fail f := by
  have hask : Traced.ask (h.securityErrors (m.name ++ ".exceptions")) = pure e :=
    congrArg Traced.ask he
  rw [principalName, hask, Traced.pure_bind]
  rfl

theorem Obtained.principalName_eq (ho : Obtained h m name) :
    principalName h m = pure (some (String.ofList (shortName name.text.toList))) := by
  obtain ⟨e, he⟩ := ho.errors
  rw [principalName_of_errors he, askCredentials, ho.credentials]
  rfl

theorem Refused.principalName_eq (hr : Refused h m f) :
    principalName h m = ⟨.ok none, [.logged (noCredentialsRecord f)]⟩ := by
  obtain ⟨e, he, hservice⟩ := hr.errors
  rw [principalName_of_errors he, askCredentials, hr.credentials]
  simp only [hservice, hr.family, not_true_eq_false, if_false, if_true]

theorem AccessFails.principalName_eq (hf : AccessFails h m f) :
    principalName h m = Traced.fail f := by
  cases hf with
  | errors he =>
    have hask : (Traced.ask (h.securityErrors (m.name ++ ".exceptions"))).outcome = .error f := he
    rw [principalName, Traced.bind_of_error hask]
    rfl
  | member he hservice hnone =>
    rw [principalName_of_errors he, askCredentials, hnone]
    simp only [hservice, not_true_eq_false, if_false]
    rfl
  | @serviceError e he hservice hnone =>
    rw [principalName_of_errors he]
    have hfail : ∃ f, askCredentials m = .error f := by
      unfold askCredentials
      split
      · next answer hanswer =>
        rcases answer with f | c
        · exact ⟨f, rfl⟩
        · exact absurd hanswer (hnone c)
      · exact ⟨_, rfl⟩
    obtain ⟨f, hf⟩ := hfail
    simp only [hf, hservice, Bool.false_eq_true, not_false_eq_true, if_true]
  | credentials he hservice hcredentials hfamily =>
    rw [principalName_of_errors he, askCredentials, hcredentials]
    simp only [hservice, hfamily, not_true_eq_false, if_false]
  | name he hcredentials =>
    rw [principalName_of_errors he, askCredentials, hcredentials]
    rfl

/-- Asking for the principal ends in one of three ways. -/
theorem obtained_or_refused_or_fails (h : Host) (m : SecurityModule) :
    (∃ name, Obtained h m name) ∨ (∃ f, Refused h m f) ∨ ∃ f, AccessFails h m f := by
  rcases he : errorsOf h m with f | e
  · exact .inr (.inr ⟨f, .errors he⟩)
  -- a failure is looked at only if there is the one of the service to compare it with
  rcases hc : m.credentials with - | f | ⟨f | name⟩
  · rcases hservice : e.hasServiceError with - | -
    · exact .inr (.inr ⟨_, .serviceError he hservice fun c hsome => by simp [hc] at hsome⟩)
    · exact .inr (.inr ⟨_, .member he hservice hc⟩)
  · rcases hservice : e.hasServiceError with - | -
    · exact .inr (.inr ⟨_, .serviceError he hservice fun c hsome => by simp [hc] at hsome⟩)
    · by_cases hfamily : f.family = .security
      · exact .inr (.inl ⟨f, ⟨e, he, hservice⟩, hc, hfamily⟩)
      · exact .inr (.inr ⟨f, .credentials he hservice hc hfamily⟩)
  -- with credentials there is no handler any more
  · exact .inr (.inr ⟨f, .name he hc⟩)
  · exact .inl ⟨name, ⟨e, he⟩, hc⟩

end

/-! ### What is answered and logged -/

/-- What is logged about a module that does not fit. -/
def incompatibleRecord (f : Fault) : Record :=
  ⟨probeLogger, Log.Level.debug,
    "Cannot determine user/group information using gssapi. gssapi not loaded or compatible",
    some f⟩

/-- What is logged about any other failure. -/
def failedRecord (f : Fault) : Record :=
  ⟨probeLogger, Log.Level.warning,
    "Error while accessing user/group information via gssapi.", some f⟩

/-- What is made of the result of the probe. -/
def answerTo : Probed (Option String) → Traced String
  | .available name => pure (name.getD unknown)
  | .missing _ => pure noSecurityModule
  | .incompatible f => ⟨.ok unknown, [.logged (incompatibleRecord f)]⟩
  | .failed f => ⟨.ok unknown, [.logged (failedRecord f)]⟩

theorem securityUser_eq_bind (h : Host) :
    securityUser h = probe securityModuleName h.security (principalName h) >>= answerTo := by
  rw [securityUser]
  refine Traced.bind_congr fun p _ => ?_
  rcases p with name | f | f | f
  · rfl
  · rfl
  · rfl
  · rfl

/-- The security service is not installed. -/
def NotInstalled (h : Host) : Prop :=
  ∃ f, h.security = .error f ∧ f.family = .moduleMissing securityModuleName

/-- The failures that are no reason for a warning. -/
inductive Quiet (h : Host) : Prop
  /-- The module is there but cannot be loaded. -/
  | unloadable {f : Fault} : h.security = .error f → Unloadable f →
      ¬ NotThere securityModuleName f → Quiet h
  /-- A member is missing once the module is loaded. -/
  | member {m : SecurityModule} {f : Fault} : h.security = .ok m → AccessFails h m f →
      f.family = .member → Quiet h
  /-- There are no credentials. -/
  | refused {m : SecurityModule} {f : Fault} : h.security = .ok m → Refused h m f → Quiet h

/-- Only ordinary failures occur in the modules of the security service. -/
structure SecurityFailsOrdinarily (h : Host) : Prop where
  security : Ordinary h.security
  errors : ∀ m, h.security = .ok m → Ordinary (errorsOf h m)
  credentials : ∀ m answer, h.security = .ok m → m.credentials = some answer → Ordinary answer
  name : ∀ m c, h.security = .ok m → m.credentials = some (.ok c) → Ordinary c.name

section
variable {h : Host} {m : SecurityModule} {name : Value} {f : Fault}

/-- With credentials that give their name, the module of failures is all that can fail. -/
theorem SecurityFailsOrdinarily.of_credentials (hm : h.security = .ok m)
    (hcredentials : m.credentials = some (.ok ⟨.ok name⟩)) (herrors : Ordinary (errorsOf h m)) :
    SecurityFailsOrdinarily h where
  security := by
    rw [hm]
    exact .ok _
  errors m' hm' := by
    cases hm.symm.trans hm'
    exact herrors
  credentials m' answer hm' hanswer := by
    cases hm.symm.trans hm'
    cases hcredentials.symm.trans hanswer
    exact .ok _
  name m' c hm' hc := by
    cases hm.symm.trans hm'
    cases hcredentials.symm.trans hc
    exact .ok _

theorem AccessFails.isOrdinary (hh : SecurityFailsOrdinarily h) (hm : h.security = .ok m)
    (hf : AccessFails h m f) : f.isOrdinary = true := by
  cases hf with
  | errors he => exact hh.errors m hm f he
  | member | serviceError => rfl
  | credentials _ _ hc _ => exact hh.credentials m _ hm hc f rfl
  | name _ hc => exact hh.name m _ hm hc f rfl

theorem ordinary_principalName (hh : SecurityFailsOrdinarily h) (hm : h.security = .ok m) :
    Ordinary (principalName h m).outcome := by
  obtain ⟨name, ho⟩ | ⟨f, hr⟩ | ⟨f, hf⟩ := obtained_or_refused_or_fails h m
  · rw [ho.principalName_eq]
    exact .ok _
  · rw [hr.principalName_eq]
    exact .ok _
  · rw [hf.principalName_eq]
    exact .error (hf.isOrdinary hh hm)

/-- What is answered is decided by the result of the probe, and logged after what the
accessor leaves behind. -/
theorem securityUser_eq (hh : SecurityFailsOrdinarily h) :
    securityUser h =
      let answer := answerTo
        (probed securityModuleName h.security fun m => (principalName h m).outcome)
      ⟨answer.outcome, accessEvents h.security (principalName h) ++ answer.events⟩ := by
  rw [securityUser_eq_bind, probe_eq securityModuleName hh.security fun m hm =>
    ordinary_principalName hh hm]
  rfl

theorem securityUser_of_load_error (hh : SecurityFailsOrdinarily h) (hf : h.security = .error f) :
    securityUser h = answerTo (ofLoadFailure securityModuleName f) := by
  rw [securityUser_eq hh, hf]
  rfl

theorem securityUser_of_notInstalled (hh : SecurityFailsOrdinarily h) (hnot : NotInstalled h) :
    securityUser h = pure noSecurityModule := by
  obtain ⟨f, hf, hname⟩ := hnot
  rw [securityUser_of_load_error hh hf,
    ofLoadFailure_of_notThere ((notThere_iff_of_undotted (by decide)).2 hname)]
  rfl

theorem securityUser_of_obtained (hh : SecurityFailsOrdinarily h) (hm : h.security = .ok m)
    (ho : Obtained h m name) :
    securityUser h = pure (String.ofList (shortName name.text.toList)) := by
  rw [securityUser_eq hh, hm]
  simp only [probed, accessEvents, ho.principalName_eq]
  rfl

theorem securityUser_of_refused (hh : SecurityFailsOrdinarily h) (hm : h.security = .ok m)
    (hr : Refused h m f) :
    securityUser h = ⟨.ok unknown, [.logged (noCredentialsRecord f)]⟩ := by
  rw [securityUser_eq hh, hm]
  simp only [probed, accessEvents, hr.principalName_eq]
  rfl

theorem securityUser_of_accessFails (hh : SecurityFailsOrdinarily h) (hm : h.security = .ok m)
    (hf : AccessFails h m f) : securityUser h = answerTo (ofAccessFailure f) := by
  rw [securityUser_eq hh, hm]
  simp only [probed, accessEvents, hf.principalName_eq]
  rfl

/-- A failure of another family than that of missing members is not quiet. -/
theorem not_quiet_of_accessFails (hm : h.security = .ok m) (hf : AccessFails h m f)
    (hfamily : f.family ≠ .member) : ¬ Quiet h := by
  intro hquiet
  cases hquiet with
  | unloadable hf' => cases hm.symm.trans hf'
  | member hm' hf' hmember =>
    -- the module is asked once, and so there is one failure
    cases hm.symm.trans hm'
    cases hf.principalName_eq.symm.trans hf'.principalName_eq
    exact hfamily hmember
  | refused hm' hr =>
    cases hm.symm.trans hm'
    cases hf.principalName_eq.symm.trans hr.principalName_eq

theorem not_quiet_of_not_unloadable (hf : h.security = .error f) (hload : ¬ Unloadable f) :
    ¬ Quiet h := by
  intro hquiet
  cases hquiet with
  | unloadable hf' hload' =>
    cases hf.symm.trans hf'
    exact hload hload'
  | member hm | refused hm => cases hf.symm.trans hm

/-- What is said about a name that cannot be found out. -/
structure Weighed (h : Host) (r : Record) : Prop where
  logger : r.logger = probeLogger
  quiet : Quiet h → r.level = Log.Level.debug
  loud : ¬ Quiet h → r.level = Log.Level.warning

theorem Weighed.of_quiet {r : Record} (hquiet : Quiet h) (hlogger : r.logger = probeLogger)
    (hlevel : r.level = Log.Level.debug) : Weighed h r :=
  ⟨hlogger, fun _ => hlevel, fun hloud => absurd hquiet hloud⟩

theorem Weighed.of_loud {r : Record} (hloud : ¬ Quiet h) (hlogger : r.logger = probeLogger)
    (hlevel : r.level = Log.Level.warning) : Weighed h r :=
  ⟨hlogger, fun hquiet => absurd hquiet hloud, fun _ => hlevel⟩

theorem unknown_of_load_error (hh : SecurityFailsOrdinarily h) (hf : h.security = .error f)
    (hnot : ¬ NotInstalled h) :
    ∃ r, securityUser h = ⟨.ok unknown, [.logged r]⟩ ∧ Weighed h r := by
  have hthere : ¬ NotThere securityModuleName f := fun hthere =>
    hnot ⟨f, hf, (notThere_iff_of_undotted (by decide)).1 hthere⟩
  rw [securityUser_of_load_error hh hf]
  by_cases hload : Unloadable f
  · rw [ofLoadFailure_of_unloadable hload hthere]
    exact ⟨_, rfl, .of_quiet (.unloadable hf hload hthere) rfl rfl⟩
  · rw [ofLoadFailure_of_not_unloadable hload]
    exact ⟨_, rfl, .of_loud (not_quiet_of_not_unloadable hf hload) rfl rfl⟩

theorem unknown_of_accessFails (hh : SecurityFailsOrdinarily h) (hm : h.security = .ok m)
    (hf : AccessFails h m f) :
    ∃ r, securityUser h = ⟨.ok unknown, [.logged r]⟩ ∧ Weighed h r := by
  rw [securityUser_of_accessFails hh hm hf]
  by_cases hfamily : f.family = .member
  · rw [ofAccessFailure_of_member hfamily]
    exact ⟨_, rfl, .of_quiet (.member hm hf hfamily) rfl rfl⟩
  · rw [ofAccessFailure_of_not_member hfamily]
    exact ⟨_, rfl, .of_loud (not_quiet_of_accessFails hm hf hfamily) rfl rfl⟩

/-- There is always an answer: that of a host without the service, a name, or the word for
what is not known. -/
theorem securityUser_cases (hh : SecurityFailsOrdinarily h) :
    NotInstalled h ∨ (∃ m name, h.security = .ok m ∧ Obtained h m name) ∨
    ∃ r, securityUser h = ⟨.ok unknown, [.logged r]⟩ ∧ Weighed h r := by
  rcases hs : h.security with f | m
  · by_cases hnot : NotInstalled h
    · exact .inl hnot
    · exact .inr (.inr (unknown_of_load_error hh hs hnot))
  · obtain ⟨name, ho⟩ | ⟨f, hr⟩ | ⟨f, hf⟩ := obtained_or_refused_or_fails h m
    · exact .inr (.inl ⟨m, name, rfl, ho⟩)
    · exact .inr (.inr ⟨_, securityUser_of_refused hh hs hr, .of_quiet (.refused hs hr) rfl rfl⟩)
    · exact .inr (.inr (unknown_of_accessFails hh hs hf))

end

/-- **The name of the current user is always answered.**  A host without the security
service has an answer of its own, and a principal is shown by its short name; neither leaves
a record.  Everything else is answered as not known, with one record, which is a warning
unless the failure is a quiet one.  A principal whose short name is spelled like the answer
of a host without the service is the only other way to that answer. -/
theorem securityUser_answers (h : Host) (hh : SecurityFailsOrdinarily h) :
    (∃ answer, (securityUser h).outcome = .ok answer) ∧
    (NotInstalled h → securityUser h = pure noSecurityModule) ∧
    (∀ m name, h.security = .ok m → Obtained h m name →
      ∃ short, securityUser h = pure short ∧ IsShortName name.text.toList short.toList) ∧
    (¬ NotInstalled h → (¬ ∃ m name, h.security = .ok m ∧ Obtained h m name) →
      ∃ r, securityUser h = ⟨.ok unknown, [.logged r]⟩ ∧ Weighed h r) ∧
    (securityUser h = pure noSecurityModule ↔
      NotInstalled h ∨ ∃ m name, h.security = .ok m ∧ Obtained h m name ∧
        IsShortName name.text.toList noSecurityModule.toList) := by
  have hcases := securityUser_cases hh
  refine ⟨?_, securityUser_of_notInstalled hh, ?_, ?_, ⟨?_, ?_⟩⟩
  · obtain hnot | ⟨m, name, hm, ho⟩ | ⟨r, heq, -⟩ := hcases
    · exact ⟨_, congrArg Traced.outcome (securityUser_of_notInstalled hh hnot)⟩
    · exact ⟨_, congrArg Traced.outcome (securityUser_of_obtained hh hm ho)⟩
    · exact ⟨_, congrArg Traced.outcome heq⟩
  · intro m name hm ho
    refine ⟨_, securityUser_of_obtained hh hm ho, ?_⟩
    rw [String.toList_ofList]
    exact isShortName_shortName _
  · intro hnot hno
    obtain hnot' | hsome | hunknown := hcases
    · exact absurd hnot' hnot
    · exact absurd hsome hno
    · exact hunknown
  · intro hmarker
    obtain hnot | ⟨m, name, hm, ho⟩ | ⟨r, heq, -⟩ := hcases
    · exact .inl hnot
    · have hshort : String.ofList (shortName name.text.toList) = noSecurityModule :=
        Except.ok.inj
          (congrArg Traced.outcome ((securityUser_of_obtained hh hm ho).symm.trans hmarker))
      refine .inr ⟨m, name, hm, ho, ?_⟩
      rw [← hshort, String.toList_ofList]
      exact isShortName_shortName _
    · -- what is not known leaves a record
      cases congrArg Traced.events (heq.symm.trans hmarker)
  · rintro (hnot | ⟨m, name, hm, ho, hshort⟩)
    · exact securityUser_of_notInstalled hh hnot
    · rw [securityUser_of_obtained hh hm ho, ← hshort.eq_shortName, String.ofList_toList]

/-- A host whose principal is spelled like the answer of a host without the service. -/
def namesakeHost : Host :=
  { bareHost with
    security := .ok ⟨"gssapi", some (.ok ⟨.ok (.str "<no gssapi dependency found>@EXAMPLE.COM")⟩)⟩
    securityErrors := fun name => .ok ⟨name, true⟩ }

theorem securityFailsOrdinarily_namesakeHost : SecurityFailsOrdinarily namesakeHost :=
  .of_credentials rfl rfl (.ok _)

/-- A principal can take the answer of a host without the service. -/
theorem securityUser_namesakeHost :
    SecurityFailsOrdinarily namesakeHost ∧ ¬ NotInstalled namesakeHost ∧
    securityUser namesakeHost = pure noSecurityModule := by
  have hobtained : Obtained namesakeHost ⟨"gssapi", some (.ok ⟨.ok (.str
      "<no gssapi dependency found>@EXAMPLE.COM")⟩)⟩
      (.str "<no gssapi dependency found>@EXAMPLE.COM") := ⟨⟨_, rfl⟩, rfl⟩
  have hshort : noSecurityModule.toList
      = shortName "<no gssapi dependency found>@EXAMPLE.COM".toList := by decide
  obtain ⟨-, -, -, -, hmarker⟩ :=
    securityUser_answers namesakeHost securityFailsOrdinarily_namesakeHost
  refine ⟨securityFailsOrdinarily_namesakeHost, nofun, hmarker.2 (.inr ⟨_, _, rfl, hobtained, ?_⟩)⟩
  rw [hshort]
  exact isShortName_shortName _

/-- A host on which a member is missing while the module of failures is loaded. -/
def halfLoadedHost : Host :=
  { bareHost with
    security := .ok ⟨"gssapi", some (.ok ⟨.ok (.str "alice@EXAMPLE.COM")⟩)⟩
    securityErrors := fun _ => .error (.external "AttributeError" .member "no attribute") }

theorem securityFailsOrdinarily_halfLoadedHost : SecurityFailsOrdinarily halfLoadedHost :=
  .of_credentials rfl rfl (.error rfl)

/-- The module of failures cannot be loaded and yet there is no warning, and a host with the
service may answer like one without it. -/
theorem securityUser_quiet_member :
    (SecurityFailsOrdinarily halfLoadedHost ∧
      ∃ m f r, halfLoadedHost.security = .ok m ∧ errorsOf halfLoadedHost m = .error f ∧
        securityUser halfLoadedHost = ⟨.ok unknown, [.logged r]⟩ ∧
        r.level = Log.Level.debug ∧ r.level ≠ Log.Level.warning) ∧
    (SecurityFailsOrdinarily namesakeHost ∧ ¬ NotInstalled namesakeHost ∧
      securityUser namesakeHost = pure noSecurityModule) :=
  ⟨⟨securityFailsOrdinarily_halfLoadedHost, _, _, _, rfl, rfl, rfl, rfl, by decide⟩,
    securityFailsOrdinarily_namesakeHost, nofun, rfl⟩

end StartupReport.Probe
