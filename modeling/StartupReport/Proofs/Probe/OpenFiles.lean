/-
StartupReport/Proofs/Probe/OpenFiles.lean

What the limit of open files comes to.

On Windows the answer is minus one at once, whatever the module of limits is
(`openFileLimit_of_windows`).  Elsewhere the result of the probe decides
(`openFileLimit_eq_limitAnswer`), and minus one stands for three things: there is no limit, there is
no module of limits, or there is trouble.  Only trouble leaves a record, a warning with the
failure that was met.

Main result: `openFileLimit_answers`.
-/
import StartupReport.Proofs.Probe.LimitLookup

namespace StartupReport.Probe

/-! ### Windows -/

/-- No other value equals a text. -/
theorem equal_str_iff {v : Value} {s : String} : v.equal (.str s) = true ↔ v = .str s := by
  cases v with
  | other kind items =>
    rcases hn : kind.number with - | n <;>
      simp [Value.equal, Value.identity, Foreign.identity, hn]
  | _ => simp [Value.equal, Value.identity]

section
variable {h : Host} {system : Value}

theorem isWindows_eq (hsystem : h.platform.system = .ok system) :
    isWindows h = .ok (system.equal (.str "Windows")) := by
  rw [isWindows, hsystem]
  rfl

/-- On Windows the module of limits is not even loaded. -/
theorem openFileLimit_of_windows (hsystem : h.platform.system = .ok (.str "Windows")) :
    openFileLimit h = pure (-1) := by
  have hwindows : Traced.ask (isWindows h) = pure true :=
    congrArg Traced.ask ((isWindows_eq hsystem).trans (congrArg _ (equal_str_iff.2 rfl)))
  rw [openFileLimit, hwindows, Traced.pure_bind]
  rfl

end

/-! ### Elsewhere -/

/-- What is logged about a limit that cannot be found out. -/
def limitWarning (f : Fault) : Record :=
  ⟨probeLogger, Log.Level.warning, "Unexpected error when accessing file handle limit", some f⟩

/-- What is made of the result of the probe. -/
def limitAnswer : Probed (Option Int) → Traced Int
  | .available limit => pure (limit.getD (-1))
  | .missing _ => pure (-1)
  | .incompatible f | .failed f => ⟨.ok (-1), [.logged (limitWarning f)]⟩

/-- Looking up the limit of open files in a module of limits. -/
def openFilesLookup (m : LimitModule) : Outcome (Option Int) :=
  LimitModule.inForce m "RLIMIT_NOFILE" m.openFiles

/-- Only ordinary failures occur in the module of limits. -/
structure LimitsFailOrdinarily (h : Host) : Prop where
  limits : Ordinary h.limits
  openFiles : ∀ m answer, h.limits = .ok m → m.openFiles = some answer → Ordinary answer

/-- The number of open files has a limit: the soft one, which is not the mark of infinity and
denotes a whole number. -/
def FileLimit (h : Host) (n : Int) : Prop :=
  ∃ m soft infinity, h.limits = .ok m ∧ Answers m m.openFiles soft infinity ∧
    soft.equal infinity = false ∧ wholeNumber soft = .ok n

/-- The number of open files has no limit: the soft one is the mark of infinity. -/
def UnlimitedFiles (h : Host) : Prop :=
  ∃ m soft infinity, h.limits = .ok m ∧ Answers m m.openFiles soft infinity ∧
    soft.equal infinity = true

/-- The module of limits is not installed. -/
def NoLimitModule (h : Host) : Prop :=
  ∃ f, h.limits = .error f ∧ f.family = .moduleMissing limitModuleName

/-- The failures that are a reason for a warning. -/
inductive Trouble (h : Host) : Fault → Prop
  /-- The module is there but cannot be loaded. -/
  | loading {f : Fault} : h.limits = .error f → f.family ≠ .moduleMissing limitModuleName →
      Trouble h f
  /-- The module is loaded, and a step of the lookup fails. -/
  | lookup {m : LimitModule} {f : Fault} : h.limits = .ok m →
      LookupFails m "RLIMIT_NOFILE" m.openFiles f → Trouble h f

section
variable {h : Host} {system : Value}

/-- The limit is always one of four things. -/
theorem fileLimit_cases (h : Host) :
    (∃ n, FileLimit h n) ∨ UnlimitedFiles h ∨ NoLimitModule h ∨ ∃ f, Trouble h f := by
  rcases hlimits : h.limits with f | m
  · by_cases hmissing : f.family = .moduleMissing limitModuleName
    · exact .inr (.inr (.inl ⟨f, hlimits, hmissing⟩))
    · exact .inr (.inr (.inr ⟨f, .loading hlimits hmissing⟩))
  · rcases hlookup : openFilesLookup m with f | limit
    · exact .inr (.inr (.inr ⟨f, .lookup hlimits (inForce_eq_error_iff.1 hlookup)⟩))
    · obtain ⟨soft, infinity, hanswers, ⟨hequal, -⟩ | ⟨hequal, n, hn, -⟩⟩ :=
        inForce_eq_ok_iff.1 hlookup
      · exact .inr (.inl ⟨m, soft, infinity, hlimits, hanswers, hequal⟩)
      · exact .inl ⟨n, m, soft, infinity, hlimits, hanswers, hequal, hn⟩

variable (hsystem : h.platform.system = .ok system) (hother : system ≠ .str "Windows")
  (hordinary : LimitsFailOrdinarily h)
include hsystem hother hordinary

/-- Away from Windows the result of the probe decides, and the probe itself says nothing. -/
theorem openFileLimit_eq_limitAnswer :
    openFileLimit h = limitAnswer (probed limitModuleName h.limits openFilesLookup) := by
  have hwindows : Traced.ask (isWindows h) = pure false :=
    congrArg Traced.ask ((isWindows_eq hsystem).trans
      (congrArg _ (Bool.eq_false_iff.2 (mt equal_str_iff.1 hother))))
  have haccess (m : LimitModule) (hm : h.limits = .ok m) :
      Ordinary (Traced.ask (openFilesLookup m)).outcome :=
    ordinary_inForce m _ fun answer ha => hordinary.openFiles m answer hm ha
  have hevents : accessEvents h.limits (fun m => Traced.ask (openFilesLookup m)) = [] := by
    rcases h.limits with f | m
    · rfl
    · rfl
  have hprobe := probe_eq limitModuleName hordinary.limits haccess
  rw [hevents] at hprobe
  rw [openFileLimit, hwindows, Traced.pure_bind]
  show probe limitModuleName h.limits (fun m => Traced.ask (openFilesLookup m)) >>= _ = _
  rw [hprobe]
  show (pure _ : Traced _) >>= _ = _
  rw [Traced.pure_bind]
  simp only [Traced.outcome_ask]
  rcases probed limitModuleName h.limits openFilesLookup with limit | f | f | f
  · rfl
  · rfl
  · rfl
  · rfl

theorem openFileLimit_of_lookup {m : LimitModule} {limit : Option Int} (hm : h.limits = .ok m)
    (hlookup : openFilesLookup m = .ok limit) : openFileLimit h = pure (limit.getD (-1)) := by
  rw [openFileLimit_eq_limitAnswer hsystem hother hordinary, hm,
    probed_of_access_ok limitModuleName openFilesLookup hlookup]
  rfl

theorem openFileLimit_of_fileLimit {n : Int} (hn : FileLimit h n) : openFileLimit h = pure n := by
  obtain ⟨m, soft, infinity, hm, hanswers, hequal, hnumber⟩ := hn
  exact openFileLimit_of_lookup hsystem hother hordinary hm
    (inForce_eq_ok_iff.2 ⟨soft, infinity, hanswers, .inr ⟨hequal, n, hnumber, rfl⟩⟩)

theorem openFileLimit_of_unlimited (hfree : UnlimitedFiles h) : openFileLimit h = pure (-1) := by
  obtain ⟨m, soft, infinity, hm, hanswers, hequal⟩ := hfree
  exact openFileLimit_of_lookup hsystem hother hordinary hm
    (inForce_eq_ok_iff.2 ⟨soft, infinity, hanswers, .inl ⟨hequal, rfl⟩⟩)

theorem openFileLimit_of_noLimitModule (hnone : NoLimitModule h) :
    openFileLimit h = pure (-1) := by
  obtain ⟨f, hf, hname⟩ := hnone
  rw [openFileLimit_eq_limitAnswer hsystem hother hordinary, hf, probed_of_load_error,
    ofLoadFailure_of_notThere ((notThere_iff_of_undotted (by decide)).2 hname)]
  rfl

/-- Whatever the trouble is, it is logged once and stands in the record. -/
theorem openFileLimit_of_trouble {f : Fault} (hf : Trouble h f) :
    openFileLimit h = ⟨.ok (-1), [.logged (limitWarning f)]⟩ := by
  rw [openFileLimit_eq_limitAnswer hsystem hother hordinary]
  cases hf with
  | loading hf hname =>
    have hthere : ¬ NotThere limitModuleName f :=
      mt (notThere_iff_of_undotted (by decide)).1 hname
    rw [hf, probed_of_load_error]
    by_cases hload : Unloadable f
    · rw [ofLoadFailure_of_unloadable hload hthere]
      rfl
    · rw [ofLoadFailure_of_not_unloadable hload]
      rfl
  | lookup hm hfails =>
    rw [hm, probed_of_access_error limitModuleName openFilesLookup hfails.inForce_eq]
    obtain hp | hp := ofAccessFailure_cases f
    · rw [hp]
      rfl
    · rw [hp]
      rfl

end

/-- A host whose module of limits answers with three numbers in place of a pair. -/
def tripleHost : Host :=
  { bareHost with
    limits := .ok ⟨"resource", true, none, some (.ok (.list [.int 1024, .int 4096, .int 0])),
      some (.int (-1))⟩ }

theorem limitsFailOrdinarily_tripleHost : LimitsFailOrdinarily tripleHost where
  limits := .ok _
  openFiles m answer hm hanswer := by
    cases hm
    cases hanswer
    exact .ok _

end StartupReport.Probe
