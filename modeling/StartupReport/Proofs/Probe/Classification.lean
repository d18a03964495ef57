/-
StartupReport/Proofs/Probe/Classification.lean

How a probe sorts what it meets.

A probe has two steps, loading the module and applying the accessor, and at most one
failure, that of the step that did not succeed (`Meets`).  The failure is kept as it is,
and which of three words stands for it depends on the step and on the family of the
failure (`Sorted`).  A module is missing only if the name that cannot be found is a
package on the way to it: cut at its dots, the name of the module begins with the pieces
of that name (`NotThere`).  A name that is merely the beginning of the text is not.

Main result: `probe_sorts`, for ordinary failures of both steps.
-/
import StartupReport.Proofs.Probe.Sentinels
import StartupReport.Text.Piece

namespace StartupReport.Probe

open Text (pieces pieces_prefix_iff)

/-! ### Names with dots -/

/-- A name is that of a module or of a package around it if the pieces of the one begin
with those of the other. -/
theorem isSelfOrPackage_iff {name module : List Char} :
    isSelfOrPackage name module = true ↔ pieces '.' name <+: pieces '.' module := by
  rw [pieces_prefix_iff, isSelfOrPackage, Bool.or_eq_true, beq_iff_eq, List.isPrefixOf_iff_prefix]

/-- A module cannot be found because it or a package around it is not there.  A name that
is not known counts as empty. -/
def NotThere (module : String) (f : Fault) : Prop :=
  ∃ name, f.family = .moduleMissing name ∧ pieces '.' name.toList <+: pieces '.' module.toList

/-- A module cannot be loaded: one cannot be found, or there is another reason that
loading itself gives. -/
inductive Unloadable (f : Fault) : Prop
  | missing {name : String} : f.family = .moduleMissing name → Unloadable f
  | broken : f.family = .moduleBroken → Unloadable f

theorem NotThere.unloadable {module : String} {f : Fault} (h : NotThere module f) :
    Unloadable f := by
  obtain ⟨name, hname, -⟩ := h
  exact .missing hname

theorem isMissing_iff {module : String} {f : Fault} :
    isMissing module f = true ↔ NotThere module f := by
  unfold isMissing NotThere
  constructor
  · intro h
    split at h
    · next name hname => exact ⟨name, hname, isSelfOrPackage_iff.1 h⟩
    · cases h
  · rintro ⟨name, hname, hpieces⟩
    simp only [hname]
    exact isSelfOrPackage_iff.2 hpieces

/-- A module that lies in no package is missing only under its own name. -/
theorem notThere_iff_of_undotted {module : String} {f : Fault} (hdot : '.' ∉ module.toList) :
    NotThere module f ↔ f.family = .moduleMissing module := by
  constructor
  · rintro ⟨name, hname, hpieces⟩
    have hself := isSelfOrPackage_iff.2 hpieces
    rw [isSelfOrPackage, Bool.or_eq_true, beq_iff_eq, List.isPrefixOf_iff_prefix] at hself
    obtain hsame | hpackage := hself
    · rw [hname, String.toList_inj.1 hsame]
    · exact absurd (hpackage.subset (by simp)) hdot
  · intro hname
    exact ⟨module, hname, List.prefix_refl _⟩

/-! ### One failure at a time -/

section
variable {α μ : Type} {module : String} {f : Fault}

theorem ofLoadFailure_of_notThere (h : NotThere module f) :
    (ofLoadFailure module f : Probed α) = .missing f :=
  ofLoadFailure_of_isMissing (isMissing_iff.2 h)

theorem ofLoadFailure_of_unloadable (h : Unloadable f) (hnot : ¬ NotThere module f) :
    (ofLoadFailure module f : Probed α) = .incompatible f := by
  unfold ofLoadFailure
  cases h with
  | @missing name hname =>
    have hself : isSelfOrPackage name.toList module.toList = false :=
      Bool.eq_false_iff.2 fun hself => hnot ⟨name, hname, isSelfOrPackage_iff.1 hself⟩
    simp only [hname, hself, Bool.false_eq_true, if_false]
  | broken hbroken => simp only [hbroken]

theorem ofLoadFailure_of_not_unloadable (h : ¬ Unloadable f) :
    (ofLoadFailure module f : Probed α) = .failed f := by
  unfold ofLoadFailure
  split
  · next hname => exact absurd (.missing hname) h
  · next hbroken => exact absurd (.broken hbroken) h
  · rfl

theorem ofAccessFailure_of_member (h : f.family = .member) :
    (ofAccessFailure f : Probed α) = .incompatible f := by
  unfold ofAccessFailure
  simp only [h]

theorem ofAccessFailure_of_not_member (h : f.family ≠ .member) :
    (ofAccessFailure f : Probed α) = .failed f := by
  unfold ofAccessFailure
  split
  · next hmember => exact absurd hmember h
  · rfl

/-! ### What is left behind -/

/-- A handler of ordinary failures leaves nothing behind itself. -/
theorem events_absorb {β : Type} (x : Traced α) (good : α → Traced β) (bad : Fault → β) :
    (absorb x good bad).events = match x.outcome with
      | .ok a => x.events ++ (good a).events
      | .error _ => x.events := by
  have hattempt : x.attempt.outcome = .ok x.outcome := rfl
  rw [absorb, Traced.events_bind_ok hattempt]
  rcases x.outcome with f | a
  · rcases hf : f.isOrdinary with - | -
    · simp only [hf, Bool.false_eq_true, if_false]
      exact List.append_nil _
    · simp only [hf, if_true]
      exact List.append_nil _
  · rfl

/-- The events of an accessor, none without a module to apply it to. -/
def accessEvents (loading : Outcome μ) (accessor : μ → Traced α) : List Event :=
  match loading with
  | .ok m => (accessor m).events
  | .error _ => []

/-- Only the accessor leaves events behind, and it is not run before the module is there. -/
theorem events_probe (module : String) (loading : Outcome μ) (accessor : μ → Traced α) :
    (probe module loading accessor).events = accessEvents loading accessor := by
  rw [probe, events_absorb]
  rcases loading with f | m
  · rfl
  · show [] ++ (absorb (accessor m) _ _).events = (accessor m).events
    rw [List.nil_append, events_absorb]
    rcases (accessor m).outcome with f | a
    · rfl
    · exact List.append_nil _

/-- The outcome of a probe and its events at once. -/
theorem probe_eq (module : String) {loading : Outcome μ} {accessor : μ → Traced α}
    (hloading : Ordinary loading)
    (haccess : ∀ m, loading = .ok m → Ordinary (accessor m).outcome) :
    probe module loading accessor
      = ⟨.ok (probed module loading fun m => (accessor m).outcome),
          accessEvents loading accessor⟩ :=
  Traced.ext (outcome_probe module hloading haccess) (events_probe module loading accessor)

end

/-! ### What a probe comes to -/

section
variable {α μ : Type}

/-- The failure that a probe meets: that of loading or, with the module there, that of the
accessor. -/
inductive Meets (loading : Outcome μ) (access : μ → Outcome α) : Fault → Prop
  | loading {f : Fault} : loading = .error f → Meets loading access f
  | access {m : μ} {f : Fault} : loading = .ok m → access m = .error f → Meets loading access f

/-- The word for what two steps come to. -/
structure Worded (module : String) (loading : Outcome μ) (access : μ → Outcome α)
    (word : String) : Prop where
  available : word = "available" ↔ ∃ m a, loading = .ok m ∧ access m = .ok a
  missing : word = "missing" ↔ ∃ f, loading = .error f ∧ NotThere module f
  incompatible : word = "incompatible" ↔
    (∃ f, loading = .error f ∧ Unloadable f ∧ ¬ NotThere module f) ∨
    ∃ m f, loading = .ok m ∧ access m = .error f ∧ f.family = .member
  failed : word = "failed" ↔
    (∃ f, loading = .error f ∧ ¬ Unloadable f) ∨
    ∃ m f, loading = .ok m ∧ access m = .error f ∧ f.family ≠ .member

/-- What a probe comes to, by the outcomes of its two steps. -/
structure Sorted (module : String) (loading : Outcome μ) (access : μ → Outcome α)
    (p : Probed α) : Prop where
  /-- The value is that of the accessor, and there is no failure beside it. -/
  value : ∀ m a, loading = .ok m → access m = .ok a →
    p.value? = some a ∧ p.fault? = none ∧ ∀ other, p.valueOr other = a
  /-- The failure is the one that was met, and there is no value beside it. -/
  fault : ∀ f, Meets loading access f →
    p.value? = none ∧ p.fault? = some f ∧ ∀ other, p.valueOr other = other
  worded : Worded module loading access p.status

variable {module : String} {loading : Outcome μ} {access : μ → Outcome α}

/-- A probe keeps the failure that it meets and has no value then. -/
theorem probed_of_meets (module : String) {f : Fault} (h : Meets loading access f) :
    (probed module loading access).value? = none ∧
    (probed module loading access).fault? = some f := by
  cases h with
  | loading hloading =>
    rw [hloading, probed_of_load_error]
    by_cases hnot : NotThere module f
    · rw [ofLoadFailure_of_notThere hnot]
      exact ⟨rfl, rfl⟩
    · by_cases hload : Unloadable f
      · rw [ofLoadFailure_of_unloadable hload hnot]
        exact ⟨rfl, rfl⟩
      · rw [ofLoadFailure_of_not_unloadable hload]
        exact ⟨rfl, rfl⟩
  | access hloading haccess =>
    rw [hloading, probed_of_access_error module access haccess]
    obtain hp | hp := ofAccessFailure_cases f
    · rw [hp]
      exact ⟨rfl, rfl⟩
    · rw [hp]
      exact ⟨rfl, rfl⟩

theorem worded_probed (module : String) (loading : Outcome μ) (access : μ → Outcome α) :
    Worded module loading access (probed module loading access).status := by
  rcases loading with f | m
  · rw [probed_of_load_error]
    by_cases hload : Unloadable f
    · by_cases hnot : NotThere module f
      · rw [ofLoadFailure_of_notThere hnot]
        constructor <;> simp [Probed.status, hload, hnot]
      · rw [ofLoadFailure_of_unloadable hload hnot]
        constructor <;> simp [Probed.status, hload, hnot]
    · have hnot : ¬ NotThere module f := mt NotThere.unloadable hload
      rw [ofLoadFailure_of_not_unloadable hload]
      constructor <;> simp [Probed.status, hload, hnot]
  · rcases haccess : access m with f | a
    · rw [probed_of_access_error module access haccess]
      by_cases hmember : f.family = .member
      · rw [ofAccessFailure_of_member hmember]
        constructor <;> simp [Probed.status, haccess, hmember]
      · rw [ofAccessFailure_of_not_member hmember]
        constructor <;> simp [Probed.status, haccess, hmember]
    · rw [probed_of_access_ok module access haccess]
      constructor <;> simp [Probed.status, haccess]

theorem sorted_probed (module : String) (loading : Outcome μ) (access : μ → Outcome α) :
    Sorted module loading access (probed module loading access) where
  value m a hloading haccess := by
    rw [hloading, probed_of_access_ok module access haccess]
    exact ⟨rfl, rfl, fun _ => rfl⟩
  fault f h := by
    obtain ⟨hvalue, hfault⟩ := probed_of_meets module h
    refine ⟨hvalue, hfault, fun other => ?_⟩
    rw [Probed.valueOr, hvalue]
    rfl
  worded := worded_probed module loading access

/-- **A probe sorts whatever it meets and never fails itself.**  If no step fails but
ordinarily, there is a result: a value if both steps succeed, and else the failure that
was met, under the word for its step and its family.  The accessor is run on the module
that was loaded and leaves behind what it does; without one it is not run, and nothing
depends on it. -/
theorem probe_sorts (module : String) (loading : Outcome μ) (accessor : μ → Traced α)
    (hloading : Ordinary loading)
    (haccess : ∀ m, loading = .ok m → Ordinary (accessor m).outcome) :
    ∃ p, (probe module loading accessor).outcome = .ok p ∧
      Sorted module loading (fun m => (accessor m).outcome) p ∧
      (∀ m, loading = .ok m → (probe module loading accessor).events = (accessor m).events) ∧
      ∀ f, loading = .error f → (probe module loading accessor).events = [] ∧
        ∀ other : μ → Traced α, probe module loading other = probe module loading accessor := by
  have heq := probe_eq module hloading haccess
  refine ⟨_, outcome_probe module hloading haccess, sorted_probed module loading _, ?_, ?_⟩
  · intro m hm
    rw [heq, hm]
    rfl
  · intro f hf
    subst hf
    refine ⟨?_, fun other => ?_⟩
    · rw [heq]
      rfl
    · -- both accessors satisfy the condition, since there is no module to run them on
      rw [heq, probe_eq module hloading fun _ hm => nomatch hm]
      rfl

/-- A name that begins the text of another one is not that of a package around it. -/
theorem probe_sorts_sibling :
    let loading : Outcome Unit := .error (.noModule "hadoop.sec")
    Ordinary loading ∧
    ∃ p : Probed Unit, (probe "hadoop.security" loading fun _ => pure ()).outcome = .ok p ∧
      p.status = "incompatible" ∧ p.fault? = some (.noModule "hadoop.sec") := by
  intro loading
  have hloading : Ordinary loading := .error rfl
  refine ⟨hloading, ?_⟩
  obtain ⟨p, hp, hsorted, -⟩ :=
    probe_sorts "hadoop.security" loading (fun _ => pure ()) hloading nofun
  have hsibling : ¬ NotThere "hadoop.security" (.noModule "hadoop.sec") := by
    rintro ⟨name, hname, hpieces⟩
    cases hname
    revert hpieces
    decide
  exact ⟨p, hp, hsorted.worded.incompatible.2 (.inl ⟨_, rfl, .missing rfl, hsibling⟩),
    (hsorted.fault _ (.loading rfl)).2.1⟩

end

end StartupReport.Probe
