/-
StartupReport/Proofs/Build/Collection.lean

What goes into a version file.

Properties are collected from two sides: what is told about the build, and what
is detected about its commit, which wins (`outcome_collect_eq_ok_iff`).  If a
commit was detected they are complete, and complete properties are the ones that
can be rendered (`render_eq_ok_iff`), in characters that have a byte each
(`exists_encode?_of_render`).  Of what is told only the version's own entry
depends on the version (`valueOf_collected_congr`).
-/
import StartupReport.Proofs.Build.VersionFileLookup

namespace StartupReport.Build

open Calendar (Moment writeTimestamp)

/-! ### Rendering -/

theorem complete_of_mapM_renderEntry {ps : Properties} {keys : List String}
    {lines : List (List Char)} (h : keys.mapM (renderEntry ps) = .ok lines) :
    ∀ key ∈ keys, (Entries.get? ps key).isSome = true := by
  induction keys generalizing lines with
  | nil => exact fun key hkey => absurd hkey List.not_mem_nil
  | cons key keys ih =>
    rw [List.mapM_cons] at h
    rcases hvalue : Entries.get? ps key with - | value
    · rw [renderEntry, hvalue] at h
      cases h
    rcases hrest : keys.mapM (renderEntry ps) with e | rest
    · rw [hrest, renderEntry, hvalue] at h
      cases h
    refine List.forall_mem_cons.2 ⟨?_, ih hrest⟩
    rw [hvalue, Option.isSome_some]

/-- Complete properties are rendered, and no others. -/
theorem render_eq_ok_iff {ps : Properties} {text : List Char} :
    render ps = .ok text ↔ Complete ps ∧ text = Properties.escape (plainText ps) := by
  constructor
  · intro h
    have hcomplete : Complete ps := by
      rcases hlines : keyOrder.mapM (renderEntry ps) with e | lines
      · rw [render, hlines] at h
        cases h
      · exact complete_of_mapM_renderEntry hlines
    rw [render_eq hcomplete] at h
    exact ⟨hcomplete, (Except.ok.inj h).symm⟩
  · rintro ⟨hcomplete, rfl⟩
    exact render_eq hcomplete

/-- A version file has bytes. -/
theorem exists_encode?_of_render {ps : Properties} {text : List Char} (h : render ps = .ok text) :
    ∃ bytes, Text.Latin1.encode? text = some bytes := by
  obtain ⟨-, rfl⟩ := render_eq_ok_iff.1 h
  exact ⟨_, Text.Latin1.encode?_eq_some_iff.2
    ⟨List.all_eq_true.2 fun c hc => Properties.holds_of_mem_escape hc, rfl⟩⟩

/-! ### Collecting -/

/-- What is told about a build made at a time. -/
def told (d : Description) (time : Moment) : Properties :=
  [(projectVersionKey, d.recordedVersion), (toolchainVersionKey, d.recordedToolchain),
   (buildTimeKey, writeTimestamp time)]

/-- What is told about a build, and over it what is detected. -/
def collected (d : Description) (time : Moment) (detected : Properties) : Properties :=
  Entries.update (told d time) detected

/-- The keys of a commit. -/
def commitKeys : List String := [commitIdKey, commitIdAbbrevKey, commitTimeKey]

/-- Every key of a commit has a value. -/
def HoldsCommit (detected : Properties) : Prop :=
  ∀ key ∈ commitKeys, (Entries.get? detected key).isSome = true

instance (detected : Properties) : Decidable (HoldsCommit detected) := by
  unfold HoldsCommit; infer_instance

theorem outcome_collect_eq_ok_iff {d : Description} {time : Moment}
    {detection : Traced Properties} {ps : Properties} :
    (collect d time detection).outcome = .ok ps ↔
      ∃ detected, detection.outcome = .ok detected ∧ ps = collected d time detected := by
  unfold collect
  rw [Traced.outcome_bind_eq_ok_iff]
  simp only [Traced.outcome_pure, Except.ok.injEq, collected, told, eq_comm]

section
variable {d : Description} {time : Moment} {detected : Properties}

/-- What is detected wins over what is told. -/
theorem get?_collected (key : String) :
    Entries.get? (collected d time detected) key
      = (Entries.get? (Entries.ofPairs detected) key).or (Entries.get? (told d time) key) :=
  Entries.get?_update (told d time) detected key

/-- What is not detected is as it was told. -/
theorem get?_collected_of_none {key : String} (h : Entries.get? detected key = none) :
    Entries.get? (collected d time detected) key = Entries.get? (told d time) key := by
  have hnone : Entries.get? (Entries.ofPairs detected) key = none := by
    rw [Entries.get?_ofPairs_eq_none_iff]
    exact (Entries.get?_eq_none_iff detected key).1 h
  rw [get?_collected, hnone, Option.none_or]

variable (d time) in
/-- With a commit, everything that goes into a version file is there. -/
theorem complete_collected (h : HoldsCommit detected) :
    Complete (collected d time detected) := by
  intro key hkey
  have hsides : key ∈ commitKeys ∨
      key ∈ [projectVersionKey, toolchainVersionKey, buildTimeKey] := by
    revert key
    decide
  rw [get?_collected, Option.isSome_iff_ne_none, Ne, Option.or_eq_none_iff, not_and_or]
  rcases hsides with hcommit | htold
  · left
    rw [Entries.get?_ofPairs_eq_none_iff, not_not]
    have hsome := h key hcommit
    rw [Option.isSome_iff_ne_none, Ne, Entries.get?_eq_none_iff, not_not] at hsome
    exact hsome
  · right
    rw [Entries.get?_eq_none_iff, not_not]
    exact htold

end

/-- Descriptions that differ in the version give the same values to the keys after
it. -/
theorem valueOf_collected_congr (d : Description) (v₁ v₂ : Option String) (time : Moment)
    (detected : Properties) {key : String} (hkey : key ∈ laterKeys) :
    valueOf (collected { d with projectVersion := v₁ } time detected) key
      = valueOf (collected { d with projectVersion := v₂ } time detected) key := by
  have hne : projectVersionKey ≠ key := by
    rintro rfl
    exact not_mem_laterKeys hkey
  have htold (v : Option String) : Entries.get? (told { d with projectVersion := v } time) key
      = Entries.get? [(toolchainVersionKey, d.recordedToolchain),
          (buildTimeKey, writeTimestamp time)] key := if_neg hne
  rw [valueOf, valueOf, get?_collected, get?_collected, htold, htold]

end StartupReport.Build
