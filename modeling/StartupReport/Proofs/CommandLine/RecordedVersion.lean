/-
StartupReport/Proofs/CommandLine/RecordedVersion.lean

The version in a version file: what becomes of it, and what it does to the rest.

The version is free text, and its line ends and leading blanks are written as
they are.  So it does not always come back: `loaded_version_iff` says exactly
when the version that is loaded is the one that was recorded.  A line end cuts
it, blanks in front of it are lost, and a line inside one of the later values
may spell another version.

But a version does no harm to the other values.  Whatever lines it brings in,
the lines of the other keys come after them and win, so two files that differ in
the version alone resolve to metadata of one build, or to the same fault
(`sameBuild_of_versions`).
-/
import StartupReport.Proofs.CommandLine.WrittenBuild

namespace StartupReport.CommandLine

open Build
open Calendar (Moment)
open Properties (OnOneLine Survives)

/-! ### The version that is loaded -/

/-- The version that lines inside the later values spell, if they spell one. -/
def spelledVersion? (ps : Properties) : Option String :=
  Entries.get? (Entries.ofPairs (held ps laterKeys)) projectVersionKey

/-- Whatever version is read survives. -/
theorem survives_property_version {ps : Properties} {bytes : List UInt8}
    (hread : Properties.parseBytes bytes = Entries.ofPairs (held ps keyOrder)) :
    Survives (property (Properties.parseBytes bytes) projectVersionKey unknown).toList := by
  rw [hread, property]
  rcases hvalue : Entries.get? (Entries.ofPairs (held ps keyOrder)) projectVersionKey with - | value
  · show Survives unknown.toList
    decide
  · show Survives (valueOr unknown value).toList
    rw [valueOr]
    split
    · decide
    · rw [← readPlain_plainText] at hvalue
      exact Properties.survives_of_mem_readPlain (Entries.mem_of_get? hvalue)

/-- A version that a later value spells is loaded. -/
theorem property_version_of_spelled {ps : Properties} {w : String}
    (h : spelledVersion? ps = some w) :
    property (Entries.ofPairs (held ps keyOrder)) projectVersionKey unknown = valueOr unknown w := by
  rw [property, get?_held, ← spelledVersion?, h, Option.some_or]
  rfl

/-- Otherwise a version that survives is loaded as it was recorded. -/
theorem property_version_of_survives {ps : Properties} (h : spelledVersion? ps = none)
    (hs : Survives (valueOf ps projectVersionKey).toList) :
    property (Entries.ofPairs (held ps keyOrder)) projectVersionKey unknown
      = valueOr unknown (valueOf ps projectVersionKey) := by
  rw [property, get?_held, ← spelledVersion?, h, Option.none_or, get?_held_version hs]
  rfl

section
variable {h : Host} {output : Option String} {d : Description} {t : Moment}
  {detection : Traced Properties} {detected : Properties} {version : String}

/-- A version that is told, and of which nothing is detected, is recorded. -/
theorem valueOf_version (hversion : d.projectVersion = some version) (hne : version ≠ "")
    (hfree : Entries.get? detected projectVersionKey = none) :
    valueOf (collected d t detected) projectVersionKey = version := by
  have hrecorded : d.recordedVersion = version := by
    rw [Description.recordedVersion, hversion, told?, Option.filter_some,
      if_pos (by simpa using hne), Option.getD_some]
  rw [valueOf, get?_collected_of_none hfree, told, Entries.get?, if_pos rfl, Option.getD_some,
    hrecorded]

/-- Whatever version is loaded survives. -/
theorem survives_loaded_version (hdetection : detection.outcome = .ok detected)
    {bytes : List UInt8} (hwrites : Writes (writeVersionFile h output d (.ok t) detection) bytes)
    {m : Metadata} (hload : (load (.holding bytes)).outcome = .ok m) :
    Survives m.projectVersion.toList := by
  obtain ⟨_, ps, _, _, _, hread⟩ := exists_held_of_writes hdetection hwrites
  rw [(outcome_load_holding_eq_ok_iff.1 hload).projectVersion]
  exact survives_property_version hread

/-- **The version that is loaded.**  A version is recorded that is there and no
placeholder, and the file resolves.  Then the version that is loaded is the one
that was recorded iff it has no line end and no blank up to U+00FF in front, and
no line inside a later value spells another version.  Values without line ends
spell none. -/
theorem loaded_version_iff (hversion : d.projectVersion = some version) (hne : version ≠ "")
    (hmark : version.toList.head? ≠ some '$') (hdetection : detection.outcome = .ok detected)
    (hfree : Entries.get? detected projectVersionKey = none) {bytes : List UInt8}
    (hwrites : Writes (writeVersionFile h output d (.ok t) detection) bytes) {m : Metadata}
    (hload : (load (.holding bytes)).outcome = .ok m) :
    (m.projectVersion = version ↔ Survives version.toList ∧
      ∀ w, spelledVersion? (collected d t detected) = some w → valueOr unknown w = version) ∧
    ((∀ key ∈ laterKeys, OnOneLine (valueOf (collected d t detected) key).toList) →
      spelledVersion? (collected d t detected) = none) := by
  obtain ⟨t', ps, ht, rfl, -, hread⟩ := exists_held_of_writes hdetection hwrites
  obtain rfl : t = t' := Except.ok.inj ht
  have hvalue := valueOf_version (t := t) hversion hne hfree
  have hloaded := (outcome_load_holding_eq_ok_iff.1 hload).projectVersion
  refine ⟨⟨?_, ?_⟩, get?_held_version_of_onOneLine⟩
  · -- what is loaded survives in any case, so a version that comes back does
    intro hback
    rw [← hback]
    refine ⟨survives_loaded_version hdetection hwrites hload, fun w hw => ?_⟩
    rw [hloaded, hread, property_version_of_spelled hw]
  · -- the later lines are asked first, and the version's own line only if they are silent
    rintro ⟨hsurvives, hspelled⟩
    rw [hloaded, hread]
    rcases hw : spelledVersion? (collected d t detected) with - | w
    · rw [property_version_of_survives hw (hvalue.symm ▸ hsurvives), hvalue,
        valueOr_of_ne hne hmark]
    · rw [property_version_of_spelled hw, hspelled w hw]

end

/-- A version with a slash and a trailing blank comes back. -/
theorem loaded_version_with_blank :
    ∃ bytes m,
      Writes (writeVersionFile bareHost (some "v.properties") ⟨some "1.0/beta ", none, (3, 11)⟩
        (.ok noon) (detect "/" someReplies)) bytes ∧
      (load (.holding bytes)).outcome = .ok m ∧ m.projectVersion = "1.0/beta " := by
  obtain ⟨bytes, m, hwrites, hload, -⟩ := exists_load_recordedBuild (some "1.0/beta ") (3, 11) "/"
    writable_bareHost dependable_someReplies recordable_noon.read recordable_noon.shown
  have hlater := survives_recordedBuild (some "1.0/beta ") (3, 11) dependable_someReplies
    recordable_noon.read
  obtain ⟨hiff, hspells⟩ := loaded_version_iff rfl (by decide) (by decide)
    (outcome_detect "/" dependable_someReplies.refused) rfl hwrites hload
  have hnone := hspells fun key hkey => (hlater key hkey).onOneLine
  refine ⟨bytes, m, hwrites, hload, hiff.2 ⟨by decide, fun w hw => ?_⟩⟩
  rw [hnone] at hw
  cases hw

/-- A version with a line feed does not: its end is lost. -/
theorem loaded_version_ne :
    "1.0\nbeta" ≠ "" ∧ "1.0\nbeta".toList.head? ≠ some '$' ∧
      ∃ bytes m,
        Writes (writeVersionFile bareHost (some "v.properties") ⟨some "1.0\nbeta", none, (3, 11)⟩
          (.ok noon) (detect "/" someReplies)) bytes ∧
        (load (.holding bytes)).outcome = .ok m ∧ m.projectVersion ≠ "1.0\nbeta" := by
  obtain ⟨bytes, m, hwrites, hload, -⟩ := exists_load_recordedBuild (some "1.0\nbeta") (3, 11) "/"
    writable_bareHost dependable_someReplies recordable_noon.read recordable_noon.shown
  refine ⟨by decide, by decide, bytes, m, hwrites, hload, fun hback => ?_⟩
  have hsurvives := survives_loaded_version (outcome_detect "/" dependable_someReplies.refused)
    hwrites hload
  rw [hback] at hsurvives
  exact absurd hsurvives (by decide)

/-! ### What a version does to the other values -/

/-- **Versions do no harm.**  Two version files whose builds differ in the version
alone, with a commit detected, are written wherever a file can be.  They resolve
to the same fault, or to metadata that agree on everything but the version. -/
theorem sameBuild_of_versions {h : Host} {output : Option String} (hwritable : Writable h output)
    (d : Description) (t : Moment) {detection : Traced Properties} {detected : Properties}
    (hdetection : detection.outcome = .ok detected) (hcommit : HoldsCommit detected)
    (v₁ v₂ : Option String) :
    ∃ bytes₁ bytes₂,
      Writes (writeVersionFile h output { d with projectVersion := v₁ } (.ok t) detection) bytes₁ ∧
      Writes (writeVersionFile h output { d with projectVersion := v₂ } (.ok t) detection) bytes₂ ∧
      ((∃ e, (load (.holding bytes₁)).outcome = .error e ∧
          (load (.holding bytes₂)).outcome = .error e) ∨
        ∃ m n, (load (.holding bytes₁)).outcome = .ok m ∧
          (load (.holding bytes₂)).outcome = .ok n ∧ m.SameBuild n) := by
  obtain ⟨bytes₁, hwrites₁⟩ := exists_writes hwritable t hdetection hcommit
  obtain ⟨bytes₂, hwrites₂⟩ := exists_writes hwritable t hdetection hcommit
  refine ⟨bytes₁, bytes₂, hwrites₁, hwrites₂, ?_⟩
  obtain ⟨t₁, ps, ht₁, rfl, -, hread₁⟩ := exists_held_of_writes hdetection hwrites₁
  obtain ⟨t₂, qs, ht₂, rfl, -, hread₂⟩ := exists_held_of_writes hdetection hwrites₂
  obtain rfl : t = t₁ := Except.ok.inj ht₁
  obtain rfl : t = t₂ := Except.ok.inj ht₂
  -- on the other keys both files say the same, whatever lines the versions bring in
  have hlater : ∀ key ∈ laterKeys, Entries.get? (Properties.parseBytes bytes₁) key
      = Entries.get? (Properties.parseBytes bytes₂) key := by
    intro key hkey
    rw [hread₁, hread₂, get?_held_later hkey, get?_held_later hkey,
      held_congr fun k hk => valueOf_collected_congr d v₁ v₂ t detected hk]
  have hresolve := congrArg Traced.outcome (ofProperties_congr hlater displayZone)
  rw [Traced.outcome_map, ← outcome_load_holding, ← outcome_load_holding] at hresolve
  rcases hfirst : (load (.holding bytes₁)).outcome with e | m
  · exact .inl ⟨e, rfl, by rw [hresolve, hfirst]; rfl⟩
  · let version := property (Properties.parseBytes bytes₂) projectVersionKey unknown
    refine .inr ⟨m, { m with projectVersion := version }, rfl, ?_,
      ⟨rfl, rfl, rfl, rfl, rfl, rfl, rfl⟩⟩
    rw [hresolve, hfirst]
    rfl

/-- A version that brings in a commit of its own does no harm. -/
theorem sameBuild_of_injected_commit :
    Writable bareHost (some "v.properties") ∧
      HoldsCommit (commitProperties someReplies) ∧
      ∃ bytes₁ bytes₂,
        Writes (writeVersionFile bareHost (some "v.properties") ⟨none, none, (3, 11)⟩
          (.ok noon) (detect "/" someReplies)) bytes₁ ∧
        Writes (writeVersionFile bareHost (some "v.properties")
          ⟨some "1.0\ngit.commit.id=0badc0de\n\\", none, (3, 11)⟩
          (.ok noon) (detect "/" someReplies)) bytes₂ ∧
        ((∃ e, (load (.holding bytes₁)).outcome = .error e ∧
            (load (.holding bytes₂)).outcome = .error e) ∨
          ∃ m n, (load (.holding bytes₁)).outcome = .ok m ∧
            (load (.holding bytes₂)).outcome = .ok n ∧ m.SameBuild n) := by
  have hdetection := outcome_detect "/" dependable_someReplies.refused
  have hcommit := holdsCommit_commitProperties someReplies
  exact ⟨writable_bareHost, hcommit, sameBuild_of_versions writable_bareHost ⟨none, none, (3, 11)⟩
    noon hdetection hcommit none (some "1.0\ngit.commit.id=0badc0de\n\\")⟩

end StartupReport.CommandLine
