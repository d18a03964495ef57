/-
StartupReport/Proofs/Build/MetadataFields.lean

Where the fields of metadata come from.

`Describes` says it field by field: a text is the value of its key or the
default, an instant is what its timestamp names, a display string is the
instant on the clocks of the zone.  Properties resolve to metadata iff they
describe it (`ofProperties_eq_ok_iff`).

Each field has a key of its own.  So properties that differ only in the version
resolve alike: to the same fault, or to metadata with all other fields in
common (`ofProperties_congr`).  In particular a version file whose later values
survive resolves to what was recorded, the version apart
(`outcome_load_of_survives`).
-/
import StartupReport.Proofs.Build.Resolution
import StartupReport.Proofs.Build.VersionFileLookup

namespace StartupReport.Build

open Calendar (Error Instant Zone Zones readTimestamp)
open Properties (Survives)

/-! ### Values and defaults -/

/-- A value, or a default if it is unset. -/
def valueOr (fallback value : String) : String := if isUnset value then fallback else value

/-- A missing value is as good as an empty one. -/
theorem property_eq_valueOr (ps : Properties) (key fallback : String) :
    property ps key fallback = valueOr fallback (valueOf ps key) := by
  rw [property, valueOf]
  rcases Entries.get? ps key with - | value
  · rfl
  · rfl

theorem isUnset_eq_false_iff {value : String} :
    isUnset value = false ↔ value ≠ "" ∧ value.toList.head? ≠ some '$' := by
  rw [isUnset, Ne, ← String.toList_eq_nil_iff]
  rcases value.toList with - | ⟨c, cs⟩
  · simp
  · simp [placeholderMarker]

/-- A value that is there and no placeholder counts. -/
theorem valueOr_of_ne {fallback value : String} (hne : value ≠ "")
    (hmark : value.toList.head? ≠ some '$') : valueOr fallback value = value := by
  rw [valueOr, isUnset_eq_false_iff.2 ⟨hne, hmark⟩]
  rfl

/-- A placeholder gives way to the default. -/
theorem valueOr_of_mark {fallback value : String} (hmark : value.toList.head? = some '$') :
    valueOr fallback value = fallback := by
  have hunset : isUnset value = true := by
    by_contra h
    exact (isUnset_eq_false_iff.1 (Bool.eq_false_iff.2 h)).2 hmark
  rw [valueOr, if_pos hunset]

/-- The default of a timestamp names the epoch. -/
theorem readTimestamp_epochText : readTimestamp epochText = .ok .epoch := by decide +kernel

/-! ### Metadata described by properties -/

/-- The fields of metadata are those that properties give them. -/
structure Describes (zone : Zone) (ps : Properties) (m : Metadata) : Prop where
  projectVersion : m.projectVersion = property ps projectVersionKey unknown
  toolchainVersion : m.toolchainVersion = property ps toolchainVersionKey unknown
  commitId : m.commitId = property ps commitIdKey unknownCommitId
  commitIdAbbrev : m.commitIdAbbrev = property ps commitIdAbbrevKey unknownCommitIdAbbrev
  commitTime : readTimestamp (timeText ps commitTimeKey) = .ok m.commitTime
  buildTime : readTimestamp (timeText ps buildTimeKey) = .ok m.buildTime
  commitTimeDisplay : zone.display m.commitTime = .ok m.commitTimeDisplay
  buildTimeDisplay : zone.display m.buildTime = .ok m.buildTimeDisplay

theorem outcome_timeOf_eq_ok_iff {ps : Properties} {key : String} {t : Instant} :
    (timeOf ps key).outcome = .ok t ↔ readTimestamp (timeText ps key) = .ok t := by
  rcases h : readTimestamp (timeText ps key) with e | u
  · by_cases he : e = .outOfRange
    · rw [timeOf_of_outOfRange (he ▸ h)]
      simp [Traced.fail]
    · rw [timeOf_of_malformed h he]
      simp
  · rw [timeOf_of_ok h, Traced.outcome_pure, Except.ok.injEq, Except.ok.injEq]

theorem outcome_displayIn_eq_ok_iff {zone : Zone} {t : Instant} {text : String} :
    (displayIn zone t).outcome = .ok text ↔ zone.display t = .ok text := by
  rcases h : zone.display t with e | shown
  · rw [displayIn_of_error h]
    simp [Traced.fail]
  · rw [displayIn_of_ok h, Traced.outcome_pure, Except.ok.injEq, Except.ok.injEq]

/-- Properties resolve to metadata iff they describe it. -/
theorem ofProperties_eq_ok_iff {ps : Properties} {zoneName : String} {zones : Zones}
    {m : Metadata} :
    (Metadata.ofProperties ps zoneName zones).outcome = .ok m ↔
      ∃ zone, zones zoneName = some zone ∧ Describes zone ps m := by
  unfold Metadata.ofProperties
  rcases zones zoneName with - | zone
  · simp [Traced.fail]
  simp only [Option.some.injEq, exists_eq_left', Traced.outcome_bind_eq_ok_iff,
    outcome_timeOf_eq_ok_iff, outcome_displayIn_eq_ok_iff, Traced.outcome_pure, Except.ok.injEq]
  constructor
  · rintro ⟨commitTime, hcommit, buildTime, hbuild, buildText, hbuildText, commitText, hcommitText,
      rfl⟩
    exact ⟨rfl, rfl, rfl, rfl, hcommit, hbuild, hcommitText, hbuildText⟩
  · rintro ⟨hversion, htoolchain, hid, habbrev, hcommit, hbuild, hcommitText, hbuildText⟩
    refine ⟨_, hcommit, _, hbuild, _, hbuildText, _, hcommitText, ?_⟩
    rw [← hversion, ← htoolchain, ← hid, ← habbrev]

/-! ### A resource that can be read -/

/-- A version resource that is there, with some bytes. -/
def Resource.holding (bytes : List UInt8) : Resource := ⟨.ok (.bool true), .ok (), bytes⟩

theorem isReadable_holding (bytes : List UInt8) : (Resource.holding bytes).IsReadable :=
  ⟨⟨.bool true, rfl, rfl⟩, rfl⟩

theorem outcome_load_holding (bytes : List UInt8) :
    (load (.holding bytes)).outcome
      = (Metadata.ofProperties (Properties.parseBytes bytes)).outcome := by
  rw [load_of_readable (isReadable_holding bytes)]
  rfl

/-- A resource that can be read resolves to metadata iff its properties describe it,
with times shown in Berlin. -/
theorem outcome_load_holding_eq_ok_iff {bytes : List UInt8} {m : Metadata} :
    (load (.holding bytes)).outcome = .ok m ↔
      Describes .berlin (Properties.parseBytes bytes) m := by
  simp only [outcome_load_holding, ofProperties_eq_ok_iff, named?_displayZone, Option.some.injEq,
    exists_eq_left']

/-! ### Properties that differ in the version -/

/-- Metadata of one build, whatever its version. -/
structure Metadata.SameBuild (m n : Metadata) : Prop where
  toolchainVersion : m.toolchainVersion = n.toolchainVersion
  commitId : m.commitId = n.commitId
  commitIdAbbrev : m.commitIdAbbrev = n.commitIdAbbrev
  commitTime : m.commitTime = n.commitTime
  buildTime : m.buildTime = n.buildTime
  commitTimeDisplay : m.commitTimeDisplay = n.commitTimeDisplay
  buildTimeDisplay : m.buildTimeDisplay = n.buildTimeDisplay

/-- Properties that agree on the keys after the version resolve alike: the version
is put into the metadata at the very end. -/
theorem ofProperties_congr {ps qs : Properties}
    (h : ∀ key ∈ laterKeys, Entries.get? ps key = Entries.get? qs key) (zoneName : String) :
    Metadata.ofProperties qs zoneName
      = (fun m => { m with projectVersion := property qs projectVersionKey unknown })
          <$> Metadata.ofProperties ps zoneName := by
  have hproperty (key fallback : String) (hkey : key ∈ laterKeys) :
      property qs key fallback = property ps key fallback := by
    rw [property, property, h key hkey]
  have htime (key : String) (hkey : key ∈ laterKeys) : timeOf qs key = timeOf ps key := by
    rw [timeOf, timeOf, hproperty key epochText hkey]
  unfold Metadata.ofProperties
  rcases Zone.named? zoneName with - | zone
  · rfl
  simp only [htime commitTimeKey (by decide), htime buildTimeKey (by decide),
    hproperty toolchainVersionKey unknown (by decide),
    hproperty commitIdKey unknownCommitId (by decide),
    hproperty commitIdAbbrevKey unknownCommitIdAbbrev (by decide), Traced.map_bind]
  rfl

/-- A version file whose later values survive resolves to what was recorded in it,
the version apart. -/
theorem outcome_load_of_survives {ps : Properties} {bytes : List UInt8} {m : Metadata}
    (hcomplete : Complete ps)
    (hread : Properties.parseBytes bytes = Entries.ofPairs (held ps keyOrder))
    (hsurvives : ∀ key ∈ laterKeys, Survives (valueOf ps key).toList)
    (hdescribes : Describes .berlin ps m) :
    (load (.holding bytes)).outcome = .ok { m with
      projectVersion := property (Properties.parseBytes bytes) projectVersionKey unknown } := by
  -- the properties in the file differ from those recorded in the version at most
  have hrecorded : (Metadata.ofProperties ps).outcome = .ok m :=
    ofProperties_eq_ok_iff.2 ⟨.berlin, named?_displayZone, hdescribes⟩
  have hlater : ∀ key ∈ laterKeys,
      Entries.get? ps key = Entries.get? (Properties.parseBytes bytes) key := by
    intro key hkey
    rw [get?_eq_valueOf hcomplete (laterKeys_subset hkey), hread,
      get?_held_of_survives hsurvives hkey]
  rw [outcome_load_holding, ofProperties_congr hlater, Traced.outcome_map, hrecorded]
  rfl

end StartupReport.Build
