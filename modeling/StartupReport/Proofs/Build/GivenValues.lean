/-
StartupReport/Proofs/Build/GivenValues.lean

What the properties of a version file give, and what the metadata make of it.

Properties give a key a value if one is there that is neither empty nor still a
placeholder (`Gives`), and omit the key otherwise (`Omits`).  `HoldsText` and
`HoldsTime` say what a field holds in either case: the value or a default, the
instant that the value names or the epoch.  `Spelled` says it of all fields.

Main result: in every zone that there is, properties resolve to metadata iff
they spell it (`outcome_ofProperties_spec`).  So a timestamp that is given and
names no instant never turns into the epoch; if it is malformed, the fault names
its key, and of two malformed timestamps the commit's comes first.
-/
import StartupReport.Proofs.Build.MetadataFields

namespace StartupReport.Build

open Calendar (Error Instant Zone Zones readTimestamp)

/-! ### Values that are given -/

/-- Properties give a key a value: one that is there, not empty and no
placeholder. -/
def Gives (ps : Properties) (key value : String) : Prop :=
  Entries.get? ps key = some value ∧ value ≠ "" ∧ value.toList.head? ≠ some '$'

/-- Properties omit a key: it is missing, empty or a placeholder. -/
def Omits (ps : Properties) (key : String) : Prop := ∀ value, ¬ Gives ps key value

section
variable {ps : Properties} {key value : String}

theorem property_of_gives (h : Gives ps key value) (fallback : String) :
    property ps key fallback = value := by
  obtain ⟨hget, hvalue⟩ := h
  simp only [property, hget, isUnset_eq_false_iff.2 hvalue, Bool.false_eq_true, if_false]

theorem property_of_omits (h : Omits ps key) (fallback : String) :
    property ps key fallback = fallback := by
  rcases hget : Entries.get? ps key with - | value
  · rw [property, hget]
  · have hunset : isUnset value = true := by
      by_contra hset
      exact h value ⟨hget, isUnset_eq_false_iff.1 (Bool.eq_false_iff.2 hset)⟩
    simp only [property, hget, hunset, if_true]

theorem gives_or_omits (ps : Properties) (key : String) :
    (∃ value, Gives ps key value) ∨ Omits ps key := by
  by_cases h : ∃ value, Gives ps key value
  · exact .inl h
  · exact .inr (not_exists.1 h)

end

/-! ### Fields -/

/-- A field of text holds the value that its key is given, or a default. -/
inductive HoldsText (ps : Properties) (key fallback : String) : String → Prop
  | given {value : String} (h : Gives ps key value) : HoldsText ps key fallback value
  | omitted (h : Omits ps key) : HoldsText ps key fallback fallback

/-- A field of time holds the instant that the value of its key names, or the
epoch if the key is omitted. -/
inductive HoldsTime (ps : Properties) (key : String) : Instant → Prop
  | given {value : String} {t : Instant} (h : Gives ps key value)
      (names : readTimestamp value = .ok t) : HoldsTime ps key t
  | omitted (h : Omits ps key) : HoldsTime ps key .epoch

section
variable {ps : Properties} {key : String}

theorem holdsText_iff {fallback text : String} :
    HoldsText ps key fallback text ↔ text = property ps key fallback := by
  constructor
  · intro h
    cases h with
    | given h => exact (property_of_gives h fallback).symm
    | omitted h => exact (property_of_omits h fallback).symm
  · rintro rfl
    obtain ⟨value, h⟩ | h := gives_or_omits ps key
    · rw [property_of_gives h]
      exact .given h
    · rw [property_of_omits h]
      exact .omitted h

theorem timeText_of_gives {value : String} (h : Gives ps key value) : timeText ps key = value :=
  property_of_gives h epochText

theorem holdsTime_iff {t : Instant} :
    HoldsTime ps key t ↔ readTimestamp (timeText ps key) = .ok t := by
  constructor
  · intro h
    cases h with
    | given h names => rw [timeText_of_gives h, names]
    | omitted h => rw [timeText, property_of_omits h, readTimestamp_epochText]
  · intro hread
    obtain ⟨value, h⟩ | h := gives_or_omits ps key
    · exact .given h (timeText_of_gives h ▸ hread)
    · rw [timeText, property_of_omits h, readTimestamp_epochText] at hread
      cases hread
      exact .omitted h

end

/-- Metadata as properties spell it, with times shown in a zone. -/
structure Spelled (zone : Zone) (ps : Properties) (m : Metadata) : Prop where
  projectVersion : HoldsText ps projectVersionKey unknown m.projectVersion
  toolchainVersion : HoldsText ps toolchainVersionKey unknown m.toolchainVersion
  commitId : HoldsText ps commitIdKey unknownCommitId m.commitId
  commitIdAbbrev : HoldsText ps commitIdAbbrevKey unknownCommitIdAbbrev m.commitIdAbbrev
  commitTime : HoldsTime ps commitTimeKey m.commitTime
  buildTime : HoldsTime ps buildTimeKey m.buildTime
  commitTimeDisplay : zone.display m.commitTime = .ok m.commitTimeDisplay
  buildTimeDisplay : zone.display m.buildTime = .ok m.buildTimeDisplay

theorem spelled_iff_describes {zone : Zone} {ps : Properties} {m : Metadata} :
    Spelled zone ps m ↔ Describes zone ps m := by
  constructor
  · rintro ⟨hversion, htoolchain, hid, habbrev, hcommit, hbuild, hcommitText, hbuildText⟩
    exact ⟨holdsText_iff.1 hversion, holdsText_iff.1 htoolchain, holdsText_iff.1 hid,
      holdsText_iff.1 habbrev, holdsTime_iff.1 hcommit, holdsTime_iff.1 hbuild, hcommitText,
      hbuildText⟩
  · rintro ⟨hversion, htoolchain, hid, habbrev, hcommit, hbuild, hcommitText, hbuildText⟩
    exact ⟨holdsText_iff.2 hversion, holdsText_iff.2 htoolchain, holdsText_iff.2 hid,
      holdsText_iff.2 habbrev, holdsTime_iff.2 hcommit, holdsTime_iff.2 hbuild, hcommitText,
      hbuildText⟩

/-! ### Timestamps that name no instant -/

/-- The timestamp of a key is given and cannot be read. -/
def Fails (ps : Properties) (key : String) (e : Error) : Prop :=
  ∃ value, Gives ps key value ∧ readTimestamp value = .error e

/-- The fault that names the key of a malformed timestamp. -/
def malformedAt (key : String) (e : Error) : Fault :=
  .resolution malformedText (some versionFileName) (some key) (some (.time e))

section
variable {ps : Properties} {key : String} {e : Error}

theorem readTimestamp_of_fails (h : Fails ps key e) :
    readTimestamp (timeText ps key) = .error e := by
  obtain ⟨value, hgives, hread⟩ := h
  rw [timeText_of_gives hgives, hread]

/-- Only a timestamp that is given can fail: the default is one. -/
theorem exists_readTimestamp_of_not_fails (h : ∀ e, ¬ Fails ps key e) :
    ∃ t, readTimestamp (timeText ps key) = .ok t := by
  rcases hread : readTimestamp (timeText ps key) with e | t
  · obtain ⟨value, hgives⟩ | homits := gives_or_omits ps key
    · exact absurd ⟨value, hgives, timeText_of_gives hgives ▸ hread⟩ (h e)
    · rw [timeText, property_of_omits homits, readTimestamp_epochText] at hread
      cases hread
  · exact ⟨t, rfl⟩

theorem exists_timeOf_of_fails (h : Fails ps key e) (he : (Fault.time e).family = .value) :
    ∃ es, timeOf ps key = ⟨.error (malformedAt key e), es⟩ :=
  ⟨_, timeOf_of_malformed (readTimestamp_of_fails h) ((Calendar.family_time_eq_value_iff e).1 he)⟩

end

/-! ### The whole file -/

/-- **What properties resolve to.**  In a zone that exists, the resolution gives
the metadata that the properties spell and no other; a timestamp that is given
and cannot be read never gives any.  If the commit's is malformed the fault
names it, and if the build's is while the commit's can be read, that one. -/
theorem outcome_ofProperties_spec {zones : Zones} {zoneName : String} {zone : Zone}
    (hzone : zones zoneName = some zone) (ps : Properties) :
    (∀ m, (Metadata.ofProperties ps zoneName zones).outcome = .ok m ↔ Spelled zone ps m) ∧
    (∀ key e, key = commitTimeKey ∨ key = buildTimeKey → Fails ps key e →
      ∀ m, (Metadata.ofProperties ps zoneName zones).outcome ≠ .ok m) ∧
    (∀ e, Fails ps commitTimeKey e → (Fault.time e).family = .value →
      (Metadata.ofProperties ps zoneName zones).outcome = .error (malformedAt commitTimeKey e)) ∧
    (∀ e, Fails ps buildTimeKey e → (Fault.time e).family = .value →
      (∀ e', ¬ Fails ps commitTimeKey e') →
      (Metadata.ofProperties ps zoneName zones).outcome = .error (malformedAt buildTimeKey e)) := by
  have hspelled (m : Metadata) :
      (Metadata.ofProperties ps zoneName zones).outcome = .ok m ↔ Spelled zone ps m := by
    simp only [ofProperties_eq_ok_iff, hzone, Option.some.injEq, exists_eq_left',
      spelled_iff_describes]
  refine ⟨hspelled, ?_, ?_, ?_⟩
  · intro key e hkey hfails m hm
    have hread := readTimestamp_of_fails hfails
    obtain rfl | rfl := hkey
    · rw [holdsTime_iff.1 ((hspelled m).1 hm).commitTime] at hread
      cases hread
    · rw [holdsTime_iff.1 ((hspelled m).1 hm).buildTime] at hread
      cases hread
  · intro e hfails hfamily
    obtain ⟨es, htime⟩ := exists_timeOf_of_fails hfails hfamily
    rw [ofProperties_of_commit_error hzone htime]
  · intro e hfails hfamily hcommit
    obtain ⟨t, hread⟩ := exists_readTimestamp_of_not_fails hcommit
    obtain ⟨es, htime⟩ := exists_timeOf_of_fails hfails hfamily
    rw [ofProperties_of_build_error hzone (timeOf_of_ok hread) htime]

/-- A zone nine hours east of UTC. -/
def tokyo : Zone := ⟨fun _ => 32400⟩

/-- Zones of which there is only one. -/
def tokyoOnly : Zones := fun name => if name = "Asia/Tokyo" then some tokyo else none

/-- On the clocks of Tokyo: a file in which little is given resolves to defaults,
and one with two malformed timestamps to a fault that names the commit's. -/
theorem outcome_ofProperties_tokyo :
    tokyoOnly "Asia/Tokyo" = some tokyo ∧
    (Metadata.ofProperties [(projectVersionKey, "1.0"), (commitIdKey, "$COMMIT"),
        (buildTimeKey, "")] "Asia/Tokyo" tokyoOnly).outcome = .ok { Metadata.default with
      projectVersion := "1.0"
      buildTimeDisplay := "1970-01-01T09:00:00+09:00"
      commitTimeDisplay := "1970-01-01T09:00:00+09:00" } ∧
    Fails [(buildTimeKey, "today"), (commitTimeKey, "now")] commitTimeKey (.form "now") ∧
    (Metadata.ofProperties [(buildTimeKey, "today"), (commitTimeKey, "now")] "Asia/Tokyo"
      tokyoOnly).outcome = .error (malformedAt commitTimeKey (.form "now")) := by
  have hshown : tokyo.display .epoch = .ok "1970-01-01T09:00:00+09:00" := by decide +kernel
  have hfails : Fails [(buildTimeKey, "today"), (commitTimeKey, "now")] commitTimeKey
      (.form "now") := ⟨"now", ⟨rfl, by decide, by decide⟩, by decide +kernel⟩
  refine ⟨rfl, ((outcome_ofProperties_spec rfl _).1 _).2 ?_, hfails,
    (outcome_ofProperties_spec rfl _).2.2.1 _ hfails rfl⟩
  exact ⟨holdsText_iff.2 rfl, holdsText_iff.2 rfl, holdsText_iff.2 rfl, holdsText_iff.2 rfl,
    holdsTime_iff.2 (by decide +kernel), holdsTime_iff.2 (by decide +kernel), hshown, hshown⟩

end StartupReport.Build
