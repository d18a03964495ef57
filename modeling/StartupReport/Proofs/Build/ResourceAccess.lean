/-
StartupReport/Proofs/Build/ResourceAccess.lean

A version resource that is absent, refused or read.

One of three things comes of access to a resource: it says that it is no file
(`IsAbsent`), a fault refuses it, either when it is asked or when it is opened
(`Refuses`), or it is readable.  It is opened at most once, and only if it says
that it is a file.

Main result: the default metadata stand for a resource that is absent or that
the operating system refuses, and for no other (`load_eq_default_iff`).  A file
that was read is told apart from them whatever it holds, since an instant is
never shown as the text that the defaults have for the epoch.
-/
import StartupReport.Proofs.Build.GivenValues

namespace StartupReport.Build

open Calendar (Zones readTimestamp)

/-! ### Access -/

/-- The resource says that it is a file. -/
def Resource.IsFile (r : Resource) : Prop := ∃ v, r.isFile = .ok v ∧ v.isPresent = true

/-- The resource says that it is no file. -/
def Resource.IsAbsent (r : Resource) : Prop := ∃ v, r.isFile = .ok v ∧ v.isPresent = false

/-- A fault refuses the resource: when it is asked whether it is a file, or when
the file that it is gets opened. -/
inductive Resource.Refuses (r : Resource) (f : Fault) : Prop
  | asked (h : r.isFile = .error f)
  | opened (hfile : r.IsFile) (hopening : r.opening = .error f)

theorem Resource.access (r : Resource) : r.IsAbsent ∨ (∃ f, r.Refuses f) ∨ r.IsReadable := by
  rcases hfile : r.isFile with f | v
  · exact .inr (.inl ⟨f, .asked hfile⟩)
  · rcases hpresent : v.isPresent with - | -
    · exact .inl ⟨v, hfile, hpresent⟩
    · rcases hopening : r.opening with f | u
      · exact .inr (.inl ⟨f, .opened ⟨v, hfile, hpresent⟩ hopening⟩)
      · exact .inr (.inr ⟨⟨v, hfile, hpresent⟩, hopening⟩)

/-- How often a resource is opened. -/
def openings (events : List Event) : Nat := events.countP Event.isOpening

/-- A resource is opened at most once, and only if it says that it is a file. -/
def Resource.OpenedSparingly (r : Resource) (events : List Event) : Prop :=
  openings events = 0 ∨ (r.IsFile ∧ openings events = 1)

/-- The log record of a resource that is absent. -/
def absentRecord : Record where
  logger := resolutionLogger
  level := Log.Level.debug
  message := s!"Version property file {versionFileName} not found, using defaults"

/-- The log record of a resource that the operating system refuses. -/
def refusedRecord (f : Fault) : Record where
  logger := resolutionLogger
  level := Log.Level.info
  message := "Cannot determine code revision: Unable to read version property file.: " ++ f.message

section
variable {r : Resource} (zoneName : String) (zones : Zones)

theorem load_of_absent (h : r.IsAbsent) :
    load r zoneName zones = ⟨.ok Metadata.default, [.logged absentRecord]⟩ := by
  obtain ⟨v, hfile, habsent⟩ := h
  have hread : r.read = ⟨.ok none, []⟩ := by
    unfold Resource.read
    rw [hfile]
    simp only [Traced.bind_def, Traced.ask, Traced.bind, habsent]
    rfl
  unfold load
  rw [hread]
  rfl

/-- A refusal comes before the resource is opened or at its only opening. -/
theorem read_of_refuses {f : Fault} (h : r.Refuses f) :
    ∃ es, r.read = ⟨.error f, es⟩ ∧ records es = [] ∧ r.OpenedSparingly es := by
  cases h with
  | asked hfile =>
    refine ⟨[], ?_, rfl, .inl rfl⟩
    unfold Resource.read
    rw [hfile]
    rfl
  | opened hisFile hopening =>
    refine ⟨[.opened], ?_, rfl, .inr ⟨hisFile, rfl⟩⟩
    obtain ⟨v, hfile, hpresent⟩ := hisFile
    unfold Resource.read
    rw [hfile, hopening]
    simp only [Traced.bind_def, Traced.ask, Traced.bind, hpresent, if_true]
    rfl

/-- A refusal by the operating system gives the defaults and a log record. -/
theorem load_of_refuses_system {f : Fault} (h : r.Refuses f) (hsystem : f.family = .system) :
    (load r zoneName zones).outcome = .ok Metadata.default ∧
      records (load r zoneName zones).events = [refusedRecord f] ∧
      r.OpenedSparingly (load r zoneName zones).events := by
  obtain ⟨es, hread, hrecords, hopened⟩ := read_of_refuses h
  have hload : load r zoneName zones
      = ⟨.ok Metadata.default, es ++ [.logged (refusedRecord f)]⟩ := by
    unfold load
    rw [hread]
    simp only [Traced.bind_def, Traced.attempt, Traced.bind, hsystem, if_true]
    rfl
  rw [hload]
  refine ⟨rfl, ?_, ?_⟩
  · rw [records, List.filterMap_append, ← records, hrecords]
    rfl
  · rw [Resource.OpenedSparingly, openings, List.countP_append, ← openings]
    exact hopened

/-- Any other refusal is passed on. -/
theorem load_of_refuses_other {f : Fault} (h : r.Refuses f) (hother : f.family ≠ .system) :
    (load r zoneName zones).outcome = .error f ∧ records (load r zoneName zones).events = [] ∧
      r.OpenedSparingly (load r zoneName zones).events := by
  obtain ⟨es, hread, hrecords, hopened⟩ := read_of_refuses h
  have hload : load r zoneName zones = ⟨.error f, es⟩ := by
    unfold load
    rw [hread]
    simp only [Traced.bind_def, Traced.attempt, Traced.bind, if_neg hother, Traced.fail,
      List.append_nil]
  rw [hload]
  exact ⟨rfl, hrecords, hopened⟩

end

/-! ### What a resolution leaves behind -/

/-- No event is an opening. -/
def Unopened {α : Type} (x : Traced α) : Prop := ∀ e ∈ x.events, e.isOpening = false

theorem openings_of_unopened {α : Type} {x : Traced α} (h : Unopened x) :
    openings x.events = 0 := by
  refine List.countP_eq_zero.2 fun e he => ?_
  rw [h e he]
  exact Bool.false_ne_true

section
variable {p : Event → Prop}

/-- Records are all that a resolution may leave behind. -/
theorem leaves_timeOf (hp : ∀ r : Record, r.logger = resolutionLogger → p (.logged r))
    (ps : Properties) (key : String) : (timeOf ps key).Leaves p := by
  unfold timeOf
  split
  · exact .of_nil rfl
  · exact .of_nil rfl
  · exact Traced.leaves_emit_bind (hp _ rfl) rfl

theorem leaves_ofProperties (hp : ∀ r : Record, r.logger = resolutionLogger → p (.logged r))
    (ps : Properties) (zoneName : String) (zones : Zones) :
    (Metadata.ofProperties ps zoneName zones).Leaves p := by
  rcases hzone : zones zoneName with - | zone
  · unfold Metadata.ofProperties
    rw [hzone]
    exact .of_nil rfl
  · rw [ofProperties_of_zone hzone]
    refine (leaves_timeOf hp ps _).bind fun _ => (leaves_timeOf hp ps _).bind fun _ => ?_
    exact Traced.Leaves.bind (.of_nil rfl) fun _ => Traced.Leaves.bind (.of_nil rfl)
      fun _ => .of_nil rfl

end

/-- Nothing is opened once the properties are there. -/
theorem unopened_ofProperties (ps : Properties) (zoneName : String) (zones : Zones) :
    Unopened (Metadata.ofProperties ps zoneName zones) :=
  leaves_ofProperties (fun _ _ => rfl) ps zoneName zones

/-- A resolution that succeeds leaves no trace. -/
theorem ofProperties_of_ok {ps : Properties} {zoneName : String} {zones : Zones} {m : Metadata}
    (h : (Metadata.ofProperties ps zoneName zones).outcome = .ok m) :
    Metadata.ofProperties ps zoneName zones = pure m := by
  have hevents : (Metadata.ofProperties ps zoneName zones).events = [] := by
    obtain ⟨zone, hzone, hdescribes⟩ := ofProperties_eq_ok_iff.1 h
    rw [ofProperties_of_zone hzone, timeOf_of_ok hdescribes.commitTime,
      timeOf_of_ok hdescribes.buildTime, Traced.pure_bind, Traced.pure_bind,
      displayIn_of_ok hdescribes.buildTimeDisplay, displayIn_of_ok hdescribes.commitTimeDisplay]
    rfl
  exact Traced.ext h hevents

/-- No properties resolve to the default metadata: these have a text for the epoch
that no clock shows. -/
theorem ofProperties_ne_default (ps : Properties) (zoneName : String) (zones : Zones) :
    (Metadata.ofProperties ps zoneName zones).outcome ≠ .ok Metadata.default := by
  intro h
  obtain ⟨zone, -, hdescribes⟩ := ofProperties_eq_ok_iff.1 h
  have hlength := Calendar.length_display hdescribes.commitTimeDisplay
  have hshort : Metadata.default.commitTimeDisplay.toList.length = 24 := by decide
  omega

/-! ### The resource as a whole -/

theorem openedSparingly_load (r : Resource) (zoneName : String) (zones : Zones) :
    r.OpenedSparingly (load r zoneName zones).events := by
  obtain habsent | ⟨f, hrefuses⟩ | hreadable := r.access
  · rw [load_of_absent zoneName zones habsent]
    exact .inl rfl
  · by_cases hsystem : f.family = .system
    · exact (load_of_refuses_system zoneName zones hrefuses hsystem).2.2
    · exact (load_of_refuses_other zoneName zones hrefuses hsystem).2.2
  · have hresolution := openings_of_unopened
      (unopened_ofProperties (Properties.parseBytes r.bytes) zoneName zones)
    refine .inr ⟨hreadable.1, ?_⟩
    rw [load_of_readable hreadable, openings, List.countP_cons_of_pos rfl, ← openings,
      hresolution]

/-- **When the defaults stand for a version resource.**  A resource is opened at
most once, and only if it says that it is a file.  It gives the default metadata
iff it is absent or the operating system refuses it, with one log record that
says which; any other refusal is passed on as it is, and like a file that is
resolved it leaves no record. -/
theorem load_eq_default_iff (r : Resource) (zoneName : String) (zones : Zones) :
    let x := load r zoneName zones
    (openings x.events ≤ 1 ∧ (¬ r.IsFile → openings x.events = 0)) ∧
    (x.outcome = .ok Metadata.default ↔ r.IsAbsent ∨ ∃ f, r.Refuses f ∧ f.family = .system) ∧
    (r.IsAbsent → records x.events = [absentRecord]) ∧
    (∀ f, r.Refuses f → f.family = .system → records x.events = [refusedRecord f]) ∧
    (∀ f, r.Refuses f → f.family ≠ .system → x.outcome = .error f ∧ records x.events = []) ∧
    (∀ m, r.IsReadable → x.outcome = .ok m → records x.events = []) := by
  intro x
  refine ⟨?_, ⟨?_, ?_⟩, ?_, ?_, ?_, ?_⟩
  · obtain hnone | ⟨hfile, hone⟩ := openedSparingly_load r zoneName zones
    · exact ⟨hnone ▸ Nat.zero_le 1, fun _ => hnone⟩
    · exact ⟨hone ▸ le_rfl, fun hno => absurd hfile hno⟩
  · intro hdefault
    obtain habsent | ⟨f, hrefuses⟩ | hreadable := r.access
    · exact .inl habsent
    · by_cases hsystem : f.family = .system
      · exact .inr ⟨f, hrefuses, hsystem⟩
      · rw [(load_of_refuses_other zoneName zones hrefuses hsystem).1] at hdefault
        cases hdefault
    -- the file was read, and its properties cannot have given this
    · have houtcome : x.outcome = _ := congrArg Traced.outcome (load_of_readable hreadable)
      rw [houtcome] at hdefault
      exact absurd hdefault (ofProperties_ne_default _ zoneName zones)
  · rintro (habsent | ⟨f, hrefuses, hsystem⟩)
    · exact congrArg Traced.outcome (load_of_absent zoneName zones habsent)
    · exact (load_of_refuses_system zoneName zones hrefuses hsystem).1
  · intro habsent
    exact congrArg (records ·.events) (load_of_absent zoneName zones habsent)
  · intro f hrefuses hsystem
    exact (load_of_refuses_system zoneName zones hrefuses hsystem).2.1
  · intro f hrefuses hother
    obtain ⟨houtcome, hrecords, -⟩ := load_of_refuses_other zoneName zones hrefuses hother
    exact ⟨houtcome, hrecords⟩
  · intro m hreadable hm
    have hload : x = _ := load_of_readable hreadable
    rw [hload] at hm ⊢
    rw [ofProperties_of_ok hm]
    rfl

end StartupReport.Build
