/-
StartupReport/Proofs/Memory/Ceiling.lean

Where the ceiling of the memory comes from.

A source is asked for a ceiling first, and for the physical memory only if it has none
(`maxMemory_of_number` and the equations after it).  For the running process the ceiling
is the one that is given or, without one, the soft limit of the address space; a limit
that is infinite or cannot be looked up leaves the physical memory to decide, and if that
is not known either there is nothing to size the memory by.

Main result: `maxMemory_ofProcess`.
-/
import StartupReport.Memory
import StartupReport.Proofs.Probe.LimitLookup

namespace StartupReport.MemorySource

open Probe (SoftLimit numberOrNull addressSpaceLookup addressSpaceLimit_eq
  addressSpaceLookup_eq_some_iff)

/-! ### Any source -/

/-- There is nothing to size the memory by. -/
def unsized : Fault := .memorySizing unsizedText none

section
variable {m : MemorySource} {f : Fault}

theorem maxMemory_of_number {n : Int} (h : m.ceiling.outcome = .ok (.int n)) :
    m.maxMemory = ⟨.ok (.int n), m.ceiling.events⟩ := by
  rw [maxMemory, Traced.bind_of_ok h]
  exact Traced.ext rfl (List.append_nil _)

theorem maxMemory_of_ceiling_error (h : m.ceiling.outcome = .error f) :
    m.maxMemory = ⟨.error f, m.ceiling.events⟩ :=
  Traced.bind_of_error h _

theorem maxMemory_of_physical_error (h : m.ceiling.outcome = .ok .null)
    (hp : m.physical.outcome = .error f) :
    m.maxMemory = ⟨.error f, m.ceiling.events ++ m.physical.events⟩ := by
  rw [maxMemory, Traced.bind_of_ok h]
  simp only
  rw [Traced.bind_of_error hp]

/-- Whole numbers are equal values if they are the same. -/
theorem equal_int (a b : Int) : (Value.int a).equal (.int b) = (a == b) := by
  simp [Value.equal, Value.identity]

/-- Minus one stands for a physical memory that is not known. -/
theorem maxMemory_of_unknown (h : m.ceiling.outcome = .ok .null)
    (hp : m.physical.outcome = .ok (.int (-1))) :
    m.maxMemory = ⟨.error unsized, m.ceiling.events ++ m.physical.events⟩ := by
  rw [maxMemory, Traced.bind_of_ok h]
  simp only
  rw [Traced.bind_of_ok hp]
  simp only [equal_int, beq_self_eq_true, if_true]
  exact Traced.ext rfl (congrArg (m.ceiling.events ++ ·) (List.append_nil _))

/-- The ceiling is a quarter of the physical memory, rounded down. -/
theorem maxMemory_of_known (h : m.ceiling.outcome = .ok .null) {p : Int}
    (hp : m.physical.outcome = .ok (.int p)) (hne : p ≠ -1) :
    m.maxMemory = ⟨.ok (.int (p.fdiv 4)), m.ceiling.events ++ m.physical.events⟩ := by
  rw [maxMemory, Traced.bind_of_ok h]
  simp only
  rw [Traced.bind_of_ok hp]
  simp only [equal_int, beq_iff_eq, hne, if_false]
  exact Traced.ext rfl (congrArg (m.ceiling.events ++ ·) (List.append_nil _))

end

/-- A whole number is a quarter of another one, rounded down. -/
def IsQuarter (q p : Int) : Prop := 4 * q ≤ p ∧ p < 4 * q + 4

theorem isQuarter_fdiv (p : Int) : IsQuarter (p.fdiv 4) p := by
  rw [Int.fdiv_eq_ediv_of_nonneg p (by decide)]
  constructor <;> omega

/-! ### The running process -/

/-- What is logged if the physical memory cannot be found out. -/
def physicalWarning (f : Fault) : Record :=
  ⟨memoryLogger, Log.Level.warning,
    "Cannot determine the size of the physical memory: " ++ f.message, none⟩

/-- Neither a given ceiling nor a finite limit of the address space decides, so that the
physical memory is asked for. -/
structure AsksPhysical (h : Host) (given : Option Int) : Prop where
  not_given : given = none
  no_limit : ∀ n, ¬ SoftLimit h n

section
variable {h : Host} {given : Option Int}

theorem physical_of_ok (given : Option Int) {v : Value} (hp : h.memory.physical = .ok v) :
    (ofProcess h (numberOrNull given)).physical = pure v := by
  simp only [ofProcess, hp]
  rfl

/-- A failure to find out the physical memory is logged and counts as minus one. -/
theorem physical_of_error (given : Option Int) {f : Fault} (hp : h.memory.physical = .error f)
    (hf : f.isOrdinary = true) :
    (ofProcess h (numberOrNull given)).physical
      = ⟨.ok (.int (-1)), [.logged (physicalWarning f)]⟩ := by
  simp only [ofProcess, hp]
  rw [Traced.bind_of_ok rfl]
  simp only [Traced.outcome_ask, hf, if_true]
  rfl

/-! ### The five ways to size the memory -/

theorem maxMemory_of_given (n : Int) :
    (ofProcess h (numberOrNull (some n))).maxMemory = pure (.int n) :=
  maxMemory_of_number rfl

section
variable (hlimits : Ordinary h.limits)
  (hanswer : ∀ m answer, h.limits = .ok m → m.addressSpace = some answer → Ordinary answer)
include hlimits hanswer

theorem maxMemory_of_softLimit {n : Int} (hn : SoftLimit h n) :
    (ofProcess h (numberOrNull none)).maxMemory = pure (.int n) := by
  have hceiling : (ofProcess h (numberOrNull none)).ceiling = pure (.int n) := by
    show Probe.addressSpaceLimit h = _
    rw [addressSpaceLimit_eq hlimits hanswer, addressSpaceLookup_eq_some_iff.2 hn]
    rfl
  rw [maxMemory_of_number (congrArg Traced.outcome hceiling), hceiling]
  rfl

/-- There is no ceiling before the physical memory is asked for. -/
theorem ceiling_of_asksPhysical (hasks : AsksPhysical h given) :
    (ofProcess h (numberOrNull given)).ceiling = pure .null := by
  have hnone : (addressSpaceLookup h).toOption.join = none :=
    Option.eq_none_iff_forall_ne_some.2 fun n hn =>
      hasks.no_limit n (addressSpaceLookup_eq_some_iff.1 hn)
  rw [hasks.not_given]
  show Probe.addressSpaceLimit h = _
  rw [addressSpaceLimit_eq hlimits hanswer, hnone]
  rfl

theorem maxMemory_of_physical (hasks : AsksPhysical h given) {p : Int}
    (hp : h.memory.physical = .ok (.int p)) (hne : p ≠ -1) :
    (ofProcess h (numberOrNull given)).maxMemory = pure (.int (p.fdiv 4)) := by
  have hceiling := ceiling_of_asksPhysical hlimits hanswer hasks
  have hreading := physical_of_ok given hp
  rw [maxMemory_of_known (congrArg Traced.outcome hceiling) (congrArg Traced.outcome hreading) hne,
    hceiling, hreading]
  rfl

theorem maxMemory_of_minus_one (hasks : AsksPhysical h given)
    (hp : h.memory.physical = .ok (.int (-1))) :
    (ofProcess h (numberOrNull given)).maxMemory = Traced.fail unsized := by
  have hceiling := ceiling_of_asksPhysical hlimits hanswer hasks
  have hreading := physical_of_ok given hp
  rw [maxMemory_of_unknown (congrArg Traced.outcome hceiling) (congrArg Traced.outcome hreading),
    hceiling, hreading]
  rfl

theorem maxMemory_of_failing (hasks : AsksPhysical h given) {f : Fault}
    (hp : h.memory.physical = .error f) (hf : f.isOrdinary = true) :
    (ofProcess h (numberOrNull given)).maxMemory
      = ⟨.error unsized, [.logged (physicalWarning f)]⟩ := by
  have hceiling := ceiling_of_asksPhysical hlimits hanswer hasks
  have hreading := physical_of_error given hp hf
  rw [maxMemory_of_unknown (congrArg Traced.outcome hceiling) (congrArg Traced.outcome hreading),
    hceiling, hreading]
  rfl

end

/-- The ways to size the memory, each with what comes of it. -/
inductive Sizes (h : Host) (given : Option Int) : Traced Value → Prop
  | given {n : Int} : given = some n → Sizes h given (pure (.int n))
  | limit {n : Int} : given = none → SoftLimit h n → Sizes h given (pure (.int n))
  | quarter {p : Int} : AsksPhysical h given → h.memory.physical = .ok (.int p) → p ≠ -1 →
      Sizes h given (pure (.int (p.fdiv 4)))
  | minusOne : AsksPhysical h given → h.memory.physical = .ok (.int (-1)) →
      Sizes h given (Traced.fail unsized)
  | failing {f : Fault} : AsksPhysical h given → h.memory.physical = .error f →
      Sizes h given ⟨.error unsized, [.logged (physicalWarning f)]⟩

/-- The sizing fails in one way only, and only with the physical memory not known. -/
theorem Sizes.of_error {s : Traced Value} {f : Fault} (hs : Sizes h given s)
    (hf : s.outcome = .error f) :
    f = unsized ∧ AsksPhysical h given ∧
      ((∃ g, h.memory.physical = .error g) ∨ h.memory.physical = .ok (.int (-1))) := by
  cases hs with
  | given | limit | quarter => cases hf
  | minusOne hasks hp =>
    cases hf
    exact ⟨rfl, hasks, .inr hp⟩
  | failing hasks hp =>
    cases hf
    exact ⟨rfl, hasks, .inl ⟨_, hp⟩⟩

/-- Nothing is logged but that the physical memory cannot be found out. -/
theorem Sizes.events_eq_nil {s : Traced Value} (hs : Sizes h given s)
    (hquiet : ¬ (AsksPhysical h given ∧ ∃ f, h.memory.physical = .error f)) : s.events = [] := by
  cases hs with
  | given | limit | quarter | minusOne => rfl
  | failing hasks hp => exact absurd ⟨hasks, _, hp⟩ hquiet

theorem sizes_maxMemory (hlimits : Ordinary h.limits)
    (hanswer : ∀ m answer, h.limits = .ok m → m.addressSpace = some answer → Ordinary answer)
    (hphysical : Ordinary h.memory.physical)
    (hwhole : ∀ v, h.memory.physical = .ok v → ∃ p, v = .int p) :
    Sizes h given (ofProcess h (numberOrNull given)).maxMemory := by
  -- the cases come in the order in which the sources are asked
  rcases given with - | n
  · by_cases hlimit : ∃ n, SoftLimit h n
    · obtain ⟨n, hn⟩ := hlimit
      rw [maxMemory_of_softLimit hlimits hanswer hn]
      exact .limit rfl hn
    · have hasks : AsksPhysical h none := ⟨rfl, fun n hn => hlimit ⟨n, hn⟩⟩
      rcases hp : h.memory.physical with f | v
      · rw [maxMemory_of_failing hlimits hanswer hasks hp (hphysical f hp)]
        exact .failing hasks hp
      · obtain ⟨p, rfl⟩ := hwhole v hp
        by_cases hne : p = -1
        · subst hne
          rw [maxMemory_of_minus_one hlimits hanswer hasks hp]
          exact .minusOne hasks hp
        · rw [maxMemory_of_physical hlimits hanswer hasks hp hne]
          exact .quarter hasks hp hne
  · rw [maxMemory_of_given]
    exact .given rfl

end

/-- A host whose address space is not limited and whose physical memory is not known. -/
def boundlessHost : Host :=
  { bareHost with
    limits := .ok ⟨"resource", true, some (.ok (.list [.int (-1), .int 4096])), none,
      some (.int (-1))⟩
    memory := ⟨.ok (.int 0), .error (.external "OSError" .system "no table of memory")⟩ }

theorem boundlessHost_asksPhysical : AsksPhysical boundlessHost none where
  not_given := rfl
  no_limit := by
    rintro n ⟨m, soft, infinity, hm, hanswers, hequal, -⟩
    cases hm
    obtain ⟨pair, hard, hpair, hitems⟩ := hanswers.pair
    cases hpair
    cases hitems
    cases hanswers.infinity
    cases hequal

end StartupReport.MemorySource
