/-
StartupReport/Proofs/Memory/FreeMemory.lean

How much memory a source has free.

The readings are taken one after the other: what sizes the memory, then the memory in use,
then the part of it that is free.  The first of them that fails decides, and those after it
are not taken (`FirstFailure`).  If none fails, the size bounds the estimate from above and
zero from below (`Nearest`).  This rests on the size being no less than zero, which both
ways to size the memory see to (`Sized.nonneg`).

Main result: `freeMemory_within_ceiling`.
-/
import StartupReport.Proofs.Memory.Ceiling

namespace StartupReport.MemorySource

/-! ### What is read -/

/-- Readings that do not fail are numbers: a ceiling of at least zero or none at all, a
physical memory of at least zero or minus one, and any number for the memory in use and for
the part of it that is free. -/
structure Numeric (m : MemorySource) : Prop where
  ceiling : ∀ v, m.ceiling.outcome = .ok v → v = .null ∨ ∃ n, 0 ≤ n ∧ v = .int n
  physical : ∀ v, m.physical.outcome = .ok v → v = .int (-1) ∨ ∃ p, 0 ≤ p ∧ v = .int p
  total : ∀ v, m.total.outcome = .ok v → ∃ t, v = .int t
  free : ∀ v, m.free.outcome = .ok v → ∃ u, v = .int u

/-- A source sizes the memory at a number, and what happens until then. -/
inductive Sized (m : MemorySource) : Int → List Event → Prop
  | given {n : Int} : m.ceiling.outcome = .ok (.int n) → Sized m n m.ceiling.events
  | quarter {p q : Int} : m.ceiling.outcome = .ok .null → m.physical.outcome = .ok (.int p) →
      p ≠ -1 → IsQuarter q p → Sized m q (m.ceiling.events ++ m.physical.events)

/-- The first failure on the way to an estimate, and what happens until then. -/
inductive FirstFailure (m : MemorySource) : Fault → List Event → Prop
  | ceiling {f : Fault} : m.ceiling.outcome = .error f → FirstFailure m f m.ceiling.events
  | physical {f : Fault} : m.ceiling.outcome = .ok .null → m.physical.outcome = .error f →
      FirstFailure m f (m.ceiling.events ++ m.physical.events)
  | unsized : m.ceiling.outcome = .ok .null → m.physical.outcome = .ok (.int (-1)) →
      FirstFailure m unsized (m.ceiling.events ++ m.physical.events)
  | total {f : Fault} {size : Int} {before : List Event} : Sized m size before →
      m.total.outcome = .error f → FirstFailure m f (before ++ m.total.events)
  | free {f : Fault} {size t : Int} {before : List Event} : Sized m size before →
      m.total.outcome = .ok (.int t) → m.free.outcome = .error f →
      FirstFailure m f (before ++ m.total.events ++ m.free.events)

section
variable {m : MemorySource} {size t u : Int} {before : List Event} {f : Fault}

theorem IsQuarter.eq_fdiv {q p : Int} (h : IsQuarter q p) : q = p.fdiv 4 := by
  obtain ⟨hle, hlt⟩ := h
  obtain ⟨hle', hlt'⟩ := isQuarter_fdiv p
  omega

theorem Sized.maxMemory_eq (h : Sized m size before) :
    m.maxMemory = ⟨.ok (.int size), before⟩ := by
  cases h with
  | given hc => exact maxMemory_of_number hc
  | quarter hc hp hne hq => rw [hq.eq_fdiv, maxMemory_of_known hc hp hne]

/-- The memory is never sized below zero. -/
theorem Sized.nonneg (hm : m.Numeric) (h : Sized m size before) : 0 ≤ size := by
  cases h with
  | given hc =>
    obtain hv | ⟨n, hn, hv⟩ := hm.ceiling _ hc
    · cases hv
    · cases hv
      exact hn
  | @quarter p _ hc hp hne hq =>
    -- minus one is the only physical memory below zero, and it sizes nothing
    have hp0 : 0 ≤ p := by
      obtain hv | ⟨p', hp', hv⟩ := hm.physical _ hp
      · cases hv
        exact absurd rfl hne
      · cases hv
        exact hp'
    obtain ⟨-, hlt⟩ := hq
    omega

/-! ### The estimate, reading by reading -/

theorem freeMemory_of_maxMemory_error (h : m.maxMemory = ⟨.error f, before⟩) :
    m.freeMemory = ⟨.error f, before⟩ := by
  rw [freeMemory, h, Traced.bind_of_error rfl]

theorem freeMemory_of_total_error (h : Sized m size before) (ht : m.total.outcome = .error f) :
    m.freeMemory = ⟨.error f, before ++ m.total.events⟩ := by
  rw [freeMemory, h.maxMemory_eq, Traced.bind_of_ok rfl, Traced.bind_of_error ht]

/-- Numbers can be calculated with. -/
theorem use_arithmetic (operator : String) (g : Int → Int → Int) (a b : Int) :
    Traced.use ((Value.int a).arithmetic operator g (.int b)) = pure (.int (g a b)) := rfl

theorem freeMemory_of_free_error (h : Sized m size before)
    (ht : m.total.outcome = .ok (.int t)) (hu : m.free.outcome = .error f) :
    m.freeMemory = ⟨.error f, before ++ m.total.events ++ m.free.events⟩ := by
  rw [freeMemory, h.maxMemory_eq, Traced.bind_of_ok rfl, Traced.bind_of_ok ht,
    use_arithmetic, Traced.pure_bind, Traced.bind_of_error hu, List.append_assoc]

theorem clamp_int (n bound : Int) : clamp n (.int bound) = .int (min (max n 0) bound) := by
  have hraised : (if n < 0 then 0 else n) = max n 0 := by
    split <;> omega
  simp only [clamp, hraised, Value.number?]
  split
  · exact congrArg Value.int (by omega)
  · exact congrArg Value.int (by omega)

theorem freeMemory_of_readings (h : Sized m size before)
    (ht : m.total.outcome = .ok (.int t)) (hu : m.free.outcome = .ok (.int u)) :
    m.freeMemory = ⟨.ok (.int (min (max (size - t + u) 0) size)),
      before ++ m.total.events ++ m.free.events⟩ := by
  rw [freeMemory, h.maxMemory_eq, Traced.bind_of_ok rfl, Traced.bind_of_ok ht,
    use_arithmetic, Traced.pure_bind, Traced.bind_of_ok hu, use_arithmetic, Traced.pure_bind,
    ← clamp_int, Traced.events_pure, List.append_nil, List.append_assoc]
  rfl

/-! ### The first failure -/

theorem FirstFailure.freeMemory_eq {events : List Event} (h : FirstFailure m f events) :
    m.freeMemory = ⟨.error f, events⟩ := by
  cases h with
  | ceiling hc => exact freeMemory_of_maxMemory_error (maxMemory_of_ceiling_error hc)
  | physical hc hp => exact freeMemory_of_maxMemory_error (maxMemory_of_physical_error hc hp)
  | unsized hc hp => exact freeMemory_of_maxMemory_error (maxMemory_of_unknown hc hp)
  | total hs ht => exact freeMemory_of_total_error hs ht
  | free hs ht hu => exact freeMemory_of_free_error hs ht hu

/-- The memory is sized, or the failure that prevents it is the first one. -/
theorem Numeric.sized_or_firstFailure (hm : m.Numeric) :
    (∃ size before, Sized m size before) ∨ ∃ f before, FirstFailure m f before := by
  rcases hc : m.ceiling.outcome with f | v
  · exact .inr ⟨f, _, .ceiling hc⟩
  obtain rfl | ⟨n, -, rfl⟩ := hm.ceiling v hc
  · rcases hp : m.physical.outcome with f | w
    · exact .inr ⟨f, _, .physical hc hp⟩
    obtain rfl | ⟨p, hp0, rfl⟩ := hm.physical w hp
    · exact .inr ⟨_, _, .unsized hc hp⟩
    · exact .inl ⟨_, _, .quarter hc hp (by omega) (isQuarter_fdiv p)⟩
  · exact .inl ⟨n, _, .given hc⟩

/-- All readings are there, or there is a first failure. -/
theorem Numeric.readings_or_firstFailure (hm : m.Numeric) :
    (∃ size t u before, Sized m size before ∧ m.total.outcome = .ok (.int t) ∧
      m.free.outcome = .ok (.int u)) ∨ ∃ f before, FirstFailure m f before := by
  obtain ⟨size, before, hs⟩ | hfail := hm.sized_or_firstFailure
  · rcases ht : m.total.outcome with f | v
    · exact .inr ⟨f, _, .total hs ht⟩
    obtain ⟨t, rfl⟩ := hm.total v ht
    rcases hu : m.free.outcome with f | w
    · exact .inr ⟨f, _, .free hs ht hu⟩
    obtain ⟨u, rfl⟩ := hm.free w hu
    exact .inl ⟨size, t, u, before, hs, rfl, rfl⟩
  · exact .inr hfail

theorem Numeric.freeMemory_error_iff (hm : m.Numeric) {events : List Event} :
    m.freeMemory = ⟨.error f, events⟩ ↔ FirstFailure m f events := by
  constructor
  · intro h
    -- there is one estimate, so it shows which of the two cases is at hand
    obtain ⟨size, t, u, before, hs, ht, hu⟩ | ⟨f', before, hfail⟩ := hm.readings_or_firstFailure
    · cases (freeMemory_of_readings hs ht hu).symm.trans h
    · cases hfail.freeMemory_eq.symm.trans h
      exact hfail
  · exact FirstFailure.freeMemory_eq

end

/-! ### Between nothing and the size -/

/-- The number nearest to an estimate between zero and an upper bound. -/
structure Nearest (estimate bound r : Int) : Prop where
  nonneg : 0 ≤ r
  le : r ≤ bound
  inside : 0 ≤ estimate → estimate ≤ bound → r = estimate
  below : estimate < 0 → r = 0
  above : bound < estimate → r = bound

theorem nearest_min_max {estimate bound : Int} (h : 0 ≤ bound) :
    Nearest estimate bound (min (max estimate 0) bound) := by
  constructor <;> omega

/-- A shift by twenty places divides by the size of a mebibyte. -/
theorem mebibytes_int (n : Int) : mebibytes (.int n) = pure (.int (n / 1048576)) := by
  rw [mebibytes, use_arithmetic]
  exact congrArg (fun k => pure (Value.int k)) (Int.shiftRight_eq_div_pow n 20)

/-- Whole mebibytes keep the order. -/
theorem Nearest.mebibytes_le {estimate bound r : Int} (h : Nearest estimate bound r) :
    ∃ k limit, mebibytes (.int r) = pure (.int k) ∧ mebibytes (.int bound) = pure (.int limit) ∧
      0 ≤ k ∧ k ≤ limit :=
  ⟨_, _, mebibytes_int r, mebibytes_int bound, Int.ediv_nonneg h.nonneg (by decide),
    Int.ediv_le_ediv (by decide) h.le⟩

/-- **The free memory lies within the ceiling.**  An estimate fails with the first failure
among the ceiling, the physical memory if it is asked for, the memory in use and the part of
it that is free, or because there is nothing to size the memory by.  Otherwise it is the
number nearest to the size less the memory in use and more the part of it that is free, and
the figures in mebibytes are in the same order.  A garbage collection comes before all
readings and changes nothing else. -/
theorem freeMemory_within_ceiling (m : MemorySource) (hm : m.Numeric) :
    (∀ f events, m.freeMemory = ⟨.error f, events⟩ ↔ FirstFailure m f events) ∧
    ((¬ ∃ f events, FirstFailure m f events) →
      ∃ size t u r before, m.maxMemory = ⟨.ok (.int size), before⟩ ∧ Sized m size before ∧
        m.total.outcome = .ok (.int t) ∧ m.free.outcome = .ok (.int u) ∧
        m.freeMemory = ⟨.ok (.int r), before ++ m.total.events ++ m.free.events⟩ ∧
        Nearest (size - t + u) size r ∧
        ∃ k limit, mebibytes (.int r) = pure (.int k) ∧
          mebibytes (.int size) = pure (.int limit) ∧ 0 ≤ k ∧ k ≤ limit) ∧
    m.freeMemoryAfterCollection
      = ⟨m.freeMemory.outcome, .collected :: m.freeMemory.events⟩ := by
  refine ⟨fun f events => hm.freeMemory_error_iff, fun hnone => ?_, rfl⟩
  obtain ⟨size, t, u, before, hs, ht, hu⟩ := hm.readings_or_firstFailure.resolve_right hnone
  have hnearest : Nearest (size - t + u) size (min (max (size - t + u) 0) size) :=
    nearest_min_max (hs.nonneg hm)
  exact ⟨size, t, u, _, before, hs.maxMemory_eq, hs, ht, hu, freeMemory_of_readings hs ht hu,
    hnearest, hnearest.mebibytes_le⟩

/-- A source without a ceiling whose process has outgrown a quarter of the physical
memory. -/
def outgrownSource : MemorySource where
  ceiling := pure .null
  total := pure (.int 9)
  free := pure (.int 2)
  physical := pure (.int 19)

theorem numeric_outgrownSource : outgrownSource.Numeric where
  ceiling := by
    rintro _ ⟨⟩
    exact .inl rfl
  physical := by
    rintro _ ⟨⟩
    exact .inr ⟨19, by decide, rfl⟩
  total := by
    rintro _ ⟨⟩
    exact ⟨9, rfl⟩
  free := by
    rintro _ ⟨⟩
    exact ⟨2, rfl⟩

/-- Nothing is free where more than the ceiling is in use. -/
theorem freeMemory_outgrownSource :
    outgrownSource.Numeric ∧ outgrownSource.freeMemory = pure (.int 0) := by
  obtain ⟨hfails, hreturns, -⟩ := freeMemory_within_ceiling outgrownSource numeric_outgrownSource
  have hnone : ¬ ∃ f events, FirstFailure outgrownSource f events := by
    rintro ⟨f, events, hfail⟩
    cases congrArg Traced.outcome ((hfails f events).2 hfail)
  obtain ⟨size, t, u, r, before, hsize, hs, ht, hu, heq, hnearest, -⟩ := hreturns hnone
  cases hsize
  cases ht
  cases hu
  rw [heq, hnearest.below (by decide)]
  exact ⟨numeric_outgrownSource, rfl⟩

end StartupReport.MemorySource
