/-
StartupReport/Proofs/Build/SurvivingValues.lean

Values that come back from a version file.

Apart from the version, a version file holds values of four kinds, and each of
them survives: trimmed texts on one line (`survives_trim`), timestamps
(`survives_of_fillsPlaces`), versions of an interpreter (`survives_interpreter`)
and placeholders (`survives_placeholder`).  Timestamps and versions of an
interpreter are there and no placeholders, so they are not replaced by a default
either.
-/
import StartupReport.Proofs.Build.Collection
import StartupReport.Proofs.Build.MetadataFields
import StartupReport.Proofs.Calendar.WrittenTimestamp

namespace StartupReport.Build

open Calendar (FillsPlaces Instant readTimestamp timestampSlots)
open Properties (OnOneLine Survives isByteBlank)

/-! ### Trimmed texts and timestamps -/

/-- What is trimmed has no blanks in front, so only line ends can hurt it. -/
theorem survives_trim {cs : List Char} (h : OnOneLine (Text.trim cs)) :
    Survives (Text.trim cs) := by
  obtain ⟨hcr, hlf⟩ := Properties.onOneLine_iff.1 h
  refine ⟨hcr, hlf, fun c hc => ?_⟩
  rw [isByteBlank, Text.isBlank_of_head?_trim hc, Bool.false_and]

theorem survives_take {value : List Char} (h : Survives value) (n : Nat) :
    Survives (value.take n) := by
  obtain ⟨hcr, hlf, hhead⟩ := h
  refine ⟨fun hmem => hcr (List.mem_of_mem_take hmem),
    fun hmem => hlf (List.mem_of_mem_take hmem), fun c hc => ?_⟩
  cases n with
  | zero => cases hc
  | succ n =>
    cases value with
    | nil => cases hc
    | cons d ds => exact hhead c hc

/-- No digit is a blank. -/
theorem isByteBlank_of_isDecimal {c : Char} (h : Text.isDecimal c = true) :
    isByteBlank c = false := by
  have all : ∀ n < 256, Text.isDecimal (Char.ofNat n) = true →
      isByteBlank (Char.ofNat n) = false := by
    decide +kernel
  by_cases hbyte : c.toNat < 256
  · apply Text.Latin1.forall_of_forall_ofNat
      (fun d => Text.isDecimal d = true → isByteBlank d = false) all hbyte
    exact h
  · have hholds : Text.Latin1.holds c = false := by
      rw [Text.Latin1.holds, decide_eq_false_iff_not]
      omega
    rw [isByteBlank, hholds, Bool.and_false]

/-- A timestamp comes back from a version file. -/
theorem survives_of_fillsPlaces {cs : List Char} (h : FillsPlaces cs) : Survives cs := by
  -- no place of a timestamp admits a line end, and the first one admits digits alone
  have hends : ∀ slot ∈ timestampSlots, slot.admits '\r' = false ∧ slot.admits '\n' = false := by
    decide
  refine ⟨fun hcr => ?_, fun hlf => ?_, fun c hc => ?_⟩
  · obtain ⟨slot, hslot, hadmits⟩ := Calendar.exists_slot_of_fillsPlaces h hcr
    exact Bool.false_ne_true ((hends slot hslot).1.symm.trans hadmits)
  · obtain ⟨slot, hslot, hadmits⟩ := Calendar.exists_slot_of_fillsPlaces h hlf
    exact Bool.false_ne_true ((hends slot hslot).2.symm.trans hadmits)
  · obtain ⟨d, rest, rfl, hdigit⟩ := Calendar.exists_cons_of_fillsPlaces h
    obtain rfl : d = c := Option.some.inj hc
    exact isByteBlank_of_isDecimal hdigit

/-- A timestamp is no placeholder. -/
theorem valueOr_of_readTimestamp (fallback : String) {v : String} {t : Instant}
    (h : readTimestamp v = .ok t) : valueOr fallback v = v := by
  obtain ⟨c, rest, hcons, hdigit⟩ :=
    Calendar.exists_cons_of_fillsPlaces (Calendar.fillsPlaces_of_readTimestamp h)
  apply valueOr_of_ne
  · rw [Ne, ← String.toList_eq_nil_iff, hcons]
    exact List.cons_ne_nil c rest
  · rw [hcons, List.head?_cons]
    intro hmark
    obtain rfl := Option.some.inj hmark
    exact absurd hdigit (by decide)

/-! ### Versions of an interpreter -/

/-- The version of an interpreter by its two numbers. -/
def interpreterText (version : Int × Int) : String := s!"{version.1}.{version.2}"

/-- A digit of ASCII is one of the decimal digits. -/
theorem isDecimal_of_isDigit {c : Char} (h : c.isDigit = true) : Text.isDecimal c = true := by
  have all : ∀ n < 128, (Char.ofNat n).isDigit = true → Text.isDecimal (Char.ofNat n) = true := by
    decide +kernel
  have hle : c.toNat ≤ '9'.toNat := (Char.isDigit_iff_toNat.1 h).2
  apply Text.Latin1.forall_of_forall_ofNat
    (fun d => d.isDigit = true → Text.isDecimal d = true) all (hle.trans_lt (by decide))
  exact h

/-- A character of a number: a digit or the sign. -/
def isNumberChar (c : Char) : Bool := c.isDigit || c == '-'

theorem isNumberChar_of_mem_toString {n : Int} {c : Char} (h : c ∈ (toString n).toList) :
    isNumberChar c = true := by
  have hdigit (k : Nat) (hc : c ∈ (toString k).toList) : c.isDigit = true := by
    rw [Nat.toString_eq_repr, Nat.repr_eq_ofList_toDigits, String.toList_ofList] at hc
    exact Nat.isDigit_of_mem_toDigits (by decide) (by decide) hc
  rw [isNumberChar]
  cases n with
  | ofNat k => rw [hdigit k h, Bool.true_or]
  | negSucc k =>
    have hsign : toString (Int.negSucc k) = "-" ++ toString (k + 1) := rfl
    rw [hsign, String.toList_append, List.mem_append] at h
    rcases h with hc | hc
    · obtain rfl : c = '-' := List.mem_singleton.1 hc
      rfl
    · rw [hdigit (k + 1) hc, Bool.true_or]

theorem toString_int_ne_nil (n : Int) : (toString n).toList ≠ [] := by
  cases n with
  | ofNat k =>
    show (toString k).toList ≠ []
    rw [Nat.toString_eq_repr, Nat.repr_eq_ofList_toDigits, String.toList_ofList]
    exact Nat.toDigits_ne_nil
  | negSucc k =>
    have hsign : toString (Int.negSucc k) = "-" ++ toString (k + 1) := rfl
    rw [hsign, String.toList_append]
    exact List.cons_ne_nil '-' _

/-- A version of an interpreter begins with a character of a number, and has a dot
besides such characters. -/
theorem interpreterText_chars (version : Int × Int) :
    (∃ c rest, (interpreterText version).toList = c :: rest ∧ isNumberChar c = true) ∧
      ∀ c ∈ (interpreterText version).toList, isNumberChar c = true ∨ c = '.' := by
  have htext : (interpreterText version).toList
      = (toString version.1).toList ++ '.' :: (toString version.2).toList := by
    show ((toString version.1 ++ ".") ++ toString version.2).toList = _
    rw [String.toList_append, String.toList_append, List.append_assoc]
    rfl
  constructor
  · obtain ⟨c, cs, hcs⟩ := List.exists_cons_of_ne_nil (toString_int_ne_nil version.1)
    refine ⟨c, cs ++ '.' :: (toString version.2).toList, by rw [htext, hcs]; rfl, ?_⟩
    exact isNumberChar_of_mem_toString (hcs ▸ List.mem_cons_self)
  · intro c hc
    rw [htext, List.mem_append, List.mem_cons] at hc
    rcases hc with hc | rfl | hc
    · exact .inl (isNumberChar_of_mem_toString hc)
    · exact .inr rfl
    · exact .inl (isNumberChar_of_mem_toString hc)

/-- A version of an interpreter comes back. -/
theorem survives_interpreter (version : Int × Int) :
    Survives (interpreterText version).toList := by
  obtain ⟨⟨c, rest, hcons, hfirst⟩, hall⟩ := interpreterText_chars version
  refine ⟨fun hcr => ?_, fun hlf => ?_, fun d hd => ?_⟩
  · rcases hall _ hcr with h | h <;> cases h
  · rcases hall _ hlf with h | h <;> cases h
  · rw [hcons] at hd
    obtain rfl : c = d := Option.some.inj hd
    rw [isNumberChar, Bool.or_eq_true, beq_iff_eq] at hfirst
    rcases hfirst with hdigit | rfl
    · exact isByteBlank_of_isDecimal (isDecimal_of_isDigit hdigit)
    · decide

/-- A version of an interpreter is no placeholder. -/
theorem valueOr_interpreter (fallback : String) (version : Int × Int) :
    valueOr fallback (interpreterText version) = interpreterText version := by
  obtain ⟨⟨c, rest, hcons, hfirst⟩, -⟩ := interpreterText_chars version
  apply valueOr_of_ne
  · rw [Ne, ← String.toList_eq_nil_iff, hcons]
    exact List.cons_ne_nil c rest
  · rw [hcons, List.head?_cons]
    intro hmark
    obtain rfl := Option.some.inj hmark
    cases hfirst

/-! ### Placeholders -/

/-- A placeholder of a commit's key comes back. -/
theorem survives_placeholder {key : String} (hkey : key ∈ commitKeys) :
    Survives (placeholder key).toList := by
  revert key
  decide

theorem valueOr_placeholder (fallback key : String) :
    valueOr fallback (placeholder key) = fallback := by
  apply valueOr_of_mark
  rw [placeholder, String.toList_append, String.toList_append]
  rfl

end StartupReport.Build
