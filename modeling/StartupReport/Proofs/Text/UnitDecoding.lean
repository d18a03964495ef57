/-
StartupReport/Proofs/Text/UnitDecoding.lean

Which characters a sequence of code units stands for.

`Decodes` is the rule, said without a reader: a unit outside the surrogate range
stands for the character of its number, a high unit with a low one right behind
it for one character, and every other unit of the range for U+FFFD.  Of each
sequence exactly one rule applies to the first unit, so the rule determines the
text, and `decodeUnits` finds it (`decodes_iff`).
-/
import StartupReport.Text.Units

namespace StartupReport.Text

/-- Code units and the characters that they stand for. -/
inductive Decodes : List UInt16 → List Char → Prop
  | nil : Decodes [] []
  | single {u : UInt16} {us : List UInt16} {c : Char} {cs : List Char}
      (hhigh : isHighUnit u = false) (hlow : isLowUnit u = false) (hc : c.toNat = u.toNat)
      (hrest : Decodes us cs) : Decodes (u :: us) (c :: cs)
  | pair {u v : UInt16} {us : List UInt16} {c : Char} {cs : List Char}
      (hhigh : isHighUnit u = true) (hlow : isLowUnit v = true)
      (hc : c.toNat = 0x10000 + (u.toNat - 0xD800) * 0x400 + (v.toNat - 0xDC00))
      (hrest : Decodes us cs) : Decodes (u :: v :: us) (c :: cs)
  /-- A high unit that no low one follows. -/
  | loneHigh {u : UInt16} {us : List UInt16} {cs : List Char} (hhigh : isHighUnit u = true)
      (hnext : ∀ v ∈ us.head?, isLowUnit v = false) (hrest : Decodes us cs) :
      Decodes (u :: us) ('\uFFFD' :: cs)
  /-- A low unit behind no high one. -/
  | loneLow {u : UInt16} {us : List UInt16} {cs : List Char} (hlow : isLowUnit u = true)
      (hrest : Decodes us cs) : Decodes (u :: us) ('\uFFFD' :: cs)

/-! ### Single units and pairs -/

theorem isHighUnit_iff {u : UInt16} : isHighUnit u = true ↔ 0xD800 ≤ u.toNat ∧ u.toNat < 0xDC00 := by
  simp [isHighUnit]

theorem isLowUnit_iff {u : UInt16} : isLowUnit u = true ↔ 0xDC00 ≤ u.toNat ∧ u.toNat < 0xE000 := by
  simp [isLowUnit]

/-- No unit is the first and the second half of a pair. -/
theorem isHighUnit_of_low {u : UInt16} (h : isLowUnit u = true) : isHighUnit u = false := by
  rw [isLowUnit_iff] at h
  rw [Bool.eq_false_iff, ne_eq, isHighUnit_iff]
  omega

theorem unitChar_of_high {u : UInt16} (h : isHighUnit u = true) : unitChar u = '\uFFFD' := by
  rw [unitChar, h]
  rfl

theorem unitChar_of_low {u : UInt16} (h : isLowUnit u = true) : unitChar u = '\uFFFD' := by
  rw [unitChar, h, Bool.or_true]
  rfl

theorem toNat_ofNat_of_valid {n : Nat} (h : n.isValidChar) : (Char.ofNat n).toNat = n := by
  rw [Char.ofNat, dif_pos h]
  rfl

theorem toNat_unitChar {u : UInt16} (hhigh : isHighUnit u = false) (hlow : isLowUnit u = false) :
    (unitChar u).toNat = u.toNat := by
  have hu : u.toNat < 65536 := u.toNat_lt
  have hvalid : u.toNat.isValidChar := by
    rw [Bool.eq_false_iff, ne_eq, isHighUnit_iff] at hhigh
    rw [Bool.eq_false_iff, ne_eq, isLowUnit_iff] at hlow
    unfold Nat.isValidChar
    omega
  rw [unitChar, hhigh, hlow, Bool.or_self, if_neg Bool.false_ne_true,
    toNat_ofNat_of_valid hvalid]

theorem toNat_pairChar {u v : UInt16} (hhigh : isHighUnit u = true) (hlow : isLowUnit v = true) :
    (pairChar u v).toNat = 0x10000 + (u.toNat - 0xD800) * 0x400 + (v.toNat - 0xDC00) := by
  have hvalid : (0x10000 + (u.toNat - 0xD800) * 0x400 + (v.toNat - 0xDC00)).isValidChar := by
    rw [isHighUnit_iff] at hhigh
    rw [isLowUnit_iff] at hlow
    unfold Nat.isValidChar
    omega
  rw [pairChar, toNat_ofNat_of_valid hvalid]

/-- A character is known by its number. -/
theorem eq_of_toNat_eq {c d : Char} (h : c.toNat = d.toNat) : c = d := by
  rw [← Char.ofNat_toNat c, h, Char.ofNat_toNat]

/-! ### The reader and the rule -/

/-- A high unit that no low one follows is read on its own. -/
theorem decodeUnits_cons_of_lone {u : UInt16} {us : List UInt16}
    (h : ∀ v ∈ us.head?, isLowUnit v = false) :
    decodeUnits (u :: us) = unitChar u :: decodeUnits us := by
  cases us with
  | nil => rfl
  | cons v us =>
    have hv : isLowUnit v = false := h v rfl
    rw [decodeUnits, hv, Bool.and_false, if_neg Bool.false_ne_true]

/-- Before a unit that is no low one a sequence can be cut: no pair reaches across. -/
theorem decodeUnits_append_cons {v : UInt16} (hv : isLowUnit v = false) (us vs : List UInt16) :
    decodeUnits (us ++ v :: vs) = decodeUnits us ++ decodeUnits (v :: vs) := by
  induction us using decodeUnits.induct with
  | case1 => rfl
  | case2 u =>
    have hnext : ∀ w ∈ (v :: vs).head?, isLowUnit w = false := by
      rintro w ⟨⟩
      exact hv
    rw [List.singleton_append, decodeUnits_cons_of_lone hnext]
    rfl
  | case3 u w us hpair ih =>
    simp only [List.cons_append, decodeUnits, hpair, if_true, ih]
  | case4 u w us hpair ih =>
    simp only [List.cons_append] at ih
    simp only [List.cons_append, decodeUnits, hpair, if_false, ih, Bool.false_eq_true]

/-- A unit that is read on its own stands for a character by one of three rules. -/
theorem decodes_cons_of_lone {u : UInt16} {us : List UInt16} {cs : List Char}
    (h : isHighUnit u = true → ∀ v ∈ us.head?, isLowUnit v = false) (hrest : Decodes us cs) :
    Decodes (u :: us) (unitChar u :: cs) := by
  rcases hhigh : isHighUnit u with - | -
  · rcases hlow : isLowUnit u with - | -
    · exact .single hhigh hlow (toNat_unitChar hhigh hlow) hrest
    · rw [unitChar_of_low hlow]
      exact .loneLow hlow hrest
  · rw [unitChar_of_high hhigh]
    exact .loneHigh hhigh (h hhigh) hrest

theorem decodes_decodeUnits (us : List UInt16) : Decodes us (decodeUnits us) := by
  induction us using decodeUnits.induct with
  | case1 => exact .nil
  | case2 u => exact decodes_cons_of_lone (fun _ v hv => nomatch hv) .nil
  | case3 u v us hpair ih =>
    obtain ⟨hhigh, hlow⟩ := Bool.and_eq_true_iff.1 hpair
    rw [decodeUnits, if_pos hpair]
    exact .pair hhigh hlow (toNat_pairChar hhigh hlow) ih
  | case4 u v us hpair ih =>
    have hnext (hhigh : isHighUnit u = true) : ∀ w ∈ (v :: us).head?, isLowUnit w = false := by
      rintro w ⟨⟩
      simpa [hhigh] using hpair
    rw [decodeUnits, if_neg hpair]
    exact decodes_cons_of_lone hnext ih

theorem eq_decodeUnits_of_decodes {us : List UInt16} {cs : List Char} (h : Decodes us cs) :
    cs = decodeUnits us := by
  induction h with
  | nil => rfl
  | single hhigh hlow hc _ ih =>
    rw [decodeUnits_cons_of_not_high hhigh, ← ih,
      eq_of_toNat_eq (hc.trans (toNat_unitChar hhigh hlow).symm)]
  | pair hhigh hlow hc _ ih =>
    rw [decodeUnits, hhigh, hlow, Bool.and_self, if_pos rfl, ← ih,
      eq_of_toNat_eq (hc.trans (toNat_pairChar hhigh hlow).symm)]
  | loneHigh hhigh hnext _ ih =>
    rw [decodeUnits_cons_of_lone hnext, ← ih, unitChar_of_high hhigh]
  | loneLow hlow _ ih =>
    -- a low unit is no high one, so nothing behind it matters
    rw [decodeUnits_cons_of_not_high (isHighUnit_of_low hlow), ← ih, unitChar_of_low hlow]

/-- The reader finds what the rule says. -/
theorem decodes_iff {us : List UInt16} {cs : List Char} : Decodes us cs ↔ decodeUnits us = cs := by
  constructor
  · intro h
    exact (eq_decodeUnits_of_decodes h).symm
  · rintro rfl
    exact decodes_decodeUnits us

end StartupReport.Text
