/-
StartupReport/Text/Latin1.lean

The one-byte character set: byte and code point are the same number.

Every byte string reads as a text; a text can be written if no character lies
beyond U+00FF (`encode?_eq_some_iff`).
-/

namespace StartupReport.Text.Latin1

/-- A character that has a byte. -/
def holds (c : Char) : Bool := c.toNat ≤ 0xFF

/-- The text of a byte string. -/
def decode (bytes : List UInt8) : List Char := bytes.map fun b => Char.ofNat b.toNat

/-- The byte of each character; characters beyond U+00FF have none. -/
def encode? (cs : List Char) : Option (List UInt8) :=
  if cs.all holds then some (cs.map fun c => UInt8.ofNat c.toNat) else none

/-! ### Characters by their number -/

/-- What holds of the characters with the first numbers, one by one, holds of each of
them. -/
theorem forall_of_forall_ofNat {bound : Nat} (p : Char → Prop)
    (h : ∀ n < bound, p (Char.ofNat n)) {c : Char} (hc : c.toNat < bound) : p c := by
  have hchar := h c.toNat hc
  rw [Char.ofNat_toNat] at hchar
  exact hchar

/-! ### Reading back -/

theorem decode_map_ofNat {cs : List Char} (h : cs.all holds = true) :
    decode (cs.map fun c => UInt8.ofNat c.toNat) = cs := by
  induction cs with
  | nil => rfl
  | cons c cs ih =>
    simp only [List.all_cons, Bool.and_eq_true, holds, decide_eq_true_eq] at h
    have hc : (UInt8.ofNat c.toNat).toNat = c.toNat := by simp only [UInt8.toNat_ofNat']; omega
    have ht := ih h.2
    simp only [decode, List.map_map] at ht
    simp [decode, hc, ht]

theorem encode?_eq_some_iff {cs : List Char} {bytes : List UInt8} :
    encode? cs = some bytes ↔
      cs.all holds = true ∧ bytes = cs.map fun c => UInt8.ofNat c.toNat := by
  by_cases h : cs.all holds = true <;> simp [encode?, h, eq_comm]

/-- What was written is read back. -/
theorem decode_of_encode? {cs : List Char} {bytes : List UInt8} (h : encode? cs = some bytes) :
    decode bytes = cs := by
  obtain ⟨hall, rfl⟩ := encode?_eq_some_iff.1 h
  exact decode_map_ofNat hall

end StartupReport.Text.Latin1
