/-
StartupReport/Text/ByteOrder.lean

Sixteen-bit code units as bytes behind a mark of their order.

The mark is the unit U+FEFF, written like the units that follow it: a reader
learns from its two bytes which byte of a unit comes first, and drops them.
Without a mark the low byte comes first.  Only the first unit is looked at, so
that units which themselves begin with U+FEFF, or with the mark of the other
order, are read back as they are (`readMarked_writeMarked`).
-/
import StartupReport.Text.Units

namespace StartupReport.Text

/-- The two bytes of a unit, the low one first. -/
def bytesOf (u : UInt16) : List UInt8 := [UInt8.ofNat (u.toNat % 256), UInt8.ofNat (u.toNat / 256)]

/-- The unit with a low and a high byte. -/
def unitOf (low high : UInt8) : UInt16 := UInt16.ofNat (256 * high.toNat + low.toNat)

/-- The mark of the order of bytes, and what it looks like in the other order. -/
def orderMark : UInt16 := 0xFEFF
def otherMark : UInt16 := 0xFFFE

/-- Units as bytes behind a mark. -/
def writeMarked (us : List UInt16) : List UInt8 := (orderMark :: us).flatMap bytesOf

/-- Reads bytes two by two; a byte that is left over stands for no character. -/
def readPairs (unit : UInt8 → UInt8 → UInt16) : List UInt8 → List UInt16
  | [] => []
  | [_] => [UInt16.ofNat replacement.toNat]
  | first :: second :: bytes => unit first second :: readPairs unit bytes

/-- The units of bytes, in the order that a mark before them tells. -/
def readMarked (bytes : List UInt8) : List UInt16 :=
  match readPairs unitOf bytes with
  | [] => []
  | u :: us =>
    if u = orderMark then us
    else if u = otherMark then readPairs (fun low high => unitOf high low) (bytes.drop 2)
    else u :: us

/-! ### Reading back -/

theorem unitOf_bytes (u : UInt16) :
    unitOf (UInt8.ofNat (u.toNat % 256)) (UInt8.ofNat (u.toNat / 256)) = u := by
  have hu : u.toNat < 65536 := u.toNat_lt
  have hlow : (UInt8.ofNat (u.toNat % 256)).toNat = u.toNat % 256 := by
    simp only [UInt8.toNat_ofNat']
    omega
  have hhigh : (UInt8.ofNat (u.toNat / 256)).toNat = u.toNat / 256 := by
    simp only [UInt8.toNat_ofNat']
    omega
  rw [unitOf, hlow, hhigh, Nat.div_add_mod, UInt16.ofNat_toNat]

theorem readPairs_bytes (us : List UInt16) : readPairs unitOf (us.flatMap bytesOf) = us := by
  induction us with
  | nil => rfl
  | cons u us ih =>
    rw [List.flatMap_cons, bytesOf, List.cons_append, List.singleton_append, readPairs, ih,
      unitOf_bytes]

/-- Units are read back as they were written, also those that look like a mark. -/
theorem readMarked_writeMarked (us : List UInt16) : readMarked (writeMarked us) = us := by
  rw [readMarked, writeMarked, readPairs_bytes]
  exact if_pos rfl

end StartupReport.Text
