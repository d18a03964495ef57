/-
StartupReport/Text/Units.lean

Sixteen-bit code units.

A character up to U+FFFF is one unit; a character beyond it is a pair, a high
unit followed by a low one.  `decodeUnits` reads a sequence of units back: a
high unit directly followed by a low unit is one character, and any other
unit of the surrogate range stands for no character and is replaced.
`decodeUnits_units_append` says that the units of a text read back as that text,
whatever units follow.
-/

namespace StartupReport.Text

/-- What a unit of the surrogate range that has no partner is read as. -/
def replacement : Char := '\uFFFD'

/-- First half of a pair. -/
def isHighUnit (u : UInt16) : Bool := 0xD800 ≤ u.toNat && u.toNat < 0xDC00

/-- Second half of a pair. -/
def isLowUnit (u : UInt16) : Bool := 0xDC00 ≤ u.toNat && u.toNat < 0xE000

/-- The units of one character. -/
def unitsOf (c : Char) : List UInt16 :=
  if c.toNat < 0x10000 then [UInt16.ofNat c.toNat]
  else
    [UInt16.ofNat (0xD800 + (c.toNat - 0x10000) / 0x400),
     UInt16.ofNat (0xDC00 + (c.toNat - 0x10000) % 0x400)]

/-- The units of a text, in order. -/
def units (cs : List Char) : List UInt16 := cs.flatMap unitsOf

/-- The character that a high and a low unit stand for. -/
def pairChar (high low : UInt16) : Char :=
  Char.ofNat (0x10000 + (high.toNat - 0xD800) * 0x400 + (low.toNat - 0xDC00))

/-- The character that a unit stands for on its own. -/
def unitChar (u : UInt16) : Char :=
  if isHighUnit u || isLowUnit u then replacement else Char.ofNat u.toNat

/-- Reads units from left to right, a pair wherever a high unit is directly
followed by a low one. -/
def decodeUnits : List UInt16 → List Char
  | [] => []
  | [u] => [unitChar u]
  | u :: v :: rest =>
    if isHighUnit u && isLowUnit v then pairChar u v :: decodeUnits rest
    else unitChar u :: decodeUnits (v :: rest)

/-! ### The units of a text read back as the text -/

theorem char_toNat_valid (c : Char) :
    c.toNat < 0xD800 ∨ (0xDFFF < c.toNat ∧ c.toNat < 0x110000) := c.valid

/-- A unit outside the surrogate range is read on its own, whatever follows. -/
theorem decodeUnits_cons_of_not_high {u : UInt16} (h : isHighUnit u = false)
    (us : List UInt16) : decodeUnits (u :: us) = unitChar u :: decodeUnits us := by
  cases us with
  | nil => rfl
  | cons v us => simp [decodeUnits, h]

theorem decodeUnits_unitsOf_append (c : Char) (us : List UInt16) :
    decodeUnits (unitsOf c ++ us) = c :: decodeUnits us := by
  have hv := char_toNat_valid c
  by_cases h : c.toNat < 0x10000
  · have hn : (UInt16.ofNat c.toNat).toNat = c.toNat := by
      simp only [UInt16.toNat_ofNat']; omega
    have hh : isHighUnit (UInt16.ofNat c.toNat) = false := by
      simp only [isHighUnit, hn, Bool.and_eq_false_iff, decide_eq_false_iff_not]; omega
    have hl : isLowUnit (UInt16.ofNat c.toNat) = false := by
      simp only [isLowUnit, hn, Bool.and_eq_false_iff, decide_eq_false_iff_not]; omega
    simp [unitsOf, h, decodeUnits_cons_of_not_high hh, unitChar, hh, hl, hn]
  · have h1 : (UInt16.ofNat (0xD800 + (c.toNat - 0x10000) / 0x400)).toNat
        = 0xD800 + (c.toNat - 0x10000) / 0x400 := by
      simp only [UInt16.toNat_ofNat']; omega
    have h2 : (UInt16.ofNat (0xDC00 + (c.toNat - 0x10000) % 0x400)).toNat
        = 0xDC00 + (c.toNat - 0x10000) % 0x400 := by
      simp only [UInt16.toNat_ofNat']; omega
    have hh : isHighUnit (UInt16.ofNat (0xD800 + (c.toNat - 0x10000) / 0x400)) = true := by
      simp only [isHighUnit, h1, Bool.and_eq_true, decide_eq_true_eq]; omega
    have hl : isLowUnit (UInt16.ofNat (0xDC00 + (c.toNat - 0x10000) % 0x400)) = true := by
      simp only [isLowUnit, h2, Bool.and_eq_true, decide_eq_true_eq]; omega
    have hp : 0x10000 + (0xD800 + (c.toNat - 0x10000) / 0x400 - 0xD800) * 0x400
        + (0xDC00 + (c.toNat - 0x10000) % 0x400 - 0xDC00) = c.toNat := by omega
    simp only [unitsOf, if_neg h, List.cons_append, List.nil_append, decodeUnits, hh, hl,
      Bool.and_self, if_true, pairChar, h1, h2, hp, Char.ofNat_toNat]

theorem decodeUnits_units_append (cs : List Char) (us : List UInt16) :
    decodeUnits (units cs ++ us) = cs ++ decodeUnits us := by
  induction cs with
  | nil => rfl
  | cons c cs ih =>
    simp only [units, List.flatMap_cons] at ih ⊢
    rw [List.append_assoc, decodeUnits_unitsOf_append, ih, List.cons_append]

end StartupReport.Text
