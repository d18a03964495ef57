/-
StartupReport/Proofs/Properties/UnitEscapes.lean

Where a backslash and `u` name a code unit.

An escape begins at a backslash with an even number of backslashes right before it,
for each pair of these is an escape of its own (`EscapeBegins`).  There the reader
starts afresh: what it makes of the text behind does not depend on the text before
(`unescapeUnits_append_backslash`).  If the backslash is followed by `u`, the next
four characters name a unit iff they are a numeral in base sixteen
(`takesUnit_iff`).

Four hexadecimal digits are such a numeral, and they are what the escape is meant to
have.  But the reader of numerals also takes blanks, a sign, a mark of the base,
underscores and digits of other scripts.  `readsByDigits_iff_not_loose` says that
these are the only places where something else than four digits is taken; everywhere
else, what has no four digits is a plain `u`.
-/
import StartupReport.Proofs.Properties.EscapeLaws
import StartupReport.Proofs.Text.HexNumeral
import StartupReport.Proofs.Text.UnitDecoding

namespace StartupReport.Properties

open Text (unitsOf decodeUnits Numeral readInteger_sixteen_iff lt_of_numeral not_mem_of_numeral)

/-! ### Numerals of four characters -/

theorem namedUnit_eq_some_iff {w : List Char} (hw : w.length = 4) (u : UInt16) :
    namedUnit w = some u ↔ Numeral w u.toNat := by
  unfold namedUnit
  rcases hread : Text.readInteger 16 w with - | n
  · simp only [← readInteger_sixteen_iff, hread, reduceCtorEq]
  · have hsmall : n.natAbs < 65536 := by
      have hlt := lt_of_numeral ((readInteger_sixteen_iff _ _).1 hread)
      rwa [hw] at hlt
    simp only [← readInteger_sixteen_iff, hread, Option.some.injEq]
    by_cases hn : 0 ≤ n
    · obtain ⟨m, rfl⟩ := Int.eq_ofNat_of_zero_le hn
      have hm : m < 65536 := hsmall
      rw [if_pos hn, Option.some.injEq, Int.toNat_natCast, Int.natCast_inj]
      constructor
      · rintro rfl
        exact (UInt16.toNat_ofNat_of_lt hm).symm
      · rintro rfl
        exact UInt16.ofNat_toNat
    · rw [if_neg hn]
      constructor
      · intro h
        cases h
      · rintro rfl
        exact absurd (Int.natCast_nonneg _) hn

/-- The unit that a text begins with is named by its first four characters. -/
theorem unitAt?_eq_some_iff {cs : List Char} {u : UInt16} :
    unitAt? cs = some u ↔ ∃ w rest, cs = w ++ rest ∧ w.length = 4 ∧ Numeral w u.toNat := by
  constructor
  · intro h
    unfold unitAt? at h
    split at h
    · next a b c d rest =>
      exact ⟨[a, b, c, d], rest, rfl, rfl, (namedUnit_eq_some_iff rfl u).1 h⟩
    · cases h
  · rintro ⟨w, rest, rfl, hw, h⟩
    obtain ⟨a, b, c, d, rfl⟩ := List.length_eq_four.1 hw
    exact (namedUnit_eq_some_iff hw u).2 h

/-! ### Where an escape begins -/

/-- At the end of a text an escape can begin: the backslashes there, if any, come in
pairs. -/
def EscapeBegins (before : List Char) : Prop := trailingBackslashes before % 2 = 0

instance (before : List Char) : Decidable (EscapeBegins before) := by
  unfold EscapeBegins; infer_instance

/-- What ends in a text without backslashes ends like that text. -/
theorem escapeBegins_append_of_not_mem {xs ys : List Char} (h : '\\' ∉ xs) :
    EscapeBegins (xs ++ ys) ↔ EscapeBegins ys := by
  have hxs : trailingBackslashes xs = 0 := by
    rw [trailingBackslashes, List.length_eq_zero_iff, List.takeWhile_eq_nil_iff]
    intro hlt hc
    have hmem := List.mem_reverse.1 (List.getElem_mem hlt)
    exact h (beq_iff_eq.1 hc ▸ hmem)
  rw [EscapeBegins, trailingBackslashes_append, hxs, Nat.zero_add]
  split
  · next hys => rw [EscapeBegins, hys]
  · rfl

/-- A backslash and the character behind it are an escape of their own. -/
theorem escapeBegins_cons_pair (c : Char) (cs : List Char) :
    EscapeBegins ('\\' :: c :: cs) ↔ EscapeBegins cs := by
  have hpair : trailingBackslashes ['\\', c] % 2 = 0 := by
    by_cases hc : c = '\\'
    · subst hc
      rfl
    · rw [show ['\\', c] = ['\\'] ++ [c] from rfl, trailingBackslashes_append_singleton hc]
  rw [show '\\' :: c :: cs = ['\\', c] ++ cs from rfl, EscapeBegins, trailingBackslashes_append]
  split
  · next hcs =>
    rw [EscapeBegins, hcs]
    omega
  · rfl

/-! ### An escape is read on its own -/

/-- A backslash behind a text adds no unit at its beginning. -/
theorem unitAt?_append_backslash (cs rest : List Char) :
    unitAt? (cs ++ '\\' :: rest) = unitAt? cs := by
  refine Option.ext fun u => ?_
  rw [unitAt?_eq_some_iff, unitAt?_eq_some_iff]
  constructor
  · rintro ⟨w, rest', happend, hw, hnumeral⟩
    -- the four characters end before the backslash, for it is in no numeral
    rcases List.append_eq_append_iff.1 happend with ⟨ds, rfl, hds⟩ | ⟨ds, rfl, -⟩
    · cases ds with
      | nil =>
        rw [List.append_nil] at hw hnumeral
        exact ⟨cs, [], (List.append_nil cs).symm, hw, hnumeral⟩
      | cons d ds =>
        obtain ⟨rfl, -⟩ := List.cons.inj hds
        exact absurd (List.mem_append_right cs List.mem_cons_self) (not_mem_of_numeral hnumeral)
    · exact ⟨w, ds, rfl, hw, hnumeral⟩
  · rintro ⟨w, rest', rfl, hw, hnumeral⟩
    exact ⟨w, rest' ++ '\\' :: rest, List.append_assoc .., hw, hnumeral⟩

section
variable {c : Char} {cs : List Char} (h : EscapeBegins (c :: cs))
include h

/-- The first piece of a text does not reach into an escape behind the text. -/
theorem firstPiece_append_backslash (rest : List Char) :
    firstPiece c (cs ++ '\\' :: rest) = firstPiece c cs := by
  by_cases hc : c = '\\'
  · subst hc
    cases cs with
    | nil => exact absurd h (by decide)
    | cons d ds => rw [List.cons_append, firstPiece, firstPiece, unitAt?_append_backslash]
  · rw [firstPiece_of_ne hc, firstPiece_of_ne hc]

/-- Behind the first piece an escape can begin at the end just as before. -/
theorem escapeBegins_drop :
    (firstPiece c cs).2 ≤ cs.length ∧ EscapeBegins (cs.drop (firstPiece c cs).2) := by
  by_cases hc : c = '\\'
  · subst hc
    cases cs with
    | nil => exact absurd h (by decide)
    | cons d ds =>
      rw [escapeBegins_cons_pair] at h
      rw [firstPiece, if_pos rfl]
      split
      · next u hunit =>
        have hu : unitAt? ds = some u := by
          split at hunit
          · exact hunit
          · cases hunit
        obtain ⟨w, rest, rfl, hw, hnumeral⟩ := unitAt?_eq_some_iff.1 hu
        have hdrop : (d :: (w ++ rest)).drop 5 = rest := by
          rw [List.drop_succ_cons, ← hw, List.drop_left]
        refine ⟨?_, ?_⟩
        · simp only [List.length_cons, List.length_append]
          omega
        · rw [hdrop]
          exact (escapeBegins_append_of_not_mem (not_mem_of_numeral hnumeral)).1 h
      · exact ⟨Nat.le_add_left 1 _, h⟩
  · rw [firstPiece_of_ne hc]
    refine ⟨Nat.zero_le _, ?_⟩
    have hplain : '\\' ∉ [c] := by simpa using Ne.symm hc
    exact (escapeBegins_append_of_not_mem hplain).1 h

end

/-- **Where an escape begins the reader starts afresh.**  The units of the text before
it are those of that text alone, and those of the escape and what follows do not
depend on it. -/
theorem unescapeUnits_append_backslash {before : List Char} (h : EscapeBegins before)
    (rest : List Char) :
    unescapeUnits (before ++ '\\' :: rest)
      = unescapeUnits before ++ unescapeUnits ('\\' :: rest) := by
  -- from piece to piece, as the reader goes
  induction hlength : before.length using Nat.strong_induction_on generalizing before with
  | _ n ih =>
    cases before with
    | nil => rfl
    | cons c cs =>
      obtain ⟨hle, hbegins⟩ := escapeBegins_drop h
      have hshorter : (cs.drop (firstPiece c cs).2).length < n := by
        rw [← hlength, List.length_drop, List.length_cons]
        omega
      rw [List.cons_append, unescapeUnits_cons, unescapeUnits_cons, firstPiece_append_backslash h,
        List.drop_append_of_le_length hle, ih _ hshorter hbegins rfl, List.append_assoc]

/-! ### A backslash and `u` -/

/-- Of a backslash, `u` and `after`, the reader takes the first six characters for a
code unit. -/
def TakesUnit (after : List Char) (u : UInt16) : Prop := firstPiece '\\' ('u' :: after) = ([u], 5)

/-- A text begins with four hexadecimal digits. -/
def HasFourDigits (after : List Char) : Prop :=
  ∃ w rest, after = w ++ rest ∧ w.length = 4 ∧ ∀ c ∈ w, isHexDigit c = true

/-- A text begins with a numeral of four characters that is not written with four
hexadecimal digits. -/
def BeginsLoosely (after : List Char) : Prop :=
  ∃ w rest, ∃ n : Nat, after = w ++ rest ∧ w.length = 4 ∧ Numeral w n ∧
    ¬ ∀ c ∈ w, isHexDigit c = true

/-- Between `before` and `after` a backslash and `u` are read by the digits behind
them: four digits are taken for a code unit, nothing else is, and otherwise there is
a plain `u` in the text, in front of what `after` stands for on its own. -/
def ReadsByDigits (before after : List Char) : Prop :=
  ((∃ u, TakesUnit after u) ↔ HasFourDigits after) ∧
    (¬ HasFourDigits after →
      unescape (before ++ '\\' :: 'u' :: after) = unescape before ++ 'u' :: unescape after)

theorem firstPiece_mark (after : List Char) :
    firstPiece '\\' ('u' :: after) =
      match unitAt? after with
      | some u => ([u], 5)
      | none => (unitsOf 'u', 1) := by
  rw [firstPiece, if_pos rfl, if_pos rfl]
  rfl

theorem takesUnit_iff {after : List Char} {u : UInt16} :
    TakesUnit after u ↔
      ∃ w rest, after = w ++ rest ∧ w.length = 4 ∧ Numeral w u.toNat := by
  rw [← unitAt?_eq_some_iff, TakesUnit, firstPiece_mark]
  rcases unitAt? after with - | v <;> simp

/-- Four digits are a numeral. -/
theorem exists_takesUnit_of_hasFourDigits {after : List Char} (h : HasFourDigits after) :
    ∃ u, TakesUnit after u := by
  obtain ⟨w, rest, rfl, hw, hdigits⟩ := h
  obtain ⟨a, b, c, d, rfl⟩ := List.length_eq_four.1 hw
  simp only [List.forall_mem_cons] at hdigits
  obtain ⟨ha, hb, hc, hd, -⟩ := hdigits
  refine ⟨UInt16.ofNat (fourDigits a b c d), ?_⟩
  rw [TakesUnit, firstPiece_mark]
  show (match namedUnit [a, b, c, d] with | some u => _ | none => _) = _
  rw [namedUnit_hexDigits ha hb hc hd]

/-- A unit is taken where there are four digits, and where there is another numeral. -/
theorem exists_takesUnit_iff {after : List Char} :
    (∃ u, TakesUnit after u) ↔ HasFourDigits after ∨ BeginsLoosely after := by
  constructor
  · rintro ⟨u, hu⟩
    obtain ⟨w, rest, rfl, hw, hnumeral⟩ := takesUnit_iff.1 hu
    by_cases hdigits : ∀ c ∈ w, isHexDigit c = true
    · exact .inl ⟨w, rest, rfl, hw, hdigits⟩
    · exact .inr ⟨w, rest, u.toNat, rfl, hw, hnumeral, hdigits⟩
  · rintro (h | ⟨w, rest, n, rfl, hw, hnumeral, -⟩)
    · exact exists_takesUnit_of_hasFourDigits h
    · have hn : n < 65536 := by
        have hlt := lt_of_numeral hnumeral
        rwa [hw] at hlt
      refine ⟨UInt16.ofNat n, takesUnit_iff.2 ⟨w, rest, rfl, hw, ?_⟩⟩
      have hunit : (UInt16.ofNat n).toNat = n := UInt16.toNat_ofNat_of_lt hn
      rwa [hunit]

theorem not_hasFourDigits_of_beginsLoosely {after : List Char} (h : BeginsLoosely after) :
    ¬ HasFourDigits after := by
  obtain ⟨w, rest, n, rfl, hw, -, hdigits⟩ := h
  rintro ⟨w', rest', happend, hw', hdigits'⟩
  obtain ⟨rfl, -⟩ := List.append_inj happend (hw.trans hw'.symm)
  exact hdigits hdigits'

theorem unescapeUnits_of_not_takesUnit {after : List Char} (hnone : ¬ ∃ u, TakesUnit after u) :
    unescapeUnits ('\\' :: 'u' :: after) = unitsOf 'u' ++ unescapeUnits after := by
  have hpiece : firstPiece '\\' ('u' :: after) = (unitsOf 'u', 1) := by
    rw [firstPiece_mark]
    rcases hunit : unitAt? after with - | u
    · rfl
    · exact absurd ⟨u, by rw [TakesUnit, firstPiece_mark, hunit]⟩ hnone
  rw [unescapeUnits_cons, hpiece]
  rfl

section
variable {before : List Char} (h : EscapeBegins before)
include h

theorem unescapeUnits_of_takesUnit {after : List Char} {u : UInt16} (hu : TakesUnit after u) :
    unescapeUnits (before ++ '\\' :: 'u' :: after)
      = unescapeUnits before ++ u :: unescapeUnits (after.drop 4) := by
  rw [unescapeUnits_append_backslash h, unescapeUnits_cons, hu]
  rfl

/-- Where no unit is taken the `u` stands for itself. -/
theorem unescape_of_not_takesUnit {after : List Char} (hnone : ¬ ∃ u, TakesUnit after u) :
    unescape (before ++ '\\' :: 'u' :: after) = unescape before ++ 'u' :: unescape after := by
  have hunits : unescapeUnits ('\\' :: 'u' :: after) = unitsOf 'u' ++ unescapeUnits after :=
    unescapeUnits_of_not_takesUnit hnone
  have hcut : unitsOf 'u' ++ unescapeUnits after = 0x75 :: unescapeUnits after := rfl
  rw [unescape_eq, unescapeUnits_append_backslash h, hunits, hcut,
    Text.decodeUnits_append_cons (by decide), ← hcut, Text.decodeUnits_unitsOf_append,
    ← unescape_eq, ← unescape_eq]

/-- **What a backslash and `u` stand for.**  They take a code unit iff the next four
characters are a numeral in base sixteen, and the text goes on behind these; otherwise
there is a plain `u`, and what follows is read on its own.  So they are read by four
digits behind them, except where a numeral of four characters is written in another
way: with blanks, a sign, a mark of the base, an underscore or digits of another
script. -/
theorem readsByDigits_iff_not_loose (after : List Char) :
    (∀ u, TakesUnit after u ↔ ∃ w rest, after = w ++ rest ∧ w.length = 4 ∧ Numeral w u.toNat) ∧
      (∀ u, TakesUnit after u →
        unescapeUnits (before ++ '\\' :: 'u' :: after)
          = unescapeUnits before ++ u :: unescapeUnits (after.drop 4)) ∧
      ((¬ ∃ u, TakesUnit after u) →
        unescape (before ++ '\\' :: 'u' :: after) = unescape before ++ 'u' :: unescape after) ∧
      (ReadsByDigits before after ↔ ¬ BeginsLoosely after) := by
  refine ⟨fun u => takesUnit_iff, fun u => unescapeUnits_of_takesUnit h,
    unescape_of_not_takesUnit h, ?_⟩
  constructor
  · rintro ⟨hdigits, -⟩ hloose
    exact not_hasFourDigits_of_beginsLoosely hloose
      (hdigits.1 (exists_takesUnit_iff.2 (.inr hloose)))
  · intro hloose
    have hdigits : (∃ u, TakesUnit after u) ↔ HasFourDigits after := by
      rw [exists_takesUnit_iff, or_iff_left hloose]
    exact ⟨hdigits, fun hnot => unescape_of_not_takesUnit h (mt hdigits.1 hnot)⟩

end

/-- Behind a pair of backslashes, the mark of base sixteen is taken for digits. -/
theorem not_readsByDigits_marked :
    EscapeBegins "\\\\".toList ∧ ¬ ReadsByDigits "\\\\".toList "0x1f".toList := by
  have hbegins : EscapeBegins "\\\\".toList := by decide
  have hloose : BeginsLoosely "0x1f".toList := by
    refine ⟨"0x1f".toList, [], 0x1f, rfl, rfl, (readInteger_sixteen_iff _ _).1 (by decide), ?_⟩
    intro hdigits
    exact absurd (hdigits 'x' (by simp)) (by decide)
  refine ⟨hbegins, fun hreads => ?_⟩
  exact (readsByDigits_iff_not_loose hbegins _).2.2.2.1 hreads hloose

/-- A sign and three digits are taken for a code unit, and the sign is lost with the
`u`. -/
theorem not_readsByDigits_signed :
    EscapeBegins [] ∧ ¬ HasFourDigits "+041".toList ∧ unescape "\\u+041".toList = "A".toList ∧
      ¬ ReadsByDigits [] "+041".toList := by
  have hloose : BeginsLoosely "+041".toList := by
    refine ⟨"+041".toList, [], 0x41, rfl, rfl, (readInteger_sixteen_iff _ _).1 (by decide), ?_⟩
    intro hdigits
    exact absurd (hdigits '+' (by simp)) (by decide)
  have hdigits := not_hasFourDigits_of_beginsLoosely hloose
  refine ⟨by decide, hdigits, by decide +kernel, fun hreads => hdigits ?_⟩
  exact hreads.1.1 (exists_takesUnit_iff.2 (.inr hloose))

end StartupReport.Properties
