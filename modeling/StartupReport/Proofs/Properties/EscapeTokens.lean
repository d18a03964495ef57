/-
StartupReport/Proofs/Properties/EscapeTokens.lean

What a text with escapes stands for, token by token.

A token is a character that is no backslash, a backslash before a character that
is not `u`, or a backslash, `u` and four hexadecimal digits.  Each has its code
units whatever stands around it (`unescapeUnits_token_append`), so the units of a
text are those of its tokens in order, and only the last step, which reads units as
characters, looks across the border between two tokens: halves of a pair may come
from different tokens.

Main results: `unescape_eq_iff_decodes` says which text a sequence of tokens stands
for, and `unescape_escape` that escaping loses nothing.
-/
import StartupReport.Proofs.Properties.EscapeLaws
import StartupReport.Proofs.Text.UnitDecoding

namespace StartupReport.Properties

open Text (unitsOf Decodes decodes_iff)

/-! ### Escaping loses nothing -/

/-- **What is escaped is read back.**  This holds of every text: of one with runs of
backslashes, with what looks like an escape or a line end, with characters beyond
U+FFFF, and of one that begins with what would be a mark of the order of bytes. -/
theorem unescape_escape (v : List Char) : unescape (escape v) = v := by
  have h := unescape_escape_append v []
  rwa [List.append_nil, unescape_nil, List.append_nil] at h

/-- The mark of the order of bytes, an escape of it, and a character beyond U+FFFF. -/
example : escape "\uFEFF\\ufeff😀".toList = "\\ufeff\\\\ufeff\\ud83d\\ude00".toList := by
  decide +kernel

/-! ### Tokens -/

/-- A hexadecimal digit of ASCII. -/
abbrev HexDigit := { c : Char // isHexDigit c = true }

/-- The letters that name a control character behind a backslash. -/
def controls : List (Char × Char) := [('t', '\t'), ('n', '\n'), ('r', '\r'), ('f', '\x0C')]

/-- A piece of a text with escapes. -/
inductive Token
  /-- A character that stands for itself. -/
  | plain (c : Char) (h : c ≠ '\\')
  /-- A backslash before a character other than `u`. -/
  | escaped (c : Char) (h : c ≠ 'u')
  /-- A backslash, `u` and four hexadecimal digits. -/
  | unit (a b c d : HexDigit)

namespace Token

/-- The characters of a token. -/
def text : Token → List Char
  | plain c _ => [c]
  | escaped c _ => ['\\', c]
  | unit a b c d => ['\\', 'u', a, b, c, d]

/-- The code units that a token stands for. -/
def units : Token → List UInt16
  | plain c _ => unitsOf c
  | escaped c _ => unitsOf ((controls.lookup c).getD c)
  | unit a b c d => [UInt16.ofNat (fourDigits a b c d)]

end Token

theorem escapedChar_eq (c : Char) : escapedChar c = (controls.lookup c).getD c := by
  unfold escapedChar controls
  by_cases ht : c = 't'
  · subst ht; rfl
  by_cases hn : c = 'n'
  · subst hn; rfl
  by_cases hr : c = 'r'
  · subst hr; rfl
  by_cases hf : c = 'f'
  · subst hf; rfl
  simp [ht, hn, hr, hf, List.lookup_cons, beq_false_of_ne]

theorem firstPiece_escaped {c : Char} (h : c ≠ 'u') (cs : List Char) :
    firstPiece '\\' (c :: cs) = (unitsOf (escapedChar c), 1) := by
  rw [firstPiece, if_pos rfl, if_neg h]

theorem firstPiece_unit (a b c d : HexDigit) (cs : List Char) :
    firstPiece '\\' ('u' :: a :: b :: c :: d :: cs)
      = ([UInt16.ofNat (fourDigits a b c d)], 5) := by
  rw [firstPiece, if_pos rfl, if_pos rfl, unitAt?,
    namedUnit_hexDigits a.property b.property c.property d.property]

/-- A token stands for its units, whatever follows. -/
theorem unescapeUnits_token_append (t : Token) (rest : List Char) :
    unescapeUnits (t.text ++ rest) = t.units ++ unescapeUnits rest := by
  cases t with
  | plain c h =>
    rw [Token.text, Token.units, List.singleton_append, unescapeUnits_cons, firstPiece_of_ne h,
      List.drop_zero]
  | escaped c h =>
    rw [Token.text, Token.units, List.cons_append, List.singleton_append, unescapeUnits_cons,
      firstPiece_escaped h, escapedChar_eq]
    rfl
  | unit a b c d =>
    show unescapeUnits ('\\' :: 'u' :: a :: b :: c :: d :: rest) = _
    rw [unescapeUnits_cons, firstPiece_unit]
    rfl

/-- A sequence of tokens stands for the units of its tokens. -/
theorem unescapeUnits_tokens (ts : List Token) :
    unescapeUnits (ts.flatMap Token.text) = ts.flatMap Token.units := by
  induction ts with
  | nil => rfl
  | cons t ts ih => rw [List.flatMap_cons, List.flatMap_cons, unescapeUnits_token_append, ih]

/-- **Escapes are read token by token, characters unit by unit.**  A sequence of tokens
stands for exactly the text that its code units stand for: a high unit directly
followed by a low one is one character, whichever tokens they come from, and every
other unit of the surrogate range is one U+FFFD.  So no character of the text lies in
that range. -/
theorem unescape_eq_iff_decodes (ts : List Token) :
    (∀ cs, unescape (ts.flatMap Token.text) = cs ↔ Decodes (ts.flatMap Token.units) cs) ∧
    ∀ c ∈ unescape (ts.flatMap Token.text), ¬ (0xD800 ≤ c.toNat ∧ c.toNat < 0xE000) := by
  constructor
  · intro cs
    rw [decodes_iff, unescape_eq, unescapeUnits_tokens]
  · intro c _
    have hvalid := Text.char_toNat_valid c
    omega

/-- The halves of a pair are joined across two tokens, and a half that is left over is not. -/
example : unescape "\\ud83d\\ude00\\ude00".toList = ['😀', '\uFFFD'] := by decide +kernel

end StartupReport.Properties
