/-
StartupReport/StandIn/Yaml/Binary.lean

Bytes written in base sixty-four.

Four digits make three bytes.  The last group may be shorter, with equals signs
in the place of its missing digits, and what follows it does not count; nor do
characters between the digits that are none.
-/
import StartupReport.Value

namespace StartupReport.Yaml

/-- The value of a digit to the base sixty-four. -/
def sextet? (c : Char) : Option Nat :=
  if 'A' ≤ c && c ≤ 'Z' then some (c.toNat - 'A'.toNat)
  else if 'a' ≤ c && c ≤ 'z' then some (c.toNat - 'a'.toNat + 26)
  else if '0' ≤ c && c ≤ '9' then some (c.toNat - '0'.toNat + 52)
  else if c = '+' then some 62
  else if c = '/' then some 63
  else none

/-- The bytes of a text in base sixty-four, of which `place` digits of a group and
`pads` equals signs after them were read and the bits `left` are left over. -/
def octets (place left pads : Nat) : List Char → Option (List Nat)
  | [] => if place = 0 then some [] else none
  | c :: cs =>
    if c = '=' then
      if place < 2 then octets place left pads cs
      else if 4 ≤ place + pads + 1 then some []
      else octets place left (pads + 1) cs
    else
      match sextet? c, place with
      | none, _ => octets place left pads cs
      | some v, 0 => octets 1 v 0 cs
      | some v, 1 => (octets 2 (v % 16) 0 cs).map ((left * 4 + v / 16) :: ·)
      | some v, 2 => (octets 3 (v % 4) 0 cs).map ((left * 16 + v / 4) :: ·)
      | some v, _ => (octets 0 0 0 cs).map ((left * 64 + v) :: ·)

/-- The bytes of a text in base sixty-four, which holds ASCII characters only. -/
def bytesOfBase64? (text : String) : Option (List Nat) :=
  let cs := text.toList
  if cs.all fun c => c.toNat < 0x80 then octets 0 0 0 cs else none

/-- Bytes as they are shown. -/
def shownBytes (bytes : List Nat) : String :=
  let cs := bytes.map Char.ofNat
  let quote := Text.quoteFor cs
  let shownChar (c : Char) : List Char :=
    if c.toNat < 0x80 then Text.quotedChar quote c else Text.codeEscape c
  String.ofList ('b' :: quote :: cs.flatMap shownChar ++ [quote])

/-- Bytes as a value. -/
def bytesValue (bytes : List Nat) : Value :=
  let shown := shownBytes bytes
  let kind : Foreign :=
    { shape := "bytes", shown, quoted := shown, isPresent := !bytes.isEmpty, isIterable := true
      number := none, mark := shown }
  .other kind (bytes.map fun b => .int (Int.ofNat b))

end StartupReport.Yaml
