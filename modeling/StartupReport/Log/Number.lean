/-
StartupReport/Log/Number.lean

Whole numbers in the forms that a pattern may ask for: decimal, octal,
hexadecimal, and the two forms of numbers with a fraction.

A number with a fraction has 53 significant bits.  It is written in places
after the point, or with one digit before the point and a power of ten; a
digit that is left out rounds the last one to the nearest, a half to even.
-/
import StartupReport.Text.Digit

namespace StartupReport.Log

/-- A quotient rounded to the nearest whole number, a half to the even one. -/
def roundedQuotient (n d : Nat) : Nat :=
  let q := n / d
  let r := n % d
  if 2 * r < d then q
  else if d < 2 * r then q + 1
  else if q % 2 = 0 then q else q + 1

/-- A whole number with at most 53 significant bits. -/
def doublePrecision (n : Nat) : Nat :=
  if n < Nat.pow 2 53 then n
  else
    let unit := Nat.pow 2 (n.log2 - 52)
    roundedQuotient n unit * unit

/-- The digits of a number in a base up to sixteen. -/
def digitsIn (base n : Nat) : List Char := Nat.toDigits base n

/-- A number in decimal with places after the point; the point stands without
places only if it is asked for. -/
def fixedForm (alwaysPoint : Bool) (places n : Nat) : List Char :=
  digitsIn 10 n ++
    (if places = 0 then (if alwaysPoint then ['.'] else []) else '.' :: List.replicate places '0')

/-- A number rounded to so many significant digits, and its power of ten. -/
def significant (count n : Nat) : List Char × Nat :=
  if n = 0 then (List.replicate count '0', 0)
  else
    let length := (digitsIn 10 n).length
    if length ≤ count then (digitsIn 10 n ++ List.replicate (count - length) '0', length - 1)
    else
      let digits := digitsIn 10 (roundedQuotient n (Nat.pow 10 (length - count)))
      if count < digits.length then (digits.take count, length) else (digits, length - 1)

/-- A power of ten, of at least two digits. -/
def exponentText (mark : Char) (power : Nat) : List Char :=
  mark :: '+' :: (if power < 10 then '0' :: digitsIn 10 power else digitsIn 10 power)

/-- A number with one digit before the point and a power of ten. -/
def scientificForm (mark : Char) (alwaysPoint : Bool) (digits : List Char) (power : Nat) :
    List Char :=
  match digits with
  | [] => []
  | first :: more =>
    first :: (if more.isEmpty then (if alwaysPoint then ['.'] else []) else '.' :: more) ++
      exponentText mark power

/-- The shorter of the two forms: zeros at the end are left out unless the point
is asked for. -/
def generalForm (mark : Char) (alwaysPoint : Bool) (count n : Nat) : List Char :=
  let count := max count 1
  let (digits, power) := significant count n
  if power < count then
    if alwaysPoint then fixedForm true (count - 1 - power) n else digitsIn 10 n
  else
    let kept := if alwaysPoint then digits else
      match digits with
      | [] => []
      | first :: more => first :: (more.reverse.dropWhile (· == '0')).reverse
    scientificForm mark alwaysPoint kept power

/-- A number in scientific form with places after the point. -/
def exponentForm (mark : Char) (alwaysPoint : Bool) (places n : Nat) : List Char :=
  let (digits, power) := significant (places + 1) n
  scientificForm mark alwaysPoint digits power

end StartupReport.Log
