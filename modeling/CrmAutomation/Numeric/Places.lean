import CrmAutomation.Numeric.Shortest

/-!
Doubles written with a given number of decimal places: positional, with an exponent, or whichever of
the two suits the size of the number.

The digits are those of the exact value rounded once, a tie going to the even digit.
-/

namespace CrmAutomation.Numeric.Places

open Binary64

/-- A point and what follows it; a point without digits is written only on demand. -/
def fraction (point : Bool) (ds : List Char) : List Char :=
  if ds.isEmpty && !point then [] else '.' :: ds

/-- Zeros before digits, so that there are at least a number of them. -/
def padded (n : Nat) (ds : List Char) : List Char := List.replicate (n - ds.length) '0' ++ ds

/-- Digits without the zeros at their end. -/
def trimmed (ds : List Char) : List Char := (ds.reverse.dropWhile (· == '0')).reverse

/-- Positional, with `places` digits after the point. -/
def positional (point : Bool) (places units : Nat) : List Char :=
  let ds := padded (places + 1) (natDigits (roundQuotient (units * Nat.pow 10 places) unit))
  ds.take (ds.length - places) ++ fraction point (ds.drop (ds.length - places))

/-- The exponent of the first digit of a number other than zero. -/
def leadExponent (units : Nat) : Int :=
  if unit ≤ units then (natDigits (units / unit)).length - 1
  else -((natDigits ((unit + units - 1) / units - 1)).length : Int)

/-- `places + 1` digits of a number and the exponent of the first of them. -/
def leading (places units : Nat) : List Char × Int :=
  if units = 0 then (List.replicate (places + 1) '0', 0)
  else
    let e := leadExponent units
    let shift := (places : Int) - e
    let n :=
      if 0 ≤ shift then roundQuotient (units * Nat.pow 10 shift.toNat) unit
      else roundQuotient units (unit * Nat.pow 10 (-shift).toNat)
    let ds := natDigits n
    -- rounding up may add a digit
    if places + 1 < ds.length then (ds.take (places + 1), e + 1) else (ds, e)

/-- One digit, the others after the point, and the exponent. -/
def exponential (point : Bool) (ds : List Char) (e : Int) : List Char :=
  ds.take 1 ++ fraction point (ds.drop 1) ++ 'e' :: exponentDigits e

/-- `precision` digits in all. Zeros at the end are dropped unless a point is demanded; an exponent
is written for numbers below `0.0001` and for those with more digits before the point. -/
def general (point : Bool) (precision units : Nat) : List Char :=
  let digits := max precision 1
  let (all, e) := leading (digits - 1) units
  let settle := fun ds => if point then ds else trimmed ds
  if e < -4 || digits ≤ e then exponential point (all.take 1 ++ settle (all.drop 1)) e
  else if e < 0 then
    '0' :: fraction point (List.replicate (-e - 1).toNat '0' ++ settle all)
  else all.take (e + 1).toNat ++ fraction point (settle (all.drop (e + 1).toNat))

end CrmAutomation.Numeric.Places
