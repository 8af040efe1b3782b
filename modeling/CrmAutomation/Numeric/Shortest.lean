import CrmAutomation.Numeric.Binary64
import CrmAutomation.Text.Digit

/-!
Decimal texts of doubles: the fewest digits that read back as the same number, and of those the
nearest to it.
-/

namespace CrmAutomation.Numeric

/-- The decimal digits of a natural number. -/
def natDigits (n : Nat) : List Char := Nat.toDigits 10 n

/-- An integer in decimal, of however many digits. -/
def intText (n : Int) : String :=
  String.ofList (if n < 0 then '-' :: natDigits n.natAbs else natDigits n.natAbs)

/-- The integer has no more digits than are written. -/
def hasText (n : Int) : Bool := (natDigits n.natAbs).length ≤ Text.digitLimit

namespace Binary64

/-- `⌊log₁₀ (num / den)⌋` for a positive quotient. -/
def decimalMagnitude (num den : Nat) : Int :=
  if den ≤ num then (natDigits (num / den)).length - 1
  else
    let n := (natDigits (den / num)).length
    if den ≤ num * Nat.pow 10 (n - 1) then -((n : Int) - 1) else -(n : Int)

/-- What reads back as a positive count of units: four times the bounds, and whether they count. -/
structure Basin where
  low : Nat
  high : Nat
  closed : Bool

/-- Half a step to each side; only a quarter below a power of two that starts a wider step. -/
def basin (u : Nat) : Basin :=
  let s := step u
  { low := 4 * u - (if u = Nat.pow 2 52 * s && s ≠ 1 then s else 2 * s)
    high := 4 * u + 2 * s
    closed := u / s % 2 = 0 }

/-- The point `c · a / b` lies in the basin, in quarter units. -/
def Basin.holds (z : Basin) (c a b : Nat) : Bool :=
  if z.closed then z.low * b ≤ c * a && c * a ≤ z.high * b
  else z.low * b < c * a && c * a < z.high * b

/-- The point of the grid of `10 ^ k` nearest to a count of units among those that read back; of
two equally near the even one. -/
def onGrid? (u : Nat) (k : Int) : Option Nat :=
  let z := basin u
  -- a grid point `c` is `c * a / b` quarter units
  let a := 4 * unit * Nat.pow 10 k.toNat
  let b := Nat.pow 10 (-k).toNat
  let c := 4 * u * b / a
  match z.holds c a b, z.holds (c + 1) a b with
  | true, true =>
    let r := 2 * (4 * u * b - c * a)
    some (if r < a || (r == a && c % 2 == 0) then c else c + 1)
  | true, false => some c
  | false, true => some (c + 1)
  | false, false => none

/-- Digits and exponent of the shortest decimal that reads back as a positive count of units. -/
def shortest (u : Nat) : Nat × Int :=
  let m := decimalMagnitude u unit
  ((List.range 17).findSome? fun (n : Nat) =>
    let k := m - (n : Int)
    (onGrid? u k).map (·, k)).getD (0, 0)

end Binary64

/-! ### Layout -/

/-- Where a decimal text turns to an exponent, and the names of what is no finite number. -/
structure FloatStyle where
  /-- The least decimal exponent that is written out with leading zeros. -/
  leastPositional : Int := -4
  /-- The least decimal exponent that is not written out any more. -/
  exponentFrom : Int := 16
  nan : String
  infinity : String

/-- The digits without trailing zeros. -/
def significant (ds : List Char) : List Char := (ds.reverse.dropWhile (· == '0')).reverse

/-- An exponent with its sign and at least two digits. -/
def exponentDigits (e : Int) : List Char :=
  let ds := natDigits e.natAbs
  (if e < 0 then '-' else '+') :: (if ds.length < 2 then '0' :: ds else ds)

/-- Lays out the number `0.d₁d₂… · 10 ^ point`. -/
def FloatStyle.layout (style : FloatStyle) (ds : List Char) (point : Int) : List Char :=
  if point - 1 < style.leastPositional || style.exponentFrom ≤ point - 1 then
    match ds with
    | [] => []
    | d :: rest =>
      d :: (if rest.isEmpty then [] else '.' :: rest) ++ 'e' :: exponentDigits (point - 1)
  else if point ≤ 0 then
    '0' :: '.' :: List.replicate (-point).toNat '0' ++ ds
  else if ds.length ≤ point.toNat then
    ds ++ List.replicate (point.toNat - ds.length) '0' ++ ['.', '0']
  else
    ds.take point.toNat ++ '.' :: ds.drop point.toNat

/-- The text of a double. -/
def FloatStyle.render (style : FloatStyle) : Binary64 → String
  | .nan _ => style.nan
  | .infinite n => if n then "-" ++ style.infinity else style.infinity
  | .finite n u =>
    let body :=
      if u = 0 then ['0', '.', '0']
      else
        let (c, k) := Binary64.shortest u
        let all := natDigits c
        style.layout (significant all) (all.length + k)
    String.ofList (if n then '-' :: body else body)

/-- Positional from `0.0001` to below `10 ^ 16`. -/
def plainFloats : FloatStyle := { nan := "nan", infinity := "inf" }

/-- The same digits with the names that JSON texts use. -/
def jsonFloats : FloatStyle := { nan := "NaN", infinity := "Infinity" }

end CrmAutomation.Numeric
