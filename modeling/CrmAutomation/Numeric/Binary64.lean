/-!
Double-precision numbers in exact arithmetic.

The finite ones are the multiples of `2 ^ -1074` that have at most 53 significant bits, so a
magnitude is held as a count of such units and every operation is the exact result rounded once,
to the nearest and a tie to the even neighbour.
-/

namespace CrmAutomation.Numeric

/-- A double-precision number; a finite one is `± units · 2 ^ -1074`. What is not a number carries a
payload, which tells one such datum from another and counts for nothing else. -/
inductive Binary64 where
  | nan (payload : Nat)
  | infinite (negative : Bool)
  | finite (negative : Bool) (units : Nat)
  deriving DecidableEq, Repr, Inhabited

namespace Binary64

/-- The units in one. -/
def unit : Nat := Nat.pow 2 1074

/-- The least count of units beyond the largest finite number. -/
def limit : Nat := Nat.pow 2 2098

def zero : Binary64 := .finite false 0

/-- What is not a number, as arithmetic and JSON texts give it. -/
def noNumber : Binary64 := .nan 0

/-! ### Rounding -/

/-- The quotient as an integer, a tie going to the even neighbour. -/
def roundQuotient (num den : Nat) : Nat :=
  let q := num / den
  let r := num % den
  if 2 * r < den then q
  else if 2 * r = den then q + q % 2
  else q + 1

/-- The step between neighbouring counts of at most 53 bits, at magnitude `q`. -/
def step (q : Nat) : Nat := Nat.pow 2 (q.log2 - 52)

/-- The count of at most 53 significant bits nearest to the quotient. -/
def roundUnits (num den : Nat) : Nat :=
  let s := step (num / den)
  roundQuotient num (den * s) * s

/-- The number nearest to `± num / den` units; beyond the largest one it is infinite. -/
def ofUnits (negative : Bool) (num den : Nat) : Binary64 :=
  let u := roundUnits num den
  if u < limit then .finite negative u else .infinite negative

/-- The number nearest to `± num / den`. -/
def ofRatio (negative : Bool) (num den : Nat) : Binary64 := ofUnits negative (num * unit) den

/-- The number nearest to an integer. -/
def ofInt (n : Int) : Binary64 := ofRatio (n < 0) n.natAbs 1

/-- The quotient of two integers rounded once; the divisor is positive. -/
def ofQuotient (n : Int) (d : Nat) : Binary64 := ofRatio (n < 0) n.natAbs d

/-! ### Classes -/

def isFinite : Binary64 → Bool
  | .finite _ _ => true
  | _ => false

/-- Zero of either sign. -/
def isZero : Binary64 → Bool
  | .finite _ u => u == 0
  | _ => false

/-- A finite number without a fraction. -/
def isWhole : Binary64 → Bool
  | .finite _ u => u % unit == 0
  | _ => false

/-- A count of units with its sign. -/
def signedUnits (negative : Bool) (units : Nat) : Int := if negative then -(units : Int) else units

/-! ### To integers -/

/-- The integer part, toward zero, of a finite number. -/
def truncate? : Binary64 → Option Int
  | .finite n u => some (signedUnits n (u / unit))
  | _ => none

/-- Why a number has no integer part. -/
inductive NoInteger where
  | infinity
  | notANumber
  deriving DecidableEq, Repr

def NoInteger.message : NoInteger → String
  | infinity => "cannot convert float infinity to integer"
  | notANumber => "cannot convert float NaN to integer"

/-- A function of the units of a finite number, with its sign. -/
def toIntegerBy (f : Nat → Nat) : Binary64 → Except NoInteger Int
  | .finite n u => .ok (signedUnits n (f u))
  | .infinite _ => .error .infinity
  | .nan _ => .error .notANumber

/-- The integer part, toward zero. -/
def truncate (x : Binary64) : Except NoInteger Int := x.toIntegerBy (· / unit)

/-- The nearest integer, a tie going to the even one. -/
def round (x : Binary64) : Except NoInteger Int := x.toIntegerBy (roundQuotient · unit)

/-- Rounded to one decimal place, a tie going to the even digit. -/
def roundTenth : Binary64 → Binary64
  | .finite n u => ofRatio n (roundQuotient (u * 10) unit) 10
  | x => x

/-! ### Order -/

/-- The order of two numbers; none when one is not a number. -/
def compare? : Binary64 → Binary64 → Option Ordering
  | .nan _, _ | _, .nan _ => none
  | .infinite a, .infinite b => some (compare b.toNat a.toNat)
  | .infinite a, .finite _ _ => some (if a then .lt else .gt)
  | .finite _ _, .infinite b => some (if b then .gt else .lt)
  | .finite a u, .finite b v => some (compare (signedUnits a u) (signedUnits b v))

/-- The order of a number and an integer, exactly. -/
def compareInt? : Binary64 → Int → Option Ordering
  | .nan _, _ => none
  | .infinite a, _ => some (if a then .lt else .gt)
  | .finite a u, n => some (compare (signedUnits a u) (n * unit))

/-- The order of two numbers, whole ones or doubles; none when one is not a number. -/
def compareNumbers : Int ⊕ Binary64 → Int ⊕ Binary64 → Option Ordering
  | .inl m, .inl n => some (compare m n)
  | .inl m, .inr y => (y.compareInt? m).map Ordering.swap
  | .inr x, .inl n => x.compareInt? n
  | .inr x, .inr y => x.compare? y

def lt (x y : Binary64) : Bool := compare? x y == some .lt

def le (x y : Binary64) : Bool := compare? x y == some .lt || compare? x y == some .eq

/-- Equal in value; zeros of both signs are equal, and nothing equals what is not a number. -/
def sameValue (x y : Binary64) : Bool := compare? x y == some .eq

/-! ### Arithmetic -/

/-- The number of a signed count of units; `negativeZero` is the sign of a zero. -/
def ofSigned (negativeZero : Bool) (n : Int) : Binary64 :=
  if n = 0 then .finite negativeZero 0 else ofUnits (n < 0) n.natAbs 1

def add : Binary64 → Binary64 → Binary64
  | .nan p, _ | _, .nan p => .nan p
  | .infinite a, .infinite b => if a == b then .infinite a else noNumber
  | .infinite a, .finite _ _ => .infinite a
  | .finite _ _, .infinite b => .infinite b
  | .finite a u, .finite b v => ofSigned (a && b) (signedUnits a u + signedUnits b v)

def mul : Binary64 → Binary64 → Binary64
  | .nan p, _ | _, .nan p => .nan p
  | .infinite a, .infinite b => .infinite (a != b)
  | .infinite a, .finite b v => if v = 0 then noNumber else .infinite (a != b)
  | .finite a u, .infinite b => if u = 0 then noNumber else .infinite (a != b)
  | .finite a u, .finite b v => ofUnits (a != b) (u * v) unit

/-- Divided by a positive integer that is itself a double. -/
def divNat : Binary64 → Nat → Binary64
  | .finite a u, d => ofUnits a u d
  | x, _ => x

end Binary64

end CrmAutomation.Numeric
