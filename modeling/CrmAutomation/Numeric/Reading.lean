import CrmAutomation.Text.Blank
import CrmAutomation.Text.Digit
import CrmAutomation.Numeric.Binary64

/-!
Numbers read from decimal text: the one grammar of decimals, and two ways to admit more than it,
for texts compared by a condition and for texts given as parameters.
-/

namespace CrmAutomation.Numeric

open Text

/-- `± digits · 10 ^ exponent`. -/
structure Decimal where
  negative : Bool
  digits : Nat
  exponent : Int
  deriving DecidableEq, Repr

namespace Decimal

/-- The natural number that ASCII digits write. -/
def natOfDigits (ds : List Char) : Nat := ds.foldl (fun n c => n * 10 + (c.toNat - 48)) 0

/-- Splits off an optional sign. -/
def splitSign : List Char → Bool × List Char
  | '-' :: cs => (true, cs)
  | '+' :: cs => (false, cs)
  | cs => (false, cs)

/-- An exponent part, or nothing; none when it is malformed. -/
def exponentPart? : List Char → Option Int
  | [] => some 0
  | c :: cs =>
    if c == 'e' || c == 'E' then
      let (negative, ds) := splitSign cs
      if !ds.isEmpty && ds.all isAsciiDigit then
        some (if negative then -(natOfDigits ds : Int) else natOfDigits ds)
      else none
    else none

/-- The part after the integer digits: an optional fraction and an optional exponent. -/
def ofParts? (negative : Bool) (whole rest : List Char) : Option Decimal :=
  let (fraction, tail) :=
    match rest with
    | '.' :: cs => (cs.takeWhile isAsciiDigit, cs.dropWhile isAsciiDigit)
    | cs => ([], cs)
  if whole.isEmpty && fraction.isEmpty then none
  else
    (exponentPart? tail).map fun e =>
      ⟨negative, natOfDigits (whole ++ fraction), e - fraction.length⟩

/-- A decimal: sign, digits with at most one point and at least one digit, exponent. -/
def ofChars? (cs : List Char) : Option Decimal :=
  let (negative, body) := splitSign cs
  ofParts? negative (body.takeWhile isAsciiDigit) (body.dropWhile isAsciiDigit)

/-- The decimal exponents beyond which a number is infinite or zero for certain. -/
def reach : Int := 400

/-- The nearest double. -/
def toBinary64 (d : Decimal) : Binary64 :=
  if d.digits = 0 then .finite d.negative 0
  else
    let top := d.exponent + (Nat.toDigits 10 d.digits).length
    if reach < top then .infinite d.negative
    else if top < -reach then .finite d.negative 0
    else if 0 ≤ d.exponent then .ofRatio d.negative (d.digits * Nat.pow 10 d.exponent.toNat) 1
    else .ofRatio d.negative d.digits (Nat.pow 10 (-d.exponent).toNat)

end Decimal

namespace Binary64

/-- An ASCII letter in lower case. -/
def lowerAscii (c : Char) : Char := if 'A' ≤ c && c ≤ 'Z' then Char.ofNat (c.toNat + 32) else c

/-- A decimal, or a signed `inf`, `infinity` or `nan` in any case. -/
def ofChars? (cs : List Char) : Option Binary64 :=
  let (negative, body) := Decimal.splitSign cs
  let name := String.ofList (body.map lowerAscii)
  if name == "inf" || name == "infinity" then some (.infinite negative)
  else if name == "nan" then some noNumber
  else (Decimal.ofChars? cs).map Decimal.toBinary64

/-! ### Texts compared by a condition -/

/-- A decimal digit of any script as the ASCII digit of its value. -/
def asciiDigit (c : Char) : Char :=
  match decimalValue? c with
  | some n => Char.ofNat (48 + n)
  | none => c

/-- Drops underscores; none unless each stands between two digits. -/
def dropInnerUnderscores? (before : Char) : List Char → Option (List Char)
  | [] => some []
  | '_' :: cs =>
    match cs with
    | d :: _ =>
      if isAsciiDigit before && isAsciiDigit d then dropInnerUnderscores? '_' cs else none
    | [] => none
  | c :: cs => (dropInnerUnderscores? c cs).map (c :: ·)

/-- The number that a text writes: outer white space is dropped, digits may be of any script, and
single underscores may stand between digits. -/
def ofText? (s : String) : Option Binary64 :=
  (dropInnerUnderscores? ' ' ((trimChars isWhiteSpace s.toList).map asciiDigit)).bind ofChars?

/-! ### Texts given as parameters -/

/-- Drops underscores; none if one is first or last or two are adjacent, or if there is none. -/
def dropUnderscores? (cs : List Char) : Option (List Char) :=
  let doubled := (cs.zip cs.tail).any fun p => p.1 == '_' && p.2 == '_'
  if !cs.contains '_' || cs.head? == some '_' || cs.getLast? == some '_' || doubled then none
  else some (cs.filter (· != '_'))

/-- The number that a parameter's text writes, in ASCII digits. A text with underscores has no outer
white space. -/
def ofParameter? (s : String) : Option Binary64 :=
  match ofChars? (trimChars isWhiteSpace s.toList) with
  | some x => some x
  | none => (dropUnderscores? s.toList).bind ofChars?

end Binary64

/-! ### Integers given as parameters -/

/-- Why a text or number is no integer parameter. -/
inductive IntegerFault where
  | malformed
  | tooLong
  deriving DecidableEq, Repr

namespace IntegerText

/-- What follows leading zeros and the underscores among them, `last` being the last character of
these: another digit, or a minus; or the last zero, at the end and before a point. -/
def afterZeros? (last : Char) : List Char → Option (List Char)
  | [] => some [last]
  | c :: cs =>
    if c == '0' || c == '_' then afterZeros? c cs
    else if isAsciiDigit c || c == '-' then some (c :: cs)
    else if c == '.' then some (last :: c :: cs)
    else none

/-- Drops leading zeros; none unless a digit comes first. -/
def dropZeros? : List Char → Option (List Char)
  | [] => none
  | c :: cs =>
    if c == '0' then afterZeros? c cs
    else if isAsciiDigit c then some (c :: cs)
    else none

/-- Drops a fraction that consists of zeros, one at least. -/
def dropZeroFraction (cs : List Char) : List Char :=
  match cs.dropWhile (· != '.') with
  | '.' :: z :: zs => if (z :: zs).all (· == '0') then cs.takeWhile (· != '.') else cs
  | _ => cs

/-- The number that digits write. A number that starts with a zero has no other digit. -/
def magnitude (cs : List Char) : Except IntegerFault Nat :=
  let digits := cs.takeWhile isAsciiDigit
  if digits.isEmpty || digits.head? == some '0' && 1 < digits.length then .error .malformed
  else if digitLimit < digits.length then .error .tooLong
  else if digits.length < cs.length then .error .malformed
  else .ok (Decimal.natOfDigits digits)

/-- The number that an unsigned text writes; a minus may follow leading zeros. -/
def unsigned (cs : List Char) : Except IntegerFault Int :=
  match dropZeros? cs with
  | none => .error .malformed
  | some rest =>
    let whole := dropZeroFraction rest
    match (Binary64.dropUnderscores? whole).getD whole with
    | '-' :: ds => (magnitude ds).map fun n => -(n : Int)
    | ds => (magnitude ds).map fun n => (n : Int)

end IntegerText

/-- The integer that a parameter's text writes: a sign, digits, and a fraction of zeros only. -/
def integerOfParameter (s : String) : Except IntegerFault Int :=
  match trimChars isWhiteSpace s.toList with
  | '+' :: cs => IntegerText.unsigned cs
  | '-' :: cs =>
    match IntegerText.dropZeros? cs with
    | some ('-' :: _) => .error .malformed
    | _ => (IntegerText.unsigned cs).map (- ·)
  | cs => IntegerText.unsigned cs

end CrmAutomation.Numeric
