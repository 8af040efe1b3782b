import CrmAutomation.Numeric.Places
import CrmAutomation.Numeric.Reading
import CrmAutomation.Value.Text

/-!
Placeholders in the text of an event, such as `%s` or `%(name)08.2f`, and the arguments that replace
them.

The arguments are one value, which one placeholder without a name takes as a whole; a placeholder
with a name takes the field of that name.
-/

namespace CrmAutomation.Log

open Numeric

/-- Why placeholders cannot be replaced. -/
inductive PlaceholderFault where
  /-- A placeholder is not well formed, or a number has no integer part. -/
  | malformed
  /-- An argument is missing, is left over, or does not suit its placeholder. -/
  | unsuited
  | missingName (name : String)
  /-- A number is too large for its placeholder. -/
  | outOfRange
  /-- More room is asked for than there is. -/
  | noRoom
  deriving DecidableEq, Repr

/-- How a placeholder lays out its argument. -/
structure Layout where
  left : Bool := false
  plus : Bool := false
  blank : Bool := false
  alternate : Bool := false
  zeros : Bool := false
  width : Option Nat := none
  precision : Option Nat := none
  deriving DecidableEq, Repr

namespace Layout

/-- The layout after a flag. -/
def flag? (l : Layout) (c : Char) : Option Layout :=
  if c == '-' then some { l with left := true }
  else if c == '+' then some { l with plus := true }
  else if c == ' ' then some { l with blank := true }
  else if c == '#' then some { l with alternate := true }
  else if c == '0' then some { l with zeros := true }
  else none

/-- Reads flags. -/
def flags (l : Layout) : List Char → Layout × List Char
  | [] => (l, [])
  | c :: cs =>
    match l.flag? c with
    | some l => flags l cs
    | none => (l, c :: cs)

/-- Fills up to the width with blanks. -/
def fill (l : Layout) (cs : List Char) : List Char :=
  let gap := List.replicate (l.width.getD 0 - cs.length) ' '
  if l.left then cs ++ gap else gap ++ cs

/-- Lays out the sign, the mark of the base and the digits of a number. -/
def number (l : Layout) (negative : Bool) (base digits : List Char) : List Char :=
  let sign := if negative then ['-'] else if l.plus then ['+'] else if l.blank then [' '] else []
  let front := sign ++ base
  if l.zeros && !l.left then
    front ++ List.replicate (l.width.getD 0 - front.length - digits.length) '0' ++ digits
  else l.fill (front ++ digits)

end Layout

/-! ### Conversions -/

/-- A text in which what is not ASCII is escaped. -/
def asciiOnly (s : String) : List Char :=
  s.toList.flatMap fun c =>
    if c.toNat < 0x80 then [c]
    else if c.toNat < 0x100 then '\\' :: 'x' :: hexDigits 2 c.toNat
    else if c.toNat < 0x10000 then '\\' :: 'u' :: hexDigits 4 c.toNat
    else '\\' :: 'U' :: hexDigits 8 c.toNat

/-- The integer part of a number. -/
def integerOf : Value → Except PlaceholderFault Int
  | .bool b => .ok (if b then 1 else 0)
  | .int n => .ok n
  | .float x =>
    match x.truncate with
    | .ok n => .ok n
    | .error .infinity => .error .outOfRange
    | .error .notANumber => .error .malformed
  | _ => .error .unsuited

/-- A whole number as such. -/
def wholeOf : Value → Except PlaceholderFault Int
  | .bool b => .ok (if b then 1 else 0)
  | .int n => .ok n
  | _ => .error .unsuited

/-- A number as a double. -/
def doubleOf : Value → Except PlaceholderFault Binary64
  | .float x => .ok x
  | v =>
    (wholeOf v).bind fun n =>
      let x := Binary64.ofInt n
      if x.isFinite then .ok x else .error .outOfRange

/-- An ASCII letter in upper case. -/
def upperAscii (c : Char) : Char := if 'a' ≤ c && c ≤ 'z' then Char.ofNat (c.toNat - 32) else c

/-- An integer in base 8, 10 or 16, with at least as many digits as the precision asks for. -/
def integerText (l : Layout) (kind : Char) (n : Int) : List Char :=
  let radix := if kind == 'o' then 8 else if kind == 'x' || kind == 'X' then 16 else 10
  let base := if l.alternate && radix != 10 then ['0', if radix = 8 then 'o' else 'x'] else []
  let digits := Places.padded (l.precision.getD 0) (Nat.toDigits radix n.natAbs)
  let settle := fun cs => if kind == 'X' then cs.map upperAscii else cs
  l.number (n < 0) (settle base) (settle digits)

/-- A double, with six places where none are asked for. -/
def doubleText (l : Layout) (kind : Char) (x : Binary64) : List Char :=
  let lower := Char.ofNat (kind.toNat ||| 32)
  let places := l.precision.getD 6
  let (negative, body) :=
    match x with
    | .nan _ => (false, "nan".toList)
    | .infinite n => (n, "inf".toList)
    | .finite n u =>
      (n,
        if lower == 'f' then Places.positional l.alternate places u
        else if lower == 'e' then
          let (ds, e) := Places.leading places u
          Places.exponential l.alternate ds e
        else Places.general l.alternate places u)
  l.number negative [] (if lower == kind then body else body.map upperAscii)

/-- A character, given as itself or by its code. -/
def characterOf : Value → Except PlaceholderFault Char
  | .text s =>
    match s.toList with
    | [c] => .ok c
    | _ => .error .unsuited
  | v =>
    (wholeOf v).bind fun n =>
      if 0 ≤ n && n < 0x110000 then .ok (Char.ofNat n.toNat) else .error .outOfRange

/-- The text that replaces a placeholder of a kind. -/
def convert (l : Layout) (kind : Char) (v : Value) : Except PlaceholderFault (List Char) :=
  let cut := fun (cs : List Char) => l.fill ((l.precision.map cs.take).getD cs)
  if kind == 's' then .ok (cut v.literalForm.toList)
  else if kind == 'r' then .ok (cut (Literal.render v).toList)
  else if kind == 'a' then .ok (cut (asciiOnly (Literal.render v)))
  else if kind == 'd' || kind == 'i' || kind == 'u' then (integerOf v).map (integerText l kind)
  else if kind == 'o' || kind == 'x' || kind == 'X' then (wholeOf v).map (integerText l kind)
  else if "eEfFgG".toList.contains kind then (doubleOf v).map (doubleText l kind)
  else if kind == 'c' then (characterOf v).map fun c => l.fill [c]
  else .error .malformed

/-! ### Placeholders -/

/-- The name up to the parenthesis that closes the one before it, and the rest. -/
def nameFrom (depth : Nat) : List Char → Option (List Char × List Char)
  | [] => none
  | c :: cs =>
    if c == ')' then
      match depth with
      | 0 => some ([], cs)
      | d + 1 => (nameFrom d cs).map fun p => (c :: p.1, p.2)
    else (nameFrom (if c == '(' then depth + 1 else depth) cs).map fun p => (c :: p.1, p.2)

/-- The argument under a name. -/
def argumentNamed (args : Value) (name : String) : Except PlaceholderFault Value :=
  match args with
  | .object fs =>
    match Fields.find? fs name with
    | some v => .ok v
    | none => .error (.missingName name)
  | _ => .error .unsuited

/-- The arguments may be left over: they have names or positions. -/
def isMapping : Value → Bool
  | .list _ | .object _ => true
  | _ => false

/-- The most characters of room that a placeholder may ask for. -/
def roomLimit : Nat := 100000000

/-- Widths are below this number, and so are their opposites or equal to it. -/
def widthBound : Nat := Nat.pow 2 63

/-- As `widthBound`, for precisions. -/
def precisionBound : Nat := Nat.pow 2 31

/-- Reads a width or a precision within a bound: a number, or a `*` for the pending argument. -/
def measure (bound : Nat) (pending : Option Value) (cs : List Char) :
    Except PlaceholderFault (Option Int × Option Value × List Char) :=
  match cs with
  | '*' :: rest =>
    match pending with
    | none => .error .unsuited
    | some v =>
      (wholeOf v).bind fun n =>
        if -(bound : Int) ≤ n && n < bound then .ok (some n, none, rest) else .error .outOfRange
  | _ =>
    let ds := cs.takeWhile Text.isAsciiDigit
    let n := Decimal.natOfDigits ds
    if bound ≤ n then .error .malformed
    else .ok (if ds.isEmpty then none else some n, pending, cs.drop ds.length)

/-- The layout with a width; a negative one is that of the left. -/
def Layout.withWidth (l : Layout) : Option Int → Layout
  | none => l
  | some n => { l with width := some n.natAbs, left := l.left || n < 0 }

/-- Reads a precision after a point. -/
def Layout.withPrecision (l : Layout) (pending : Option Value) :
    List Char → Except PlaceholderFault (Layout × Option Value × List Char)
  | '.' :: cs => do
    let (n, pending, rest) ← measure precisionBound pending cs
    .ok ({ l with precision := some (n.getD 0).toNat }, pending, rest)
  | cs => .ok (l, pending, cs)

/-- A length mark, which counts for nothing. -/
def skipLengthMark : List Char → List Char
  | c :: cs => if c == 'h' || c == 'l' || c == 'L' then cs else c :: cs
  | [] => []

/-- Reads what follows a percent sign: the replacement, the argument that is still pending, and the
rest. -/
def placeholder (args : Value) (pending : Option Value) (cs : List Char) :
    Except PlaceholderFault (List Char × Option Value × List Char) := do
  let (pending, cs) ←
    match cs with
    | '(' :: rest =>
      if isMapping args then
        match nameFrom 0 rest with
        | none => .error .malformed
        | some (name, rest) =>
          (argumentNamed args (String.ofList name)).map fun v => (some v, rest)
      else .error .unsuited
    | _ => .ok (pending, cs)
  let (l, cs) := Layout.flags {} cs
  let (width, pending, cs) ← measure widthBound pending cs
  let (l, pending, cs) ← (l.withWidth width).withPrecision pending cs
  match skipLengthMark cs with
  | [] => .error .malformed
  | kind :: rest =>
    match pending with
    | none => .error .unsuited
    | some v =>
      if roomLimit < l.width.getD 0 || roomLimit < l.precision.getD 0 then .error .noRoom
      else (convert l kind v).map fun cs => (cs, none, rest)

/-- Replaces placeholders; `fuel` bounds the characters read. -/
def replaceWithin (fuel : Nat) (args : Value) (pending : Option Value) (cs : List Char) :
    Except PlaceholderFault (List Char) :=
  match fuel, cs with
  | 0, _ | _, [] => if pending.isSome && !isMapping args then .error .unsuited else .ok []
  | fuel + 1, '%' :: '%' :: rest =>
    (replaceWithin fuel args pending rest).map ('%' :: ·)
  | fuel + 1, '%' :: rest => do
    let (text, pending, rest) ← placeholder args pending rest
    let more ← replaceWithin fuel args pending rest
    .ok (text ++ more)
  | fuel + 1, c :: rest => (replaceWithin fuel args pending rest).map (c :: ·)

/-- The text with its placeholders replaced. Every step reads at least one character. -/
def replacePlaceholders (args : Value) (s : String) : Except PlaceholderFault String :=
  (replaceWithin (s.length + 1) args (some args) s.toList).map String.ofList

end CrmAutomation.Log
