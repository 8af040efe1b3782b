import CrmAutomation.Value.Reading

/-!
Values read from the bytes of a JSON text.

The encoding is one of three, and shows by the zeros among the first bytes: a JSON text starts with
ASCII characters.
-/

namespace CrmAutomation.Json

/-- How characters are encoded in bytes; a unit of two or four bytes starts with the most or the
least significant one. -/
inductive Encoding where
  | utf8
  | utf16 (mostFirst : Bool)
  | utf32 (mostFirst : Bool)
  deriving DecidableEq, Repr

/-- The encoding that a text starts in. -/
def Encoding.ofBytes : List Nat → Encoding
  | a :: b :: c :: d :: _ =>
    if a == 0 then if b == 0 then .utf32 true else .utf16 true
    else if b == 0 then if c == 0 && d == 0 then .utf32 false else .utf16 false
    else .utf8
  | [a, b] => if a == 0 then .utf16 true else if b == 0 then .utf16 false else .utf8
  | _ => .utf8

/-- The number that the bytes of a unit write. -/
def unitValue (mostFirst : Bool) (bytes : List Nat) : Nat :=
  (if mostFirst then bytes else bytes.reverse).foldl (fun n b => n * 256 + b) 0

/-- Units of two bytes; none if a byte is left over. -/
def pairs? (mostFirst : Bool) : List Nat → Option (List Nat)
  | [] => some []
  | [_] => none
  | a :: b :: rest => (pairs? mostFirst rest).map (unitValue mostFirst [a, b] :: ·)

/-- Units of four bytes; none if a byte is left over. -/
def quadruples? (mostFirst : Bool) : List Nat → Option (List Nat)
  | [] => some []
  | a :: b :: c :: d :: rest =>
    (quadruples? mostFirst rest).map (unitValue mostFirst [a, b, c, d] :: ·)
  | _ => none

/-- The text of 16-bit units; a surrogate without a partner is replaced. -/
def textOfUnits (units : List Nat) : String :=
  String.ofList (units.foldl Draft.pushUnit {}).settled.reverse

/-- The text of code points, if all are in range; a surrogate is replaced. -/
def textOfPoints? (points : List Nat) : Option String :=
  if points.all (· < 0x110000) then
    some (String.ofList (points.map fun p => if p.isValidChar then Char.ofNat p else '\uFFFD'))
  else none

/-- The bytes of a text. -/
def bytesOf (s : String) : List Nat :=
  s.toList.flatMap fun c => (String.utf8EncodeChar c).map (·.toNat)

/-- The text that is read from the bytes of a text: in UTF-8 it is the text itself, but a mark of
the byte order at its start is dropped. -/
def reread? (s : String) : Option String :=
  let bytes := bytesOf s
  match Encoding.ofBytes bytes with
  | .utf8 =>
    match s.toList with
    | '\uFEFF' :: cs => some (String.ofList cs)
    | _ => some s
  | .utf16 mostFirst => (pairs? mostFirst bytes).map textOfUnits
  | .utf32 mostFirst => (quadruples? mostFirst bytes).bind textOfPoints?

/-- The value that the bytes of a text write as JSON. -/
def ofBytesOf? (s : String) : Option Value := (reread? s).bind parse?

end CrmAutomation.Json
