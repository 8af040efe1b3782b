import CrmAutomation.Numeric.Shortest
import CrmAutomation.Text.Blank
import CrmAutomation.Text.Digit
import CrmAutomation.Text.Search
import CrmAutomation.Value.Text

/-!
Dotted paths into values.

Each part of a path steps into an object by key or into a list by position. A step that leads
nowhere yields null, and so do all after it; the only steps that fail are digits that do not write
a position.
-/

namespace CrmAutomation

open Text

/-- Why a step of a path fails. -/
inductive PathFault where
  /-- The part consists of digits, but not all of them are decimal. -/
  | notDecimal (part : String)
  /-- The part has more digits than a position may have. -/
  | tooLong (digits : Nat)
  deriving DecidableEq, Repr

namespace PathFault

/-- The most characters of a part that a message quotes. -/
def quoteLimit : Nat := 200

def message : PathFault → String
  | .notDecimal part =>
    "invalid literal for int() with base 10: " ++
      String.ofList ((Literal.quoted part).toList.take quoteLimit)
  | .tooLong digits =>
    "Exceeds the limit (" ++ Numeric.intText digitLimit ++
      " digits) for integer string conversion: value has " ++ Numeric.intText digits ++
      " digits; use sys.set_int_max_str_digits() to increase the limit"

end PathFault

namespace Path

/-- The part is a list position, well written or not. -/
def isPosition (part : List Char) : Bool := !part.isEmpty && part.all isDigit

/-- The position that a part of digits writes. -/
def position (part : List Char) : Except PathFault Nat :=
  let decimals := part.takeWhile fun c => (decimalValue? c).isSome
  if digitLimit < decimals.length then .error (.tooLong decimals.length)
  else
    match decimalNumber? part with
    | some n => .ok n
    | none => .error (.notDecimal (String.ofList part))

/-- One step. -/
def step (v : Value) (part : List Char) : Except PathFault Value :=
  match v with
  | .object fs => .ok (Fields.get fs (String.ofList part))
  | .list xs => if isPosition part then (position part).map fun i => xs.getD i .null else .ok .null
  | _ => .ok .null

/-- Step after step. -/
def follow (v : Value) (parts : List (List Char)) : Except PathFault Value := parts.foldlM step v

/-- The parts of a path without its outer blanks. -/
def parts (path : List Char) : List (List Char) := splitOn '.' (trimChars isBlank path)

@[simp] theorem follow_nil (v : Value) : follow v [] = .ok v := rfl

theorem follow_cons (v : Value) (p : List Char) (ps : List (List Char)) :
    follow v (p :: ps) = (step v p).bind fun w => follow w ps := by
  simp only [follow, List.foldlM_cons]
  rfl

theorem follow_append (v : Value) (ps qs : List (List Char)) :
    follow v (ps ++ qs) = (follow v ps).bind fun w => follow w qs := by
  simp only [follow, List.foldlM_append]
  rfl

end Path

namespace Value

/-- The value at a path; an empty path leads nowhere. -/
def lookupChars (v : Value) (path : List Char) : Except PathFault Value :=
  if path.isEmpty then .ok .null else Path.follow v (Path.parts path)

/-- The value at a path. -/
def lookup (v : Value) (path : String) : Except PathFault Value := v.lookupChars path.toList

end Value

end CrmAutomation
