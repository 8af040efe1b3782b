import CrmAutomation.Numeric.Shortest

/-!
Keys of fields.

Authored objects have texts for keys. A payload that is given as pairs may use other single data as
well; no path leads to such a key, and JSON writes it as a text.
-/

namespace CrmAutomation

open Numeric

/-- The key of a field. -/
inductive Key where
  | text (s : String)
  | null
  | bool (b : Bool)
  | int (n : Int)
  | float (x : Binary64)
  deriving DecidableEq, Repr

namespace Key

instance : Inhabited Key := ⟨.text ""⟩

instance : Coe String Key := ⟨.text⟩

/-- The text that stands for a key in JSON. -/
def asText : Key → String
  | .text s => s
  | .null => "null"
  | .bool b => if b then "true" else "false"
  | .int n => intText n
  | .float x => jsonFloats.render x

/-- The key can be written: if it is an integer, this one has a text. -/
def hasText : Key → Bool
  | .int n => Numeric.hasText n
  | _ => true

/-- The key counts as present: all but null, false, zero and the empty text do. -/
def isTruthy : Key → Bool
  | .text s => !s.isEmpty
  | .null => false
  | .bool b => b
  | .int n => n != 0
  | .float x => !x.isZero

/-- The number that a key is, if it is one; truth values count as 0 and 1. -/
def asNumber? : Key → Option (Int ⊕ Binary64)
  | .bool b => some (.inl (if b then 1 else 0))
  | .int n => some (.inl n)
  | .float x => some (.inr x)
  | .text _ | .null => none

/-- Two keys are one: they are the same datum, or numbers of the same value. -/
def isSame (k l : Key) : Bool :=
  k == l ||
    match k.asNumber?, l.asNumber? with
    | some x, some y => Binary64.compareNumbers x y == some .eq
    | _, _ => false

end Key

end CrmAutomation
