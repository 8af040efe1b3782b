import CrmAutomation.Numeric.Reading
import CrmAutomation.Numeric.Word
import CrmAutomation.Schema.Issue
import CrmAutomation.Value.Basic

/-!
Readers of authored data: scalars with their lenient forms, lists, optional values, and the fields
of objects.
-/

namespace CrmAutomation.Schema

open Numeric

/-- Reads a datum from a value. -/
abbrev Reader (α : Type) := Value → Checked α

variable {α : Type}

/-! ### Scalars -/

/-- Any value. -/
def anything : Reader Value := .ok

def text : Reader String
  | .text s => .ok s
  | _ => .fail .notText

/-- An integer as such, as a truth value, as a double without a fraction, or as a text. -/
def integer : Reader Int
  | .int n => .ok n
  | .bool b => .ok (if b then 1 else 0)
  | .float x =>
    if !x.isFinite then .fail .notFinite
    else if !x.isWhole then .fail .fractional
    else
      match x.truncate? with
      | some n => if n.natAbs < wordLimit then .ok n else .fail .hugeInteger
      | none => .fail .notFinite
  | .text s =>
    match integerOfParameter s with
    | .ok n => .ok n
    | .error .malformed => .fail .unreadableInteger
    | .error .tooLong => .fail .hugeInteger
  | _ => .fail .notInteger

/-- A double as such, as an integer or truth value, or as a text. -/
def number : Reader Binary64
  | .float x => .ok x
  | .int n =>
    let x := Binary64.ofInt n
    if x.isFinite then .ok x else .fail .notNumber
  | .bool b => .ok (.ofInt (if b then 1 else 0))
  | .text s =>
    match Binary64.ofParameter? s with
    | some x => .ok x
    | none => .fail .unreadableNumber
  | _ => .fail .notNumber

/-- Texts that mean true, and texts that mean false. -/
def trueWords : List String := ["1", "on", "t", "true", "y", "yes"]

def falseWords : List String := ["0", "off", "f", "false", "n", "no"]

/-- A truth value given as 0 or 1. -/
def boolOfInt (n : Int) : Checked Bool :=
  if n = 0 then .ok false else if n = 1 then .ok true else .fail .unreadableBool

/-- A truth value as such, as 0 or 1, or as one of the words for them in any case. -/
def boolean : Reader Bool
  | .bool b => .ok b
  | .int n => if fitsWord n then boolOfInt n else .fail .notBool
  | .float x =>
    match (if x.isWhole then x.truncate? else none) with
    | some n => if n.natAbs < wordLimit then boolOfInt n else .fail .notBool
    | none => .fail .notBool
  | .text s =>
    let w := String.ofList (s.toList.map Binary64.lowerAscii)
    if trueWords.contains w then .ok true
    else if falseWords.contains w then .ok false
    else .fail .unreadableBool
  | _ => .fail .notBool

/-- One of several texts. -/
def choice (first : String) (middle : List String) (last : String) : Reader String
  | .text s =>
    if s == first || middle.contains s || s == last then .ok s
    else .fail (.noChoice first middle last)
  | _ => .fail (.noChoice first middle last)

/-! ### Bounds -/

def atLeast (bound : Nat) (r : Reader Int) : Reader Int := fun v =>
  (r v).bind fun n => if n < bound then .fail (.below bound) else .ok n

def atMost (bound : Nat) (r : Reader Int) : Reader Int := fun v =>
  (r v).bind fun n => if (bound : Int) < n then .fail (.above bound) else .ok n

/-- A bound on doubles; what is not a number breaks every bound. -/
def numberAtLeast (bound : Nat) (r : Reader Binary64) : Reader Binary64 := fun v =>
  (r v).bind fun x => if (Binary64.ofInt bound).le x then .ok x else .fail (.below bound)

def numberAbove (bound : Nat) (r : Reader Binary64) : Reader Binary64 := fun v =>
  (r v).bind fun x => if (Binary64.ofInt bound).lt x then .ok x else .fail (.notAbove bound)

def numberAtMost (bound : Nat) (r : Reader Binary64) : Reader Binary64 := fun v =>
  (r v).bind fun x => if x.le (.ofInt bound) then .ok x else .fail (.above bound)

/-! ### Containers -/

/-- Null stands for none. -/
def optional (r : Reader α) : Reader (Option α)
  | .null => .ok none
  | v => (r v).map some

def object : Reader Fields
  | .object fs => .ok fs
  | _ => .fail .notObject

/-- The fields of a record, named in the complaint about anything else. -/
def record (kind : String) (r : Fields → Checked α) : Reader α
  | .object fs => r fs
  | _ => .fail (.notRecord kind)

/-- The items of a list, the first of them numbered `i`. -/
def itemsFrom (r : Reader α) (i : Nat) : List Value → Checked (List α)
  | [] => .ok []
  | v :: vs =>
    List.cons <$> (r v).within (String.ofList (natDigits i)) <*> itemsFrom r (i + 1) vs

def list (r : Reader α) : Reader (List α)
  | .list vs => itemsFrom r 0 vs
  | _ => .fail .notList

/-- The values of an object's fields. -/
def entries (r : Reader α) : Fields → Checked (List (String × α))
  | [] => .ok []
  | (k, v) :: fs =>
    List.cons <$> ((r v).within k.asText).map (k.asText, ·) <*> entries r fs

/-- An object whose values are all of one kind. -/
def dictionary (r : Reader α) : Reader (List (String × α))
  | .object fs => entries r fs
  | _ => .fail .notObject

/-! ### Fields -/

/-- A field of a record: its name, and the other name that authors may use and that wins. -/
structure Field where
  name : String
  otherName : Option String := none

namespace Field

/-- The key under which the field is given. -/
def key? (f : Field) (fs : Fields) : Option String :=
  match f.otherName with
  | some a => if fs.has a then some a else if fs.has f.name then some f.name else none
  | none => if fs.has f.name then some f.name else none

/-- The key that a complaint about a missing field names. -/
def label (f : Field) : String := f.otherName.getD f.name

/-- A field that must be given. -/
def required (f : Field) (r : Reader α) (fs : Fields) : Checked α :=
  match f.key? fs with
  | some k => (r (fs.get k)).within k
  | none => .refused ⟨⟨[f.label], .missing⟩, []⟩

/-- A field with a default. -/
def withDefault (f : Field) (d : α) (r : Reader α) (fs : Fields) : Checked α :=
  match f.key? fs with
  | some k => (r (fs.get k)).within k
  | none => .ok d

end Field

/-- What is given beside the known fields, in its order. -/
def extras (known : List Field) (fs : Fields) : Fields :=
  let used := known.filterMap fun f => (f.key? fs).map Key.text
  fs.filter fun p => !used.contains p.1

end CrmAutomation.Schema
