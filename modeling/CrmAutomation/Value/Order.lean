import CrmAutomation.Value.Basic

/-!
Equality and order of values as a record store sees them.

Truth values count as the numbers 0 and 1, and whole numbers compare with doubles exactly. Texts
go by code point and lists item by item; values of different kinds cannot be compared.
-/

namespace CrmAutomation

open Numeric

/-- The outcome of comparing two values. -/
inductive Comparison where
  | less
  | equal
  | greater
  /-- Numbers of which one is not a number. -/
  | unordered
  /-- Values that have no common order. -/
  | mismatched
  deriving DecidableEq, Repr

namespace Comparison

def ofOrdering? : Option Ordering → Comparison
  | some .lt => less
  | some .eq => equal
  | some .gt => greater
  | none => unordered

end Comparison

namespace Value

/-- A number: a whole one or a double. -/
def asNumber? : Value → Option (Int ⊕ Binary64)
  | .bool b => some (.inl (if b then 1 else 0))
  | .int n => some (.inl n)
  | .float x => some (.inr x)
  | _ => none

/-- The order of texts by code point. -/
def compareChars : List Char → List Char → Ordering
  | [], [] => .eq
  | [], _ :: _ => .lt
  | _ :: _, [] => .gt
  | a :: as, b :: bs => (compare a.toNat b.toNat).then (compareChars as bs)

/-- The two are the same datum that is not a number. -/
def isSameNoNumber : Value → Value → Bool
  | .float (.nan p), .float (.nan q) => p == q
  | _, _ => false

/-- The value under the first key that is one with a given key. -/
def findSame? (fs : Fields) (k : Key) : Option Value := (List.find? (·.1.isSame k) fs).map (·.2)

mutual

/-- Equal as stored data: numbers by value, objects whatever the order of their keys. What is not
a number equals nothing, but inside of a list or an object the same datum is equal to itself. -/
def agrees : Value → Value → Bool
  | .null, .null => true
  | .text s, .text t => s == t
  | .list xs, .list ys => agreesList xs ys
  | .object xs, .object ys => xs.length == ys.length && agreesFields xs ys
  | a, b =>
    match a.asNumber?, b.asNumber? with
    | some x, some y => Binary64.compareNumbers x y == some .eq
    | _, _ => false
termination_by structural a => a

def agreesList : List Value → List Value → Bool
  | [], [] => true
  | x :: xs, y :: ys => (isSameNoNumber x y || agrees x y) && agreesList xs ys
  | _, _ => false
termination_by structural xs => xs

def agreesFields : Fields → Fields → Bool
  | [], _ => true
  | p :: xs, ys => agreesField p ys && agreesFields xs ys
termination_by structural xs => xs

def agreesField : Key × Value → Fields → Bool
  | (k, x), ys =>
    match findSame? ys k with
    | some y => isSameNoNumber x y || agrees x y
    | none => false
termination_by structural p => p

end

mutual

/-- How one value compares with another. -/
def order : Value → Value → Comparison
  | .text s, .text t => .ofOrdering? (some (compareChars s.toList t.toList))
  | .list xs, .list ys => orderList xs ys
  | a, b =>
    match a.asNumber?, b.asNumber? with
    | some x, some y => .ofOrdering? (Binary64.compareNumbers x y)
    | _, _ => .mismatched
termination_by structural a => a

/-- Lists compare as their first items that differ, else by length. -/
def orderList : List Value → List Value → Comparison
  | [], [] => .equal
  | [], _ :: _ => .less
  | _ :: _, [] => .greater
  | x :: xs, y :: ys =>
    if isSameNoNumber x y || agrees x y then orderList xs ys else order x y
termination_by structural xs => xs

end

end Value

end CrmAutomation
