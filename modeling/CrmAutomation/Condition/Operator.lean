import CrmAutomation.Numeric.Reading
import CrmAutomation.Text.LowerCase
import CrmAutomation.Text.Search

/-!
Operators of conditions, on the text of a field and the text it is compared with.

A missing field has no text. Numbers are compared as numbers wherever both texts write one.
-/

namespace CrmAutomation.Condition

open Numeric Text

inductive Operator where
  | equals
  | notEquals
  | greaterThan
  | lessThan
  | greaterThanOrEqual
  | lessThanOrEqual
  | contains
  | notContains
  | startsWith
  | endsWith
  | isEmpty
  | isNotEmpty
  deriving DecidableEq, Repr

namespace Operator

def name : Operator → String
  | equals => "equals"
  | notEquals => "not_equals"
  | greaterThan => "greater_than"
  | lessThan => "less_than"
  | greaterThanOrEqual => "greater_than_or_equal"
  | lessThanOrEqual => "less_than_or_equal"
  | contains => "contains"
  | notContains => "not_contains"
  | startsWith => "starts_with"
  | endsWith => "ends_with"
  | isEmpty => "is_empty"
  | isNotEmpty => "is_not_empty"

/-- All operators, by name. -/
def all : List Operator := [
  contains, endsWith, equals, greaterThan, greaterThanOrEqual, isEmpty, isNotEmpty, lessThan,
  lessThanOrEqual, notContains, notEquals, startsWith]

def ofName? (s : String) : Option Operator := all.find? (·.name == s)

theorem ofName?_name (op : Operator) : ofName? op.name = some op := by cases op <;> rfl

end Operator

/-- The texts that count as empty, blanks and case aside. -/
def emptyMarkers : List String := ["", "undefined", "null"]

def looksEmpty : Option String → Bool
  | none => true
  | some s => emptyMarkers.contains (lower (trim s))

/-- The number that a text writes, outer blanks aside. -/
def numberOf? (s : String) : Option Binary64 := Binary64.ofText? (trim s)

/-- Equal as numbers if both are, else as texts in lower case; a missing text is an empty one. -/
def looselyEqual (actual : Option String) (target : String) : Bool :=
  match actual with
  | none => target.isEmpty
  | some a =>
    match numberOf? a, numberOf? target with
    | some x, some y => x.sameValue y
    | _, _ => lower a == lower target

/-- Compared as numbers; false unless both texts write one. -/
def compareAsNumbers (test : Binary64 → Binary64 → Bool) (actual : Option String)
    (target : String) : Bool :=
  match actual.bind numberOf?, numberOf? target with
  | some x, some y => test x y
  | _, _ => false

/-- Tests the lower case of a text, empty where it is missing, against that of another. -/
def compareLowered (test : List Char → List Char → Bool) (actual : Option String)
    (target : String) : Bool :=
  test (lowerFrom false target.toList) (lowerFrom false (actual.getD "").toList)

/-- Whether an operator holds. -/
def Operator.holds (op : Operator) (actual : Option String) (target : String) : Bool :=
  match op with
  | equals => looselyEqual actual target
  | notEquals => !looselyEqual actual target
  | greaterThan => compareAsNumbers (fun x y => y.lt x) actual target
  | lessThan => compareAsNumbers Binary64.lt actual target
  | greaterThanOrEqual => compareAsNumbers (fun x y => y.le x) actual target
  | lessThanOrEqual => compareAsNumbers Binary64.le actual target
  | contains => compareLowered occursIn actual target
  | notContains => !compareLowered occursIn actual target
  | startsWith => compareLowered List.isPrefixOf actual target
  | endsWith => compareLowered List.isSuffixOf actual target
  | isEmpty => looksEmpty actual
  | isNotEmpty => !looksEmpty actual

end CrmAutomation.Condition
