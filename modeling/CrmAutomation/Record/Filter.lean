import CrmAutomation.Value.Order

/-!
Rows, and the filters that select them.
-/

namespace CrmAutomation

/-- A stored record. -/
abbrev Row := Fields

namespace Record

/-- Comparisons that a store understands. -/
inductive Relation where
  | equals
  | notEquals
  | greaterThan
  | lessThan
  | greaterThanOrEqual
  | lessThanOrEqual
  deriving DecidableEq, Repr

namespace Relation

def name : Relation → String
  | equals => "equals"
  | notEquals => "not_equals"
  | greaterThan => "greater_than"
  | lessThan => "less_than"
  | greaterThanOrEqual => "greater_than_or_equal"
  | lessThanOrEqual => "less_than_or_equal"

def all : List Relation :=
  [equals, notEquals, greaterThan, lessThan, greaterThanOrEqual, lessThanOrEqual]

def ofName? (s : String) : Option Relation := all.find? (·.name == s)

/-- The outcomes of a comparison that an ordering relation accepts. -/
def accepts : Relation → Comparison → Bool
  | greaterThan, .greater => true
  | lessThan, .less => true
  | greaterThanOrEqual, .greater | greaterThanOrEqual, .equal => true
  | lessThanOrEqual, .less | lessThanOrEqual, .equal => true
  | _, _ => false

/-- Whether a relation holds; nothing is greater or less than null. -/
def holds (r : Relation) (actual expected : Value) : Bool :=
  match r with
  | equals => actual.agrees expected
  | notEquals => !actual.agrees expected
  | _ =>
    if actual = .null || expected = .null then false else r.accepts (actual.order expected)

end Relation

/-- A comparison of one field of a row. -/
structure Filter where
  field : Key
  relation : Relation := .equals
  value : Value := .null
  deriving DecidableEq, Repr

/-- A row passes if its field, null where it is missing, stands in the relation to the value. -/
def Filter.passes (f : Filter) (row : Row) : Bool := f.relation.holds (row.get f.field) f.value

/-- Whether a row passes every filter. -/
def matchesAll (fs : List Filter) (row : Row) : Bool := fs.all (·.passes row)

/-- The filters that ask each field of an object to equal its value. -/
def equalities (fs : Fields) : List Filter := fs.map fun p => ⟨p.1, .equals, p.2⟩

end Record

end CrmAutomation
