import CrmAutomation.Numeric.Word
import CrmAutomation.Record.Table
import CrmAutomation.Value.Restored

/-!
All rows of all tables as one sequence of documents, in the order of their insertion.

Each document carries the name of its table and holds its row as JSON. A document needs an
identifier that can serve as a key. It is written again only if its row comes to be another.
-/

namespace CrmAutomation.Store

open Record Numeric

/-- A row beside the name of its table. -/
structure Document where
  table : String
  row : Row
  deriving DecidableEq, Repr

abbrev Archive := List Document

namespace Archive

/-- The rows of a table, in storage order. -/
def rows (a : Archive) (name : String) : List Row := (a.filter (·.table == name)).map (·.row)

/-- Adds a row at the end, as JSON brings it back. -/
def append (a : Archive) (name : String) (row : Row) : Archive := a ++ [⟨name, row.restored⟩]

/-- The document belongs to the table and passes the filters. -/
def concerns (name : String) (fs : List Filter) (d : Document) : Bool :=
  d.table == name && matchesAll fs d.row

/-- A row with some fields set. One that is equal to what it was stays as it was written. -/
def patchRow (row : Row) (fields : Fields) : Row :=
  let patched := row.merge fields
  if Value.agrees (.object patched) (.object row) then row else patched.restored

/-- Sets fields in every row of a table that passes the filters. -/
def patch (a : Archive) (name : String) (fields : Fields) (fs : List Filter) : Archive :=
  a.map fun d => if concerns name fs d then { d with row := patchRow d.row fields } else d

/-- How many rows of a table pass the filters. -/
def count (a : Archive) (name : String) (fs : List Filter) : Nat := a.countP (concerns name fs)

/-- The rows that a query selects. -/
def select (a : Archive) (name : String) (q : Tables.Query) : List Row :=
  limited q.limit (sorted ((a.rows name).filter (matchesAll q.filters)) q.orderBy q.descending)

/-- The names of the tables that have rows. -/
def tableNames (a : Archive) : List String := (a.map (·.table)).eraseDups

/-- What an identifier is good for as a key. -/
inductive KeyKind where
  | usable
  /-- Absent, or not a single datum. -/
  | unusable
  /-- An integer beyond 64 bits. -/
  | huge
  deriving DecidableEq, Repr

def keyKind : Value → KeyKind
  | .text _ | .bool _ => .usable
  | .int n => if fitsWord n then .usable else .huge
  | .float (.nan _) => .unusable
  | .float _ => .usable
  | .null | .list _ | .object _ => .unusable

theorem rows_append (a : Archive) (name other : String) (row : Row) :
    (a.append name row).rows other =
      if name = other then a.rows name ++ [row.restored] else a.rows other := by
  by_cases h : name = other
  · subst h; simp [append, rows]
  · simp [append, rows, h]

end Archive

end CrmAutomation.Store
