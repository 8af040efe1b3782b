import CrmAutomation.Record.Sorting

/-!
Named tables of rows in storage order.
-/

namespace CrmAutomation.Record

/-- All tables, in the order of their first row. -/
abbrev Tables := List (String × List Row)

namespace Tables

/-- The rows of a table, none where there is no such table. -/
def rows (ts : Tables) (name : String) : List Row :=
  match ts.find? (·.1 == name) with
  | some p => p.2
  | none => []

/-- Replaces the rows of a table. -/
def setRows : Tables → String → List Row → Tables
  | [], name, rs => [(name, rs)]
  | (n, old) :: ts, name, rs =>
    if n == name then (n, rs) :: ts else (n, old) :: setRows ts name rs

/-- Adds a row at the end of a table. -/
def append (ts : Tables) (name : String) (row : Row) : Tables :=
  ts.setRows name (ts.rows name ++ [row])

/-- Sets fields in every row that passes the filters. -/
def patch (ts : Tables) (name : String) (fields : Fields) (fs : List Filter) : Tables :=
  if (ts.rows name).any (matchesAll fs) then
    ts.setRows name
      ((ts.rows name).map fun row => if matchesAll fs row then row.merge fields else row)
  else ts

/-- How many rows pass the filters. -/
def count (ts : Tables) (name : String) (fs : List Filter) : Nat :=
  (ts.rows name).countP (matchesAll fs)

/-- What to select, in which order, and how much of it. -/
structure Query where
  filters : List Filter := []
  orderBy : Option Key := none
  descending : Bool := false
  limit : Option Int := none

/-- The rows that a query selects. -/
def select (ts : Tables) (name : String) (q : Query) : List Row :=
  limited q.limit (sorted ((ts.rows name).filter (matchesAll q.filters)) q.orderBy q.descending)

theorem rows_setRows (ts : Tables) (name other : String) (rs : List Row) :
    (ts.setRows name rs).rows other = if name = other then rs else ts.rows other := by
  induction ts with
  | nil => by_cases h : name = other <;> simp [setRows, rows, h]
  | cons p ts ih =>
    obtain ⟨n, old⟩ := p
    by_cases hn : n = name
    · subst hn
      by_cases ho : n = other <;> simp [setRows, rows, ho]
    · by_cases ho : n = other
      · subst ho
        simp [setRows, rows, hn, Ne.symm hn]
      · simp only [rows] at ih
        simp [setRows, rows, hn, ho, ih]

theorem rows_append (ts : Tables) (name other : String) (row : Row) :
    (ts.append name row).rows other =
      if name = other then ts.rows name ++ [row] else ts.rows other :=
  rows_setRows ts name other _

end Tables

end CrmAutomation.Record
