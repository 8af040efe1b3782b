import CrmAutomation.Calendar.Instant
import CrmAutomation.Store.Archive
import CrmAutomation.Store.Fault

/-!
The record store: tables in memory, or an archive of documents in a database that has to be started.

Every insert draws the next identifier, whether the row needs it or not. An operation that fails
changes no row.
-/

namespace CrmAutomation

open Record Calendar

namespace Store

/-- The state of a database. -/
inductive Phase where
  | notStarted
  | started
  /-- The documents are gone, and operations fail. -/
  | lost
  deriving DecidableEq, Repr

inductive Backend where
  | memory (tables : Tables)
  | database (phase : Phase) (archive : Archive)
  deriving DecidableEq, Repr

/-- Why an operation does not succeed: the store fails, or the program around it does. -/
inductive Refusal where
  | fault (f : Fault)
  /-- The program failed with a text. -/
  | program (text : String)
  /-- An identifier is an integer beyond 64 bits. -/
  | hugeKey
  deriving DecidableEq, Repr

end Store

structure Store where
  backend : Store.Backend := .memory []
  /-- How many identifiers were drawn. -/
  drawn : Nat := 0
  planned : List Store.PlannedFault := []
  deriving DecidableEq, Repr

namespace Store

/-- The identifier drawn as the `n`-th. -/
def identifier (n : Nat) : String := "id-" ++ Numeric.intText n

/-- The row as it is stored: with an identifier and the time of its creation where it lacks them. -/
def complete (id : String) (now : Instant) (row : Row) : Row :=
  (row.insertNew "id" (.text id)).insertNew "created_at" (.text now.isoText)

/-- The rows of a table. -/
def rows (s : Store) (table : String) : List Row :=
  match s.backend with
  | .memory tables => tables.rows table
  | .database _ archive => archive.rows table

/-- Whether rows can be read at all. -/
def isReadable (s : Store) : Bool :=
  match s.backend with
  | .memory _ => true
  | .database phase _ => phase == .started

/-- The names of all tables. -/
def tableNames (s : Store) : List String :=
  match s.backend with
  | .memory tables => tables.map (·.1)
  | .database _ archive => archive.tableNames

/-- The outcome of an operation, and the store after it. -/
abbrev Outcome (α : Type) := Except Refusal α × Store

/-- Lets a planned failure strike before an operation. -/
def guarded {α : Type} (s : Store) (op : Operation) (table : String)
    (act : Store → Outcome α) : Outcome α :=
  let (planned, hit) := PlannedFault.strike op table s.planned
  let s := { s with planned }
  match hit with
  | none => act s
  | some p =>
    (.error (if p.isProgramError then .program p.text else .fault (.reported p.text)), s)

/-- Adds a row to a table, and yields it as stored. -/
def insert (s : Store) (now : Instant) (table : String) (row : Row) : Outcome Row :=
  s.guarded .insert table fun s =>
    let s := { s with drawn := s.drawn + 1 }
    let stored := complete (identifier s.drawn) now row
    match s.backend with
    | .memory tables => (.ok stored, { s with backend := .memory (tables.append table stored) })
    | .database .notStarted _ => (.error (.fault .notStarted), s)
    | .database .lost _ => (.error (.fault (.insertFailed table)), s)
    | .database .started archive =>
      match Archive.keyKind (stored.get "id") with
      | .unusable => (.error (.fault (.insertFailed table)), s)
      | .huge => (.error .hugeKey, s)
      | .usable =>
        (.ok stored, { s with backend := .database .started (archive.append table stored) })

/-- Sets fields in the rows that pass the filters, and yields their number. -/
def update (s : Store) (table : String) (fields : Fields) (fs : List Filter) : Outcome Nat :=
  s.guarded .update table fun s =>
    match s.backend with
    | .memory tables =>
      (.ok (tables.count table fs), { s with backend := .memory (tables.patch table fields fs) })
    | .database .notStarted _ => (.error (.fault .notStarted), s)
    | .database .lost _ => (.error (.fault (.updateFailed table)), s)
    | .database .started archive =>
      (.ok (archive.count table fs),
        { s with backend := .database .started (archive.patch table fields fs) })

/-- The rows that a query selects. -/
def select (s : Store) (table : String) (q : Tables.Query) : Outcome (List Row) :=
  s.guarded .select table fun s =>
    match s.backend with
    | .memory tables => (.ok (tables.select table q), s)
    | .database .notStarted _ => (.error (.fault .notStarted), s)
    | .database .lost _ => (.error (.fault (.selectFailed table)), s)
    | .database .started archive => (.ok (archive.select table q), s)

/-- Makes a database lose its documents. -/
def lose (s : Store) : Store :=
  match s.backend with
  | .memory _ | .database .notStarted _ => s
  | .database _ _ => { s with backend := .database .lost [] }

end Store

end CrmAutomation
