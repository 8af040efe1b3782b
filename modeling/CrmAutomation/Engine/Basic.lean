import CrmAutomation.Engine.Failure
import CrmAutomation.Log.Level
import CrmAutomation.Settings.Basic
import CrmAutomation.Store.Basic

/-!
The engine: its settings, its collaborators, and the journal of what it logs.

Work of the engine yields a result or fails; what it did before it failed stays done.
-/

namespace CrmAutomation

open Record Calendar

/-- The identifiers that are bound while a run is in progress. -/
structure RunIdentity where
  execution : String
  workflow : String
  /-- The event that started the run. -/
  event : Value
  deriving DecidableEq, Repr

/-- The execution of the run in progress, null if there is none. -/
def RunIdentity.executionOf (run : Option RunIdentity) : Value :=
  Value.ofText? (run.map (·.execution))

/-- A line of the journal. -/
structure JournalEntry where
  level : Log.Level
  event : String
  /-- The run that was in progress. -/
  run : Option RunIdentity
  /-- The execution that the line names by itself. -/
  about : Option Value := none
  deriving DecidableEq, Repr

/-- The execution that a line carries: the one that it names, or else the run in progress. -/
def JournalEntry.execution (l : JournalEntry) : Value := l.about.getD (RunIdentity.executionOf l.run)

structure Engine where
  settings : Settings := {}
  store : Store := {}
  clock : Instant := 1709294400000
  mail : Mailbox := {}
  /-- The sender's name is looked up in the store. -/
  looksUpSender : Bool := true
  journal : List JournalEntry := []
  /-- The run in progress. -/
  run : Option RunIdentity := none
  deriving DecidableEq, Repr

/-- Work of the engine. -/
abbrev EngineM := ExceptT Failure (StateM Engine)

namespace EngineM

variable {α : Type}

/-- Runs work on an engine. -/
def perform (x : EngineM α) (e : Engine) : Except Failure α × Engine := x e

def crash (c : Crash) : EngineM α := throw (.crash c)

/-- The engine as it stands. -/
def engine : EngineM Engine := fun e => (.ok e, e)

def now : EngineM Instant := fun e => (.ok e.clock, e)

def settings : EngineM Settings := fun e => (.ok e.settings, e)

/-- Work that cannot fail, as a change of the engine. -/
def change (f : Engine → Engine) : EngineM Unit := fun e => (.ok (), f e)

/-- Lets time pass. -/
def wait (ms : Int) : EngineM Unit := change fun e => { e with clock := e.clock + ms }

/-- A pure result or a crash. -/
def ofExcept {ε : Type} (cause : ε → Crash) : Except ε α → EngineM α
  | .ok a => pure a
  | .error e => crash (cause e)

/-! ### Journal -/

/-- Adds a line to the journal. -/
def log (level : Log.Level) (event : String) : EngineM Unit :=
  change fun e => { e with journal := e.journal ++ [⟨level, event, e.run, none⟩] }

/-- Adds a line about an execution to the journal. -/
def logAbout (execution : Value) (level : Log.Level) (event : String) : EngineM Unit :=
  change fun e => { e with journal := e.journal ++ [⟨level, event, e.run, some execution⟩] }

/-- Adds the lines of some notes. -/
def logAll (notes : List Log.Note) : EngineM Unit :=
  change fun e =>
    { e with journal := e.journal ++ notes.map fun n => ⟨n.level, n.event, e.run, none⟩ }

/-- Does work in the name of a run; afterwards the run is as it was before. -/
def within (run : RunIdentity) (x : EngineM α) : EngineM α := fun e =>
  let (r, after) := x { e with run := some run }
  (r, { after with run := e.run })

/-! ### Failures that are looked for -/

/-- Does work; a failure becomes a result. -/
def attempt (x : EngineM α) : EngineM (Except Failure α) := fun e =>
  let (r, after) := x e
  (.ok r, after)

/-- Does work, and other work instead if the store fails. -/
def onStorageFault (x : EngineM α) (handle : Store.Fault → EngineM α) : EngineM α := fun e =>
  match x e with
  | (.error (.storage f), after) => handle f after
  | other => other

/-- Does work, and other work instead if mail is not delivered. -/
def onDeliveryFault (x : EngineM α) (handle : Mail.DeliveryFault → EngineM α) : EngineM α :=
  fun e =>
    match x e with
    | (.error (.delivery f), after) => handle f after
    | other => other

/-- Does work, and other work instead if a notification is not made. -/
def onNotificationFault (x : EngineM α) (handle : NotificationFault → EngineM α) : EngineM α :=
  fun e =>
    match x e with
    | (.error (.notification f), after) => handle f after
    | other => other

/-- Does work, and other work instead if it fails in any way. -/
def onFailure (x : EngineM α) (handle : Failure → EngineM α) : EngineM α := fun e =>
  match x e with
  | (.error f, after) => handle f after
  | other => other

/-! ### Store -/

/-- What a database logs about a failure of its own. -/
def databaseNotes : Store.Fault → List Log.Note
  | .insertFailed _ => [⟨.error, "Failed to insert record"⟩]
  | .updateFailed _ => [⟨.error, "Failed to update records"⟩]
  | .selectFailed _ => [⟨.error, "Failed to select records"⟩]
  | .reported _ | .notStarted | .unsupportedOperator _ => []

def refused : Store.Refusal → EngineM α
  | .fault f => do
    logAll (databaseNotes f)
    throw (.storage f)
  | .program text => crash (.program text)
  | .hugeKey => crash .hugeKey

/-- Does an operation of the store. -/
def stored (op : Store → Store.Outcome α) : EngineM α := fun e =>
  match op e.store with
  | (.ok a, store) => (.ok a, { e with store })
  | (.error r, store) => refused r { e with store }

/-- Adds a row to a table, and yields it as stored. -/
def insert (table : String) (row : Row) : EngineM Row := do
  let t ← now
  stored (·.insert t table row)

/-- Sets fields in the rows that pass the filters, and yields their number. -/
def update (table : String) (fields : Fields) (fs : List Filter) : EngineM Nat :=
  stored (·.update table fields fs)

/-- The rows that a query selects. -/
def select (table : String) (q : Tables.Query) : EngineM (List Row) := stored (·.select table q)

/-- Closes a database that was started; its documents are lost. -/
def closeDatabase : EngineM Unit := do
  let e ← engine
  match e.store.backend with
  | .memory _ | .database .notStarted _ => pure ()
  | .database _ _ =>
    log .info "Database connections closed"
    change fun e => { e with store := e.store.lose }

end EngineM

/-- The names of the engine's own tables. -/
def definitionsTable : String := "workflow_definitions"

def executionsTable : String := "workflow_executions"

def rulesTable : String := "automation_rules"

def tasksTable : String := "tasks"

def notificationsTable : String := "notifications"

def companyTable : String := "company_settings"

end CrmAutomation
