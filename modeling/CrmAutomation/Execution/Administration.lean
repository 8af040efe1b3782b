import CrmAutomation.Execution.Statistics
import CrmAutomation.Run.Basic

/-!
Administration of executions: listing, inspecting, cancelling, retrying and summing up runs.
-/

namespace CrmAutomation.Execution

open EngineM Record

/-! ### Queries -/

/-- Finds the executions of a workflow, or of all if none is named. -/
def ofWorkflow (workflow : Value) : List Filter :=
  if workflow.isTruthy then [⟨"workflow_id", .equals, workflow⟩] else []

/-- The limit asked for; what counts as absent means the configured one. -/
def limitOr (limit : Value) (s : Settings) : Value := limit.orElse (.int s.executionListLimit)

/-- A limit as an integer; truth values count as 0 and 1. -/
def readLimit : Value → Except Malformed Int
  | .int n => .ok n
  | .bool b => .ok (if b then 1 else 0)
  | _ => .error .limit

/-- Executions, newest first. -/
def list (workflow limit : Value) : EngineM (List Row) := do
  let s ← settings
  let rows ← select executionsTable
    { filters := ofWorkflow workflow, orderBy := some (.text "started_at"), descending := true }
  let limit ← ofExcept .malformed (readLimit (limitOr limit s))
  pure (limited (some limit) rows)

/-- The execution with an id. -/
def get (id : Value) : EngineM Row := do
  let rows ← select executionsTable { filters := [⟨"id", .equals, id⟩], limit := some 1 }
  match rows with
  | row :: _ => pure row
  | [] => throw (.executionNotFound id)

/-- The definition of a workflow. -/
def definition (workflow : Value) : EngineM Definition := do
  let rows ← select definitionsTable { filters := [⟨"id", .equals, workflow⟩], limit := some 1 }
  match rows with
  | [] => throw (.definition (.unknownWorkflow workflow))
  | row :: _ => do
    let read ← ofExcept (fun _ => .malformed .policy) (Definition.ofRow row)
    match read with
    | .ok d => pure d
    | .error e => throw (.definition (.invalid e))

/-! ### Commands -/

/-- Whether a row is in a state that it does not leave. -/
def isFinished (row : Row) : Except Malformed Bool :=
  match row.get "status" with
  | .list _ | .object _ => .error .status
  | v => .ok (RunStatus.terminal.any fun s => v == s.value)

/-- Finds the execution with an id while it is running. -/
def runningFilters (id : Value) : List Filter :=
  [⟨"id", .equals, id⟩, ⟨"status", .equals, RunStatus.running.value⟩]

/-- Marks a running execution as cancelled; yields whether it was running. -/
def cancel (id : Value) : EngineM Bool := do
  let row ← get id
  let finished ← ofExcept .malformed (isFinished row)
  if finished then
    logAbout id .info "Execution already finished, nothing to cancel"
    pure false
  else
    let t ← now
    let count ← update executionsTable
      [("status", RunStatus.cancelled.value), ("completed_at", .text t.isoText)]
      (runningFilters id)
    if count = 0 then
      logAbout id .info "Execution not running, nothing to cancel"
      pure false
    else
      logAbout id .info "Execution cancelled"
      pure true

/-- A count raised by one. -/
def raised : Value → Option Value
  | .bool b => some (.int (if b then 2 else 1))
  | .int n => some (.int (n + 1))
  | .float x => some (.float (x.add (.ofInt 1)))
  | _ => none

/-- The count has reached a limit. -/
def reaches (count : Value) (limit : Nat) : Bool :=
  Relation.greaterThanOrEqual.accepts (count.order (.int limit))

/-- Runs the workflow of an execution again, for the same event and payload. -/
def retry (id : Value) : EngineM RunResult := do
  let row ← get id
  match row.find? "workflow_id" with
  | none => crash (.missingKey "workflow_id")
  | some workflow => do
    let d ← definition workflow
    let count := (row.get "retry_count").orElse (.int 0)
    match raised count with
    | none => crash (.malformed .number)
    | some next =>
      if reaches count d.maxRetries then throw (.retryLimit id d.maxRetries)
      else do
        logAbout id .info "Retrying execution"
        Run.once d ((row.get "trigger_event").orElse (.text "manual")) (row.get "trigger_data")
          next

/-- Runs a workflow now, whatever starts it otherwise and even if it is not active. -/
def startManual (workflow payload : Value) : EngineM RunResult := do
  let d ← definition workflow
  Run.once d (.text "manual") payload (.int 0)

/-! ### Figures -/

/-- The figures over the executions that started within the configured window. -/
def statistics (workflow : Value) : EngineM Statistics := do
  let s ← settings
  let t ← now
  let since ← ofExcept .date (t.addDays (-s.executionStatsWindowDays))
  let rows ← select executionsTable
    { filters := ⟨"started_at", .greaterThanOrEqual, .text since.isoText⟩ :: ofWorkflow workflow }
  ofExcept id (Statistics.ofRows rows)

end CrmAutomation.Execution
