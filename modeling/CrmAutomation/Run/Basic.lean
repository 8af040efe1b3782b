import CrmAutomation.Event.Payload
import CrmAutomation.Flow.Walk
import CrmAutomation.Node.Execution
import CrmAutomation.Run.Record

/-!
Runs of a workflow.

A run makes an execution record, walks the flow, and writes its steps to the record after every
node and its outcome at the end. Only the first of these writes has to succeed.
-/

namespace CrmAutomation

open EngineM Calendar Record Workflow

namespace Run

/-- The variables that every run has of itself. -/
def systemVariables (t : Instant) (workflowName : String) : Value := .object [
  ("current_date", .text t.dateText), ("current_time", .text t.isoText),
  ("workflow_name", .text workflowName)]

/-- The scope of a run that starts with a payload. -/
def initialScope (execution : String) (payload : Fields) (t : Instant) (workflowName : String) :
    Scope :=
  { execution, payload
    vars := payload.insert "system" (systemVariables t workflowName) }

/-- The record of a run that starts. -/
def startRow (d : Definition) (event : Value) (payload : Fields) (retryCount : Value)
    (t : Instant) : Row := [
  ("workflow_id", .text d.id), ("trigger_event", event), ("trigger_data", .object payload),
  ("entity_type", payload.get "entity_type"), ("entity_id", payload.get "entity_id"),
  ("status", RunStatus.running.value), ("steps_executed", .list []), ("current_step_id", .null),
  ("started_at", .text t.isoText), ("retry_count", retryCount)]

/-- Finds the record of a run. -/
def ownRecord (id : String) : List Filter := [⟨"id", .equals, .text id⟩]

/-- What is written after a node. -/
def progressPatch (r : Run) : Fields :=
  [("steps_executed", stepsValue r.steps), ("current_step_id", Value.ofText? r.currentNode)]

/-- Writes the steps so far; a failure to do so is only logged. -/
def recordProgress (r : Run) : EngineM Unit :=
  (do let _ ← update executionsTable r.progressPatch (ownRecord r.id)).onStorageFault fun _ =>
    log .error "Failed to record execution progress"

/-- What is written at the end. -/
def outcomePatch (r : Run) (status : RunStatus) (error : Option Value) (t : Instant) : Fields :=
  let always : Fields := [
    ("status", status.value), ("completed_at", .text t.isoText),
    ("duration_ms", .int (t - r.startedAt)), ("steps_executed", stepsValue r.steps)]
  match error.filter (·.isTruthy) with
  | some v => always.insert "error_message" v
  | none => always

/-- Writes the outcome; a failure to do so is only logged. -/
def finalize (r : Run) (status : RunStatus) (error : Option Value) : EngineM Unit := do
  let t ← now
  (do let _ ← update executionsTable (r.outcomePatch status error t) (ownRecord r.id)).onStorageFault
    fun _ => log .error "Failed to finalize execution"
  log .info "Workflow execution finished"

/-- The error of a run that a fault stops. -/
def stopError (f : NodeFault) : Value := f.report.orElse (.text "Node execution failed")

/-- What follows a node: the nodes after it, or the end of the run. -/
def proceed (d : Definition) (node : Node) (result : NodeResult) :
    EngineM (Except Value (List Node)) :=
  let next := d.flow.successors node.id result.next
  match result.fault? with
  | none => pure (.ok next)
  | some f =>
    if d.errorHandling = .stop then do
      log .error "Node failed, stopping workflow"
      pure (.error (stopError f))
    else do
      log .warning "Node failed, continuing"
      pure (.ok next)

/-- Executes a node of the run. -/
def execute (d : Definition) (node : Node) (r : Run) : EngineM (NodeResult × Run) := do
  let startedAt ← now
  let result ← node.execute d.flow r.scope
  let completedAt ← now
  let r := r.push { nodeId := node.id, nodeType := node.typeName, startedAt, completedAt, result }
  recordProgress r
  pure (result, r)

/-- Visits a node of the flow. -/
def visit (d : Definition) (node : Node) : StateT Run EngineM (Except Value (List Node)) :=
  fun r => do
    let (result, r) ← execute d node r
    let next ← proceed d node result
    pure (next, r)

/-- Walks the flow from its start; yields the error that stopped the run, if one did. -/
def walk (d : Definition) : StateT Run EngineM (Option Value) :=
  Flow.walk (visit d) d.flow.nodes d.flow.starts

/-- The error of a run that has nothing to do. -/
def emptyFlowError : Value := .text "No nodes in workflow"

/-- The result that ends with an error or without one. -/
def resultOf (id : String) (error : Option Value) : RunResult :=
  { success := error.isNone
    execution := id
    error
    status := some (if (error.filter (·.isTruthy)).isSome then .failed else .completed) }

/-- Walks the flow of a run that has its record. -/
def complete (d : Definition) (r : Run) : EngineM RunResult := do
  log .info "Starting workflow execution"
  if d.flow.starts.isEmpty then
    finalize r .failed (some emptyFlowError)
    pure (resultOf r.id (some emptyFlowError))
  else
    let (error, r) ← (walk d).run r
    let result := resultOf r.id error
    finalize r (result.status.getD .completed) error
    pure result

/-- Makes the record of a run, unless the store fails. -/
def launch (d : Definition) (event payload retryCount : Value) :
    EngineM (Except Store.Fault Run) := do
  let startedAt ← now
  let payload ← Payload.read payload
  let made : EngineM (Except Store.Fault Run) := do
    let row ← insert executionsTable (startRow d event payload retryCount startedAt)
    let t ← now
    let scope := initialScope (row.get "id").literalForm payload t d.name
    pure (.ok { workflow := d.id, event, startedAt, scope })
  made.onStorageFault fun f => pure (.error f)

/-- Runs a workflow once for an event with a payload. -/
def once (d : Definition) (event payload retryCount : Value) : EngineM RunResult := do
  match ← launch d event payload retryCount with
  | .error f => do
    log .error "Failed to create execution record"
    pure { success := false, execution := "", error := some (.text f.message) }
  | .ok r => within r.identity (complete d r)

end Run

end CrmAutomation
