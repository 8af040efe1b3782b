import CrmAutomation.Node.Result

/-!
The record of a run: its steps, its status, and what is written of them to the store.
-/

namespace CrmAutomation

open Calendar

/-- States of a run. -/
inductive RunStatus where
  | running
  | completed
  | failed
  | cancelled
  | paused
  deriving DecidableEq, Repr

namespace RunStatus

def name : RunStatus → String
  | running => "running"
  | completed => "completed"
  | failed => "failed"
  | cancelled => "cancelled"
  | paused => "paused"

/-- The status as it is stored. -/
def value (s : RunStatus) : Value := .text s.name

/-- The states that a run does not leave. -/
def terminal : List RunStatus := [completed, failed, cancelled]

end RunStatus

/-- One node executed in a run. -/
structure Step where
  nodeId : String
  nodeType : String
  startedAt : Instant
  completedAt : Instant
  result : NodeResult
  deriving DecidableEq, Repr

namespace Step

def status (s : Step) : RunStatus := if s.result.succeeded then .completed else .failed

def durationMs (s : Step) : Int := s.completedAt - s.startedAt

/-- The step as it is stored; only a failed one has an error. -/
def fields (s : Step) : Fields :=
  let always : Fields := [
    ("node_id", .text s.nodeId), ("node_type", .text s.nodeType), ("status", s.status.value),
    ("started_at", .text s.startedAt.isoText), ("completed_at", .text s.completedAt.isoText),
    ("duration_ms", .int s.durationMs), ("output", s.result.output)]
  match s.result.fault? with
  | some f => always.insert "error" f.report
  | none => always

end Step

/-- Steps as they are stored. -/
def stepsValue (steps : List Step) : Value := .list (steps.map fun s => .object s.fields)

/-- A run in progress: what it has done, and what its next node sees. -/
structure Run where
  workflow : String
  /-- The event that started it. -/
  event : Value
  startedAt : Instant
  scope : Scope
  steps : List Step := []
  deriving DecidableEq, Repr

namespace Run

/-- The id of the execution record. -/
def id (r : Run) : String := r.scope.execution

/-- What is bound while the run is in progress. -/
def identity (r : Run) : RunIdentity := ⟨r.id, r.workflow, r.event⟩

/-- The node executed last. -/
def currentNode (r : Run) : Option String := r.steps.getLast?.map (·.nodeId)

/-- The run after a further step. -/
def push (r : Run) (s : Step) : Run :=
  { r with steps := r.steps ++ [s], scope := s.result.settle r.scope }

end Run

/-- What a run comes to. -/
structure RunResult where
  success : Bool
  /-- The id of the execution record, empty if there is none. -/
  execution : String
  error : Option Value := none
  status : Option RunStatus := none
  deriving DecidableEq, Repr

end CrmAutomation
