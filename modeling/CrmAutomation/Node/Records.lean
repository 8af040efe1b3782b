import CrmAutomation.Node.Result

/-!
Nodes that read and write records: tasks, fetches and updates of a status.
-/

namespace CrmAutomation.Node

open EngineM Record

/-- A text, or another one if it is empty. -/
def nonEmptyOr (s default : String) : String := if s.isEmpty then default else s

/-- Makes a task for the entity of the run, due a number of days from now. -/
def runTask (p : TaskParams) (scope : Scope) : EngineM NodeResult := do
  let title ← scope.expand p.title
  if title.isEmpty then pure (.failed .taskUntitled)
  else
    let today ← now
    let due ← ofExcept .date (today.addDays p.dueOffsetDays)
    let description ← scope.expand p.description
    let priority := nonEmptyOr p.priority "medium"
    let assignee ← scope.expandOptional p.assignedTo
    let row : Row := [
      ("title", .text title), ("description", .text description), ("priority", .text priority),
      ("due_date", .text due.isoText), ("status", .text "pending"),
      ("entity_type", scope.get "entity_type"), ("entity_id", scope.get "entity_id"),
      ("assigned_to", assignee), ("workflow_execution_id", .text scope.execution)]
    let made := do
      let stored ← insert tasksTable row
      pure (NodeResult.done [
        ("created", .bool true), ("task_id", stored.get "id"), ("title", .text title),
        ("priority", .text priority), ("due_date", .text due.isoText)])
    made.onStorageFault fun f => pure (.failed (.failure (.storage f)))

/-- A filter with its value resolved. -/
def resolveFilter (scope : Scope) (f : FetchFilter) : EngineM Filter := do
  let value ← scope.resolve f.value
  pure ⟨f.field, f.relation, value⟩

/-- The variable that holds what was fetched from a table. -/
def resultsName (table : String) : String := table ++ "_results"

/-- Reads rows, and hands them to later nodes in a variable. -/
def runFetch (p : FetchParams) (scope : Scope) : EngineM NodeResult := do
  if p.table.isEmpty then pure (.failed .tableMissing)
  else
    let filters ← p.filters.mapM (resolveFilter scope)
    let s ← settings
    let fetched := do
      let rows ← select p.table { filters, limit := some s.fetchRowLimit }
      log .debug "Fetched rows"
      let results := Value.list (rows.map .object)
      pure (NodeResult.done
        [("table", .text p.table), ("count", .int rows.length), ("results", results)]
        none (some (resultsName p.table, results)))
    fetched.onStorageFault fun f => pure (.failed (.failure (.storage f)))

/-- Sets one field of the entity of the run. -/
def runStatus (p : StatusParams) (scope : Scope) : EngineM NodeResult := do
  let value ← scope.resolve p.value
  let entity := scope.get "entity_id"
  if p.table.isEmpty || p.field.isEmpty || !entity.isTruthy then pure (.failed .targetMissing)
  else
    let updated := do
      let count ← update p.table [(p.field, value)] [⟨"id", .equals, entity⟩]
      pure (NodeResult.done [
        ("updated", .bool true), ("rows_affected", .int count), ("table", .text p.table),
        ("field", .text p.field), ("value", value)])
    updated.onStorageFault fun f => pure (.failed (.failure (.storage f)))

end CrmAutomation.Node
