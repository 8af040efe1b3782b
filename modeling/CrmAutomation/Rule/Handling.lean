import CrmAutomation.Event.Trigger
import CrmAutomation.Rule.Action

/-!
Rules at work.

An event runs the action of every active rule for it whose conditions hold. A rule that fails is
logged, and does not keep the others from running.
-/

namespace CrmAutomation.Rule

open EngineM Record

/-- Finds the active rules for an event. -/
def activeFilters (event : Value) : List Filter :=
  equalities [("trigger_event", event), ("is_active", .bool true)]

/-- The rules in rows; rows that are no rules are skipped. -/
def readRows : List Row → EngineM (List Rule)
  | [] => pure []
  | row :: rows =>
    match ofRow row with
    | .ok r => do
      let rs ← readRows rows
      pure (r :: rs)
    | .refused _ => do
      log .warning "Skipping invalid automation rule"
      readRows rows

/-- The active rules for an event, in storage order. -/
def matching (event : Value) : EngineM (List Rule) := do
  let rows ← (select rulesTable { filters := activeFilters event }).onStorageFault fun _ => do
    log .error "Failed to fetch automation rules"
    pure []
  readRows rows

/-- Whether all conditions of the rule hold. -/
def conditionsMet (r : Rule) (vars : Fields) : EngineM Bool :=
  Trigger.holdAll r.conditions (.object vars)

/-- The node for the rule's action and the variables adjusted to it, unless it cannot be carried
out. -/
def prepare (r : Rule) (vars : Fields) : EngineM (Option (Node × Fields)) :=
  match r.plan vars with
  | .ok p => pure (some p)
  | .error reason => do
    log .warning reason.event
    pure none

/-- Counts an execution of the rule; a failure to do so is only logged. -/
def track (r : Rule) : EngineM Unit := do
  let t ← now
  let fields : Fields := [
    ("execution_count", .int (r.executionCount + 1)), ("last_executed_at", .text t.isoText)]
  (do let _ ← update rulesTable fields [⟨"id", .equals, .text r.id⟩]).onStorageFault fun _ =>
    log .error "Error updating rule execution count"

/-- Executes the node of the rule in a flow of its own; yields whether it succeeded. -/
def act (r : Rule) (node : Node) (scope : Scope) : EngineM Bool := do
  let result ← node.execute { nodes := [node] } scope
  if result.succeeded then
    track r
    pure true
  else
    log .warning "Rule action failed"
    pure false

/-- Runs the rule on a payload; yields whether its action succeeded. -/
def run (r : Rule) (payload : Fields) : EngineM Bool := do
  let t ← now
  let scope := Run.initialScope r.workId payload t r.name
  let met ← r.conditionsMet scope.vars
  if met then
    let prepared ← r.prepare scope.vars
    match prepared with
    | some (node, vars) => r.act node { scope with vars }
    | none => pure false
  else
    log .debug "Rule conditions not met"
    pure false

/-- Runs rules one after the other; yields how many actions succeeded. -/
def runAll (payload : Fields) : List Rule → EngineM Nat
  | [] => pure 0
  | r :: rs => do
    let succeeded ← (r.run payload).onFailure fun _ => do
      log .error "Error running automation rule"
      pure false
    let n ← runAll payload rs
    pure ((if succeeded then 1 else 0) + n)

/-- Runs every active rule for an event about an entity; yields how many actions succeeded. -/
def handle (event : Value) (entityType : String) (entityId data : Value) : EngineM Nat := do
  let rules ← matching event
  if rules.isEmpty then
    log .debug "No active automation rules for event"
    pure 0
  else
    log .info "Running automation rules"
    let fields ← Payload.read data
    let n ← runAll (Payload.compose entityType entityId fields) rules
    log .info "Automation processing complete"
    pure n

end CrmAutomation.Rule
