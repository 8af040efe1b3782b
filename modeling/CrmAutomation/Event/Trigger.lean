import CrmAutomation.Run.Basic

/-!
Events, and the workflows that they start.

An event starts a run of every active workflow that is bound to it and whose conditions hold on its
payload. What is wrong with one workflow does not keep the others from running.
-/

namespace CrmAutomation.Trigger

open EngineM Record

/-! ### Matching -/

/-- Finds the workflows that events start. -/
def activeFilters : List Filter :=
  equalities [("is_active", .bool true), ("trigger_type", .text "event")]

/-- The event that the trigger configuration of a row names. -/
def namedEvent (row : Row) : Except Malformed Value :=
  match (row.get "trigger_config").orElse (.object []) with
  | .object config => .ok (Fields.get config "event")
  | _ => .error .triggerConfig

/-- Whether conditions hold on data; those up to the first that does not are evaluated. -/
def holdAll (cs : List Condition) (data : Value) : EngineM Bool := do
  let verdicts := Condition.verdicts data cs
  logAll (verdicts.flatMap (·.notes))
  pure (verdicts.all (·.holds))

/-- The definition in a row, if it is bound to the event and its conditions hold. -/
def matchRow (event payload : Value) (row : Row) : EngineM (Option Definition) := do
  let named ← ofExcept .malformed (namedEvent row)
  if named.agrees event then
    let read ← ofExcept (fun _ => .malformed .policy) (Definition.ofRow row)
    match read with
    | .error _ => do
      log .warning "Skipping invalid workflow definition"
      pure none
    | .ok d => do
      let met ← holdAll (d.triggerConfig.conditions.map (·.condition)) payload
      if met then pure (some d)
      else do
        log .debug "Trigger conditions not met"
        pure none
  else pure none

/-- The definitions in rows that match. -/
def matchRows (event payload : Value) : List Row → EngineM (List Definition)
  | [] => pure []
  | row :: rows => do
    let d ← matchRow event payload row
    let ds ← matchRows event payload rows
    pure (d.toList ++ ds)

/-- The definitions that an event with a payload starts, in storage order. -/
def matching (event payload : Value) : EngineM (List Definition) := do
  let rows ← (select definitionsTable { filters := activeFilters }).onStorageFault fun _ => do
    log .error "Failed to fetch workflows"
    pure []
  matchRows event payload rows

/-! ### Running -/

/-- Runs definitions one after the other, whatever comes of each. -/
def runAll (event payload : Value) :
    List Definition → EngineM (List (Except Failure RunResult))
  | [] => pure []
  | d :: ds => do
    let r ← (Run.once d event payload (.int 0)).attempt
    let rs ← runAll event payload ds
    pure (r :: rs)

/-- The results of the runs that came to one; the others are logged. -/
def returned : List (Except Failure RunResult) → EngineM (List RunResult)
  | [] => pure []
  | .ok r :: rs => do
    let results ← returned rs
    pure (r :: results)
  | .error _ :: rs => do
    log .error "Workflow run raised"
    returned rs

/-- Runs every workflow that an event about an entity starts. -/
def fire (event : Value) (entityType : String) (entityId payload : Value) :
    EngineM (List RunResult) := do
  let fields ← Payload.read payload
  let payload := Value.object (Payload.compose entityType entityId fields)
  let definitions ← matching event payload
  if definitions.isEmpty then
    log .debug "No workflows bound to event"
    pure []
  else
    log .info "Triggering workflows"
    let outcomes ← runAll event payload definitions
    returned outcomes

/-- Like `fire`, for callers that do not want to hear of failures. -/
def dispatch (event : Value) (entityType : String) (entityId payload : Value) :
    EngineM (List RunResult) :=
  (fire event entityType entityId payload).onFailure fun _ => do
    log .error "Error triggering workflows"
    pure []

end CrmAutomation.Trigger
