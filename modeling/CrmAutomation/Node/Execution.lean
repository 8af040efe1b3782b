import CrmAutomation.Node.Control
import CrmAutomation.Node.Messaging
import CrmAutomation.Node.Records

/-!
Execution of one node.

Whatever goes wrong in the work of a node becomes its result. Nodes of kinds that are not known are
passed through.
-/

namespace CrmAutomation.Node

open EngineM

/-- The work of a node with parameters. -/
def work (node : Node) (flow : Flow) (scope : Scope) : Params → EngineM NodeResult
  | .trigger _ => pure (.done scope.payload)
  | .sendEmail p => runEmail p scope
  | .createTask p => runTask p scope
  | .notification p => runNotification p scope
  | .condition p => runCondition p node.id flow scope
  | .delay p => runDelay p scope
  | .loop p => runLoop p scope
  | .fetchData p => runFetch p scope
  | .updateStatus p => runStatus p scope

/-- Does the work of a node of a known kind. -/
def executeKind (node : Node) (flow : Flow) (scope : Scope) (kind : NodeKind) (params : Fields) :
    EngineM NodeResult :=
  match readParams kind params with
  | .refused issues => do
    log .warning "Node parameter validation failed"
    pure (.failed (.badParams kind issues.first))
  | .ok known =>
    (work node flow scope known.params).onFailure fun f => do
      log .error "Node execution error"
      pure (.failed (.failure f))

/-- The kind that a name stands for. -/
def kindOf : Value → Option NodeKind
  | .text s => NodeKind.ofName? s
  | _ => none

/-- Executes a node. -/
def execute (node : Node) (flow : Flow) (scope : Scope) : EngineM NodeResult := do
  let (name, params) ← ofExcept (fun f => .malformed (.nodeForm f))
    (normalizeFields (Value.ofText? node.type) node.data)
  match kindOf name with
  | some kind => executeKind node flow scope kind params
  | none => do
    log .debug "Unknown node type, passing through"
    pure (.done [("node_type", .text node.typeName), ("skipped", .bool true)])

end CrmAutomation.Node
