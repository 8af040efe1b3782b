import CrmAutomation.Condition.Evaluation
import CrmAutomation.Flow.Graph
import CrmAutomation.Rule.Basic
import CrmAutomation.Template.Legacy

/-!
The conditions of a rule, and the node that its action becomes.
-/

namespace CrmAutomation.Rule

/-- A condition on a field: a plain value means equality, an object may name its own operator. -/
def conditionOf (field : String) : Value → Condition
  | .object fs =>
    { field := .text field
      operator := (Fields.find? fs "operator").getD (.text "equals")
      value := Fields.get fs "value" }
  | v => { field := .text field, value := v }

/-- All conditions of a rule. -/
def conditions (r : Rule) : List Condition :=
  (r.triggerConditions.getD []).map fun p => conditionOf p.1.asText p.2

/-- Shorthand paths in the templates of rules. -/
def aliases : Template.Aliases := [
  ("deal.value", "deal.deal_value"), ("quotation.number", "quotation.quote_number"),
  ("invoice.number", "invoice.invoice_number")]

/-- The template of the action, or another text if it has none. -/
def templateOr (r : Rule) (default : String) : String :=
  match r.action.value with
  | some s =>
    let t := Template.ofLegacy aliases s
    if t.isEmpty then default else t
  | none => default

/-- Why an action cannot be carried out. -/
inductive NoNode where
  | noRecipient
  | noStatus
  | noTarget
  | unknownAction
  deriving DecidableEq, Repr

/-- What is logged about it. -/
def NoNode.event : NoNode → String
  | noRecipient => "No recipient email found for rule"
  | noStatus => "No status value provided for update_status action"
  | noTarget => "No lead or deal to update"
  | unknownAction => "Unknown action type"

/-- The variable at a path of names. -/
def datum (vars : Fields) (path : String) : Value :=
  match (Value.object vars).lookup path with
  | .ok v => v
  | .error _ => .null

/-- The id under which the rule works. -/
def workId (r : Rule) : String := "rule-" ++ r.id

def nodeOf (r : Rule) (kind : NodeKind) (data : Fields) : Node :=
  { id := r.workId, type := some kind.name, data }

/-- A token for a path. -/
def token (path : String) : String := String.ofList (Template.written path.toList)

def emailNode (r : Rule) (path : String) : Node :=
  r.nodeOf .sendEmail [
    ("to", .text (token path)), ("subject", .text ("Automation: " ++ r.name)),
    ("body", .text (r.templateOr "This is an automated message."))]

def taskNode (r : Rule) : Node :=
  r.nodeOf .createTask [
    ("title", .text (r.templateOr ("Follow up: " ++ r.name))),
    ("description", .text ("Auto-created by automation rule: " ++ r.name)),
    ("priority", .text "medium"), ("due_offset_days", .int 3)]

def notificationNode (r : Rule) : Node :=
  r.nodeOf .notification [
    ("title", .text r.name), ("message", .text (r.templateOr ("Automation triggered: " ++ r.name)))]

def statusNode (r : Rule) (table field : String) : Node :=
  r.nodeOf .updateStatus [
    ("table", .text table), ("field", .text field), ("value", .text (r.templateOr ""))]

/-- The node that sends mail to the lead, or else to the user. -/
def mailPlan (r : Rule) (vars : Fields) : Except NoNode (Node × Fields) :=
  if (datum vars "lead.email").isTruthy then .ok (r.emailNode "lead.email", vars)
  else if (datum vars "user.email").isTruthy then
    .ok (r.emailNode "user.email", vars)
  else .error .noRecipient

/-- The node that notifies; without an actor the user becomes the actor. -/
def notificationPlan (r : Rule) (vars : Fields) : Node × Fields :=
  let user := datum vars "user.id"
  (r.notificationNode,
    if user.isTruthy && !(vars.get "actor_id").isTruthy then vars.insert "actor_id" user
    else vars)

/-- The node that sets the status of the lead, or else the stage of the deal. -/
def statusPlan (r : Rule) (vars : Fields) : Except NoNode (Node × Fields) :=
  let lead := datum vars "lead.id"
  let deal := datum vars "deal.id"
  if (r.action.value.getD "").isEmpty then .error .noStatus
  else if lead.isTruthy then
    .ok (r.statusNode "leads" "status", vars.insert "entity_id" lead)
  else if deal.isTruthy then
    .ok (r.statusNode "deals" "stage", vars.insert "entity_id" deal)
  else .error .noTarget

/-- The node that carries out the rule's action, and the variables adjusted to it. -/
def plan (r : Rule) (vars : Fields) : Except NoNode (Node × Fields) :=
  if r.action.type == "send_email" then r.mailPlan vars
  else if r.action.type == "create_task" then .ok (r.taskNode, vars)
  else if r.action.type == "send_notification" || r.action.type == "notification" then
    .ok (r.notificationPlan vars)
  else if r.action.type == "update_status" then r.statusPlan vars
  else .error .unknownAction

end CrmAutomation.Rule
