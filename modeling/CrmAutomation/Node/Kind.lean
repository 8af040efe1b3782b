import CrmAutomation.Value.Basic

/-!
Kinds of nodes, and the ways in which authors name them.

A node may name its kind directly, by an alias, or as a generic action whose data name the kind
and may hold the parameters in a configuration of their own.
-/

namespace CrmAutomation

inductive NodeKind where
  | trigger
  | sendEmail
  | createTask
  | notification
  | condition
  | delay
  | loop
  | fetchData
  | updateStatus
  deriving DecidableEq, Repr

namespace NodeKind

def name : NodeKind → String
  | trigger => "trigger"
  | sendEmail => "send_email"
  | createTask => "create_task"
  | notification => "notification"
  | condition => "condition"
  | delay => "delay"
  | loop => "loop"
  | fetchData => "fetch_data"
  | updateStatus => "update_status"

def all : List NodeKind := [
  trigger, sendEmail, createTask, notification, condition, delay, loop, fetchData, updateStatus]

def ofName? (s : String) : Option NodeKind := all.find? (·.name == s)

theorem ofName?_name (k : NodeKind) : ofName? k.name = some k := by cases k <;> rfl

/-- Other names of some kinds. -/
def aliases : List (String × NodeKind) :=
  [("email", sendEmail), ("task", createTask), ("send_notification", notification)]

/-- The canonical name for an authored one. -/
def canonicalName (s : String) : String :=
  match aliases.find? (·.1 == s) with
  | some p => p.2.name
  | none => s

end NodeKind

namespace Node

/-- The type of a generic action. -/
def actionType : String := "action"

/-- What a node without a type is reported as. -/
def unknownType : String := "unknown"

/-- Why the authored form of a node cannot be read at all. -/
inductive FormFault where
  /-- The name of the kind is a list or an object. -/
  | kindNotAName
  /-- An action's configuration is no object. -/
  | configNotAnObject
  /-- An action's data are no object. -/
  | dataNotAnObject
  deriving DecidableEq, Repr

/-- The canonical name for an authored value. -/
def canonical : Value → Except FormFault Value
  | .text s => .ok (.text (NodeKind.canonicalName s))
  | .list _ | .object _ => .error .kindNotAName
  | v => .ok v

/-- The kind that an action's data name. -/
def actionKind (data : Fields) : Value :=
  (data.get "actionType").orElse ((data.get "action_type").orElse (.text ""))

/-- An action's data with its configuration over them. -/
def actionParams (data : Fields) : Except FormFault Fields :=
  match (data.get "config").orElse (.object []) with
  | .object config => .ok (data.merge config)
  | _ => .error .configNotAnObject

/-- The canonical kind and the parameters of a node, from its authored type and data. -/
def normalizeFields (type : Value) (data : Fields) : Except FormFault (Value × Fields) :=
  let type := type.orElse (.text unknownType)
  if type = .text actionType then do
    let params ← actionParams data
    let kind ← canonical (actionKind data)
    .ok (kind, params)
  else (canonical type).map (·, data)

/-- The canonical kind and the parameters of data that may be anything; what counts as absent is
an empty object. -/
def normalize (type data : Value) : Except FormFault (Value × Value) :=
  match data.orElse (.object []) with
  | .object fs => (normalizeFields type fs).map fun p => (p.1, .object p.2)
  | data =>
    if type = .text actionType then .error .dataNotAnObject
    else (canonical (type.orElse (.text unknownType))).map (·, data)

end Node

end CrmAutomation
