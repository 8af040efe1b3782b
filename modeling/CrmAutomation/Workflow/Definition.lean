import CrmAutomation.Condition.Evaluation
import CrmAutomation.Flow.Graph
import CrmAutomation.Record.Filter

/-!
Workflow definitions: what starts a workflow, its flow, and what happens when a node fails.
-/

namespace CrmAutomation

open Schema

namespace Workflow

/-- What starts a workflow. -/
inductive TriggerType where
  | event
  | schedule
  | webhook
  | manual
  deriving DecidableEq, Repr

namespace TriggerType

def name : TriggerType → String
  | event => "event"
  | schedule => "schedule"
  | webhook => "webhook"
  | manual => "manual"

def all : List TriggerType := [event, schedule, webhook, manual]

def ofName? (s : String) : Option TriggerType := all.find? (·.name == s)

def reader : Reader TriggerType := fun v =>
  (text v).bind fun s =>
    match ofName? s with
    | some t => .ok t
    | none => .fail (.rule ("Unknown trigger type: " ++ s))

end TriggerType

/-- What a failed node means for the run. -/
inductive ErrorPolicy where
  | stop
  | proceed
  | retry
  deriving DecidableEq, Repr

namespace ErrorPolicy

def name : ErrorPolicy → String
  | stop => "stop"
  | proceed => "continue"
  | retry => "retry"

def all : List ErrorPolicy := [stop, proceed, retry]

def ofName? (s : String) : Option ErrorPolicy := all.find? (·.name == s)

/-- A policy by name; null is the policy to stop. -/
def reader : Reader ErrorPolicy := fun v =>
  let unknown : Checked ErrorPolicy :=
    .fail (.rule
      (match v.literal with
      | .ok s => "Unknown error handling policy: " ++ s
      | .error f => f.message))
  match v with
  | .null => .ok stop
  | .text s =>
    match ofName? s with
    | some p => .ok p
    | none => unknown
  | _ => unknown

end ErrorPolicy

/-- An extra predicate on the payload of a triggering event. -/
structure TriggerCondition where
  field : String
  operator : String
  value : Value
  deriving DecidableEq, Repr

namespace TriggerCondition

def reader : Reader TriggerCondition := record "TriggerCondition" fun fs =>
  TriggerCondition.mk
    <$> Field.required ⟨"field", none⟩ text fs
    <*> Field.withDefault ⟨"operator", none⟩ "equals" text fs
    <*> Field.withDefault ⟨"value", none⟩ .null anything fs

def condition (c : TriggerCondition) : Condition :=
  { field := .text c.field, operator := .text c.operator, value := c.value }

end TriggerCondition

/-- The event that starts a workflow, and the conditions that its payload must meet. -/
structure TriggerConfig where
  event : Option String := none
  conditions : List TriggerCondition := []
  extra : Fields := []
  deriving DecidableEq, Repr

namespace TriggerConfig

def ofFields (fs : Fields) : Checked TriggerConfig :=
  (fun event conditions =>
      ⟨event, conditions, extras [⟨"event", none⟩, ⟨"conditions", none⟩] fs⟩)
    <$> Field.withDefault ⟨"event", none⟩ none (optional text) fs
    <*> Field.withDefault ⟨"conditions", none⟩ [] (list TriggerCondition.reader) fs

def reader : Reader TriggerConfig := record "TriggerConfig" ofFields

/-- The event is named, and not by the empty text. -/
def namesEvent (c : TriggerConfig) : Bool :=
  match c.event with
  | some e => !e.isEmpty
  | none => false

end TriggerConfig

end Workflow

open Workflow

/-- A workflow as authored. -/
structure Definition where
  id : String
  name : String := ""
  description : Option String := none
  triggerType : TriggerType := .event
  triggerConfig : TriggerConfig := {}
  flow : Flow := {}
  isActive : Bool := true
  errorHandling : ErrorPolicy := .stop
  maxRetries : Nat := 3
  tags : List String := []
  deriving DecidableEq, Repr

namespace Definition

/-- The columns of a stored row that belong to the definition. -/
def columns : List Key := [
  "id", "name", "description", "trigger_type", "trigger_config", "flow_definition", "is_active",
  "error_handling", "max_retries", "tags"]

/-- Null stands for the empty object. -/
def emptyForNull {α : Type} (r : Reader α) : Reader α := fun v =>
  r (if v = .null then .object [] else v)

/-- Reads the columns, each by itself. -/
def ofColumns (fs : Fields) : Checked Definition :=
  Definition.mk
    <$> Field.required ⟨"id", none⟩ text fs
    <*> Field.withDefault ⟨"name", none⟩ "" text fs
    <*> Field.withDefault ⟨"description", none⟩ none (optional text) fs
    <*> Field.withDefault ⟨"trigger_type", none⟩ .event TriggerType.reader fs
    <*> Field.withDefault ⟨"trigger_config", none⟩ {} (emptyForNull TriggerConfig.reader) fs
    <*> Field.withDefault ⟨"flow_definition", none⟩ {} (emptyForNull Flow.reader) fs
    <*> Field.withDefault ⟨"is_active", none⟩ true boolean fs
    <*> Field.withDefault ⟨"error_handling", none⟩ .stop ErrorPolicy.reader fs
    <*> (Field.withDefault ⟨"max_retries", none⟩ 3 (atLeast 0 integer) fs).map Int.toNat
    <*> Field.withDefault ⟨"tags", none⟩ [] (list text) fs

/-- A workflow that an event starts names the event. -/
def checkEvent (d : Definition) : Checked Definition :=
  if d.triggerType = .event && !d.triggerConfig.namesEvent then
    .fail (.rule
      ("Workflow " ++ ticked d.id ++ " is event-triggered but has no trigger_config.event"))
  else .ok d

/-- A list or an object is refused as a policy before anything is reported. -/
structure PolicyNotAName where
  deriving DecidableEq, Repr

/-- Whether the policy is given as a list or an object. -/
def policyIsNoName (fs : Fields) : Bool :=
  match fs.get "error_handling" with
  | .list _ | .object _ => true
  | _ => false

/-- Reads a definition from an object. -/
def ofFields (fs : Fields) : Except PolicyNotAName (Checked Definition) :=
  if policyIsNoName fs then .error {} else .ok ((ofColumns fs).bind checkEvent)

/-- Reads a definition from any value. -/
def ofValue : Value → Except PolicyNotAName (Checked Definition)
  | .object fs => ofFields fs
  | _ => .ok (.fail (.notRecord "WorkflowDefinition"))

/-- A stored row is no valid definition: its id and the first complaint. -/
structure Invalid where
  id : Value
  complaint : Complaint
  deriving DecidableEq, Repr

def Invalid.message (e : Invalid) : String :=
  "Invalid workflow definition " ++ ticked e.id.literalForm ++ ": " ++ e.complaint.message

/-- Reads a definition from a stored row, of which other columns are ignored. -/
def ofRow (row : Row) : Except PolicyNotAName (Except Invalid Definition) :=
  (ofFields (row.filter fun p => columns.contains p.1)).map fun c =>
    match c with
    | .ok d => .ok d
    | .refused is => .error ⟨row.get "id", is.first.complaint⟩

end Definition

end CrmAutomation
