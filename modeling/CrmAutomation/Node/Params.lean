import CrmAutomation.Node.Kind
import CrmAutomation.Record.Filter
import CrmAutomation.Schema.Reader

/-!
Parameters of nodes, kind by kind.

Parameters that no field claims are kept beside the record. A null counts as absent for every field
whose default is not null.
-/

namespace CrmAutomation

open Schema

namespace Node

structure TriggerParams where
  label : Option String
  deriving DecidableEq, Repr

structure EmailParams where
  recipient : String
  subject : String
  body : String
  deriving DecidableEq, Repr

structure TaskParams where
  title : String
  description : String
  priority : String
  dueOffsetDays : Int
  assignedTo : Option String
  deriving DecidableEq, Repr

structure NotificationParams where
  title : String
  message : String
  notificationType : String
  deriving DecidableEq, Repr

structure ConditionParams where
  field : Value
  operator : String
  value : Value
  deriving DecidableEq, Repr

structure DelayParams where
  amount : Value
  unit : String
  deriving DecidableEq, Repr

structure LoopParams where
  source : String
  itemVariable : String
  deriving DecidableEq, Repr

/-- A filter of a fetch; it offers fewer relations than the store. -/
structure FetchFilter where
  field : String
  relation : Record.Relation
  value : Value
  deriving DecidableEq, Repr

structure FetchParams where
  table : String
  filters : List FetchFilter
  deriving DecidableEq, Repr

structure StatusParams where
  table : String
  field : String
  value : Value
  deriving DecidableEq, Repr

/-- The parameters of a node of a known kind. -/
inductive Params where
  | trigger (p : TriggerParams)
  | sendEmail (p : EmailParams)
  | createTask (p : TaskParams)
  | notification (p : NotificationParams)
  | condition (p : ConditionParams)
  | delay (p : DelayParams)
  | loop (p : LoopParams)
  | fetchData (p : FetchParams)
  | updateStatus (p : StatusParams)
  deriving DecidableEq, Repr

def Params.kind : Params → NodeKind
  | trigger _ => .trigger
  | sendEmail _ => .sendEmail
  | createTask _ => .createTask
  | notification _ => .notification
  | condition _ => .condition
  | delay _ => .delay
  | loop _ => .loop
  | fetchData _ => .fetchData
  | updateStatus _ => .updateStatus

/-! ### Fields -/

/-- A field of a parameter record, and whether a null means its default. -/
structure ParamField extends Field where
  nullIsDefault : Bool := true

/-- The fields of a kind's record. -/
def paramFields : NodeKind → List ParamField
  | .trigger => [⟨⟨"label", none⟩, false⟩]
  | .sendEmail => [
    ⟨⟨"to", none⟩, true⟩, ⟨⟨"subject", none⟩, true⟩, ⟨⟨"body", some "message"⟩, true⟩]
  | .createTask => [
      ⟨⟨"title", none⟩, true⟩, ⟨⟨"description", none⟩, true⟩, ⟨⟨"priority", none⟩, true⟩,
      ⟨⟨"due_offset_days", some "dueOffsetDays"⟩, true⟩,
      ⟨⟨"assigned_to", some "assignedTo"⟩, false⟩]
  | .notification => [
      ⟨⟨"title", none⟩, true⟩, ⟨⟨"message", none⟩, true⟩,
      ⟨⟨"notification_type", some "notificationType"⟩, true⟩]
  | .condition => [⟨⟨"field", none⟩, true⟩, ⟨⟨"operator", none⟩, true⟩, ⟨⟨"value", none⟩, false⟩]
  | .delay => [
      ⟨⟨"delay_value", some "delayValue"⟩, true⟩, ⟨⟨"delay_unit", some "delayUnit"⟩, true⟩]
  | .loop => [
      ⟨⟨"array_source", some "arraySource"⟩, true⟩, ⟨⟨"item_variable", some "itemVariable"⟩, true⟩]
  | .fetchData => [⟨⟨"table", none⟩, true⟩, ⟨⟨"filters", none⟩, true⟩]
  | .updateStatus => [⟨⟨"table", none⟩, true⟩, ⟨⟨"field", none⟩, true⟩, ⟨⟨"value", none⟩, false⟩]

/-- The keys under which a null means the default. -/
def defaultingKeys (kind : NodeKind) : List Key :=
  ((paramFields kind).filter (·.nullIsDefault)).flatMap fun f =>
    (f.name :: f.otherName.toList).map .text

/-- The parameters without the nulls that mean a default. -/
def dropNulls (kind : NodeKind) (fs : Fields) : Fields :=
  fs.filter fun p => !((defaultingKeys kind).contains p.1 && p.2 = .null)

/-! ### Records -/

/-- A text; a null stands for the empty one. -/
def nullableText : Reader String
  | .null => .ok ""
  | v => text v

def plain (name : String) : Field := ⟨name, none⟩

def aliased (name otherName : String) : Field := ⟨name, some otherName⟩

/-- The relations that a fetch offers. -/
def fetchRelation : Reader Record.Relation := fun v =>
  (choice "equals" ["not_equals", "greater_than"] "less_than" v).map fun s =>
    (Record.Relation.ofName? s).getD .equals

def fetchFilter : Reader FetchFilter := record "FetchFilter" fun fs =>
  FetchFilter.mk
    <$> (plain "field").required text fs
    <*> (plain "operator").withDefault .equals fetchRelation fs
    <*> (plain "value").withDefault .null anything fs

def readTrigger (fs : Fields) : Checked TriggerParams :=
  TriggerParams.mk <$> (plain "label").withDefault none (optional text) fs

def readEmail (fs : Fields) : Checked EmailParams :=
  EmailParams.mk
    <$> (plain "to").withDefault "" nullableText fs
    <*> (plain "subject").withDefault "" nullableText fs
    <*> (aliased "body" "message").withDefault "" nullableText fs

def readTask (fs : Fields) : Checked TaskParams :=
  TaskParams.mk
    <$> (plain "title").withDefault "" nullableText fs
    <*> (plain "description").withDefault "" nullableText fs
    <*> (plain "priority").withDefault "medium" text fs
    <*> (aliased "due_offset_days" "dueOffsetDays").withDefault 1 integer fs
    <*> (aliased "assigned_to" "assignedTo").withDefault none (optional text) fs

def readNotification (fs : Fields) : Checked NotificationParams :=
  NotificationParams.mk
    <$> (plain "title").withDefault "" nullableText fs
    <*> (plain "message").withDefault "" nullableText fs
    <*> (aliased "notification_type" "notificationType").withDefault "info" text fs

def readCondition (fs : Fields) : Checked ConditionParams :=
  ConditionParams.mk
    <$> (plain "field").withDefault (.text "") anything fs
    <*> (plain "operator").withDefault "equals" text fs
    <*> (plain "value").withDefault .null anything fs

def readDelay (fs : Fields) : Checked DelayParams :=
  DelayParams.mk
    <$> (aliased "delay_value" "delayValue").withDefault (.int 1) anything fs
    <*> (aliased "delay_unit" "delayUnit").withDefault "minutes" text fs

def readLoop (fs : Fields) : Checked LoopParams :=
  LoopParams.mk
    <$> (aliased "array_source" "arraySource").withDefault "" text fs
    <*> (aliased "item_variable" "itemVariable").withDefault "item" text fs

def readFetch (fs : Fields) : Checked FetchParams :=
  FetchParams.mk
    <$> (plain "table").withDefault "" nullableText fs
    <*> (plain "filters").withDefault [] (list fetchFilter) fs

def readStatus (fs : Fields) : Checked StatusParams :=
  StatusParams.mk
    <$> (plain "table").withDefault "" nullableText fs
    <*> (plain "field").withDefault "" nullableText fs
    <*> (plain "value").withDefault .null anything fs

/-- Reads the record of a kind from parameters without nulls that mean a default. -/
def readKind (kind : NodeKind) (fs : Fields) : Checked Params :=
  match kind with
  | .trigger => (readTrigger fs).map .trigger
  | .sendEmail => (readEmail fs).map .sendEmail
  | .createTask => (readTask fs).map .createTask
  | .notification => (readNotification fs).map .notification
  | .condition => (readCondition fs).map .condition
  | .delay => (readDelay fs).map .delay
  | .loop => (readLoop fs).map .loop
  | .fetchData => (readFetch fs).map .fetchData
  | .updateStatus => (readStatus fs).map .updateStatus

/-- Parameters of a known kind and what was given beside them. -/
structure KnownParams where
  params : Params
  extra : Fields
  deriving DecidableEq, Repr

/-- The parameters of a kind; issues are placed below its name. -/
def readParams (kind : NodeKind) (given : Fields) : Checked KnownParams :=
  let fs := dropNulls kind (given.without "type")
  ((readKind kind fs).map fun p =>
    ⟨p, extras ((paramFields kind).map (·.toField)) fs⟩).within kind.name

/-- Parameters of any kind. -/
inductive ReadParams where
  | known (p : KnownParams)
  | unknown (type : String) (extra : Fields)
  deriving DecidableEq, Repr

/-- Why parameters cannot be looked at. -/
inductive ParamsFault where
  /-- The kind is a list or an object. -/
  | kindNotAName
  /-- The parameters are no object. -/
  | notAnObject
  deriving DecidableEq, Repr

/-- The parameters of a kind given as values; kinds that are not known keep whatever is given. -/
def validateParams (kind params : Value) : Except ParamsFault (Checked ReadParams) :=
  match params.orElse (.object []) with
  | .object fs =>
    match kind with
    | .list _ | .object _ => .error .kindNotAName
    | .text s =>
      match NodeKind.ofName? s with
      | some k => .ok ((readParams k fs).map .known)
      | none => .ok (.ok (.unknown s (Fields.without fs "type")))
    | v => .ok (((text v).within "type").map fun s => .unknown s (Fields.without fs "type"))
  | _ => .error .notAnObject

end Node

end CrmAutomation
