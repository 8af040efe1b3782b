import CrmAutomation.Engine.Basic
import CrmAutomation.Node.Params
import CrmAutomation.Template.Token

/-!
What a node works on, and what comes of it.
-/

namespace CrmAutomation

open EngineM

/-- What a node sees of the run that it belongs to. -/
structure Scope where
  /-- The run's execution record. -/
  execution : String
  payload : Fields := []
  vars : Fields := []
  deriving DecidableEq, Repr

namespace Scope

/-- The variables as one object, in which templates are expanded. -/
def value (s : Scope) : Value := .object s.vars

/-- A variable, null where it is missing. -/
def get (s : Scope) (name : String) : Value := s.vars.get name

/-- A text with its tokens expanded. -/
def expand (s : Scope) (template : String) : EngineM String :=
  ofExcept .template (Template.expand s.value template)

/-- A template that may be missing, expanded or null. -/
def expandOptional (s : Scope) : Option String → EngineM Value
  | none => pure .null
  | some template => do
    let t ← s.expand template
    pure (.text t)

/-- A value with its tokens resolved. -/
def resolve (s : Scope) (v : Value) : EngineM Value :=
  ofExcept .template (Value.resolve s.value v)

/-- The scope with one variable set. -/
def bind (s : Scope) (b : String × Value) : Scope :=
  { s with vars := s.vars.insert b.1 b.2 }

end Scope

/-- Why a node fails. -/
inductive NodeFault where
  /-- The first issue with its parameters. -/
  | badParams (kind : NodeKind) (issue : Schema.Issue)
  | emailIncomplete
  | taskUntitled
  | notificationUntitled
  | tableMissing
  | targetMissing
  | failure (f : Failure)
  deriving DecidableEq, Repr

/-- What is recorded of a fault. -/
def NodeFault.report : NodeFault → Value
  | badParams kind issue =>
    .text (Text.trim ("Invalid " ++ kind.name ++ " parameters: " ++ issue.placeText ++ " " ++
      issue.complaint.message))
  | emailIncomplete => .text "Email requires to and subject"
  | taskUntitled => .text "Task requires a title"
  | notificationUntitled => .text "Notification requires a title"
  | tableMissing => .text "Fetch data requires a table"
  | targetMissing => .text "Update status requires table, field, and entity_id"
  | failure f => f.report

/-- What comes of a node. -/
inductive NodeResult where
  /-- The node is done. It may choose the nodes that follow it, and may set one variable. -/
  | done (output : Fields) (next : Option (List String) := none)
      (binding : Option (String × Value) := none)
  | failed (fault : NodeFault) (output : Option Fields := none)
  deriving DecidableEq, Repr

namespace NodeResult

def succeeded : NodeResult → Bool
  | done .. => true
  | failed .. => false

def output? : NodeResult → Option Fields
  | done output .. => some output
  | failed _ output => output

/-- The output as a value, null where there is none. -/
def output (r : NodeResult) : Value :=
  match r.output? with
  | some fs => .object fs
  | none => .null

def fault? : NodeResult → Option NodeFault
  | done .. => none
  | failed fault _ => some fault

/-- The ids of the nodes to follow, none to follow every edge. -/
def next : NodeResult → Option (List String)
  | done _ next _ => next
  | failed .. => none

def binding : NodeResult → Option (String × Value)
  | done _ _ binding => binding
  | failed .. => none

/-- The scope after the node. -/
def settle (r : NodeResult) (s : Scope) : Scope :=
  match r.binding with
  | some b => s.bind b
  | none => s

end NodeResult

end CrmAutomation
