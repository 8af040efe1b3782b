import CrmAutomation.Condition.Operator
import CrmAutomation.Log.Level
import CrmAutomation.Template.Token

/-!
Conditions on the variables of a run or on a payload.

Both sides are templates: the field is the path of a token, the value may hold tokens. Evaluation
always yields an answer; what cannot be evaluated does not hold.
-/

namespace CrmAutomation

open Text

/-- A predicate as authored: any of its parts may be any value. -/
structure Condition where
  field : Value
  operator : Value := .text "equals"
  value : Value := .null
  deriving DecidableEq, Repr

namespace Condition

/-- How an evaluation ended. -/
inductive Verdict where
  | decided (holds : Bool)
  | unknownOperator
  | failed (fault : Template.Fault)
  deriving DecidableEq, Repr

namespace Verdict

def holds : Verdict → Bool
  | decided b => b
  | _ => false

/-- What an evaluation logs. -/
def notes : Verdict → List Log.Note
  | decided _ => [⟨.debug, "Condition evaluated"⟩]
  | unknownOperator =>
    [⟨.warning, "Unknown condition operator"⟩, ⟨.debug, "Condition evaluated"⟩]
  | failed _ => [⟨.warning, "Condition evaluation error"⟩]

end Verdict

/-- The path that a condition's field names. -/
def path (field : Value) : Except Value.Textless (List Char) :=
  (field.orElse (.text "")).literal.map fun s => trimChars isBlank s.toList

/-- The text that a path shows, none where it is missing; an empty list or object reads as
empty. -/
def shownAt? (scope : Value) (p : List Char) : Except Template.Fault (Option String) := do
  let token := String.ofList (Template.written p)
  let resolved ← Template.expand scope token
  let raw ← (scope.lookupChars p).mapError .path
  if raw = .list [] || raw = .object [] then .ok (some "")
  else .ok (if resolved = token then none else some resolved)

/-- The text of the field. -/
def actual? (scope field : Value) : Except Template.Fault (Option String) := do
  shownAt? scope (← (path field).mapError .text)

/-- The template that the field is compared with. -/
def template (value : Value) : Except Value.Textless String :=
  if value = .null then .ok "" else value.literal

/-- The text that the field is compared with. -/
def target (scope value : Value) : Except Template.Fault String := do
  Template.expand scope (← (template value).mapError .text)

/-- The operator that a value names; the default one if it is absent or empty. -/
def operator? (v : Value) : Option Operator :=
  match v.orElse (.text "equals") with
  | .text s => Operator.ofName? s
  | _ => none

/-- Evaluates a condition. -/
def evaluate (c : Condition) (scope : Value) : Verdict :=
  match actual? scope c.field, target scope c.value with
  | .error e, _ => .failed e
  | .ok _, .error e => .failed e
  | .ok a, .ok t =>
    match operator? c.operator with
    | some op => .decided (op.holds a t)
    | none => .unknownOperator

/-- Whether a condition holds. -/
def holds (c : Condition) (scope : Value) : Bool := (c.evaluate scope).holds

/-- The verdicts of conditions up to and with the first that does not hold. -/
def verdicts (scope : Value) : List Condition → List Verdict
  | [] => []
  | c :: cs =>
    let v := c.evaluate scope
    if v.holds then v :: verdicts scope cs else [v]

/-- A condition read from an object; a missing operator is the default one. -/
def ofFields (fs : Fields) : Condition :=
  { field := fs.get "field"
    operator := (fs.find? "operator").getD (.text "equals")
    value := fs.get "value" }

/-- Why a value is no list of conditions. -/
inductive ListFault where
  /-- The value has no items. -/
  | notIterable
  /-- An item is no object. -/
  | notACondition
  deriving DecidableEq, Repr

/-- Whether all conditions of a list hold; what follows one that does not is not looked at. -/
def allHoldInList (scope : Value) : List Value → Except ListFault Bool
  | [] => .ok true
  | .object fs :: vs => if (ofFields fs).holds scope then allHoldInList scope vs else .ok false
  | _ :: _ => .error .notACondition

/-- Whether all conditions of a value hold; an absent or empty one holds none that could fail. -/
def allHoldIn (scope v : Value) : Except ListFault Bool :=
  if !v.isTruthy then .ok true
  else
    match v with
    | .list vs => allHoldInList scope vs
    | .object _ | .text _ => .error .notACondition
    | _ => .error .notIterable

end Condition

end CrmAutomation
