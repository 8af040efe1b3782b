import CrmAutomation.Condition.Evaluation
import CrmAutomation.Flow.Graph
import CrmAutomation.Node.Result

/-!
Nodes that steer a run: conditions, delays and loops.
-/

namespace CrmAutomation.Node

open EngineM Numeric

/-! ### Conditions -/

/-- The ports of a condition. -/
def truePort : String := "true"

def falsePort : String := "false"

def portFor (holds : Bool) : String := if holds then truePort else falsePort

/-- The one node that a branch leads to, if any. -/
def branch (flow : Flow) (id : String) (holds : Bool) : List String :=
  match flow.targetAt? id (portFor holds) with
  | some target => if target.isEmpty then [] else [target]
  | none => []

/-- Decides which branch is followed. -/
def runCondition (p : ConditionParams) (id : String) (flow : Flow) (scope : Scope) :
    EngineM NodeResult := do
  let c : Condition := { field := p.field, operator := .text p.operator, value := p.value }
  let verdict := c.evaluate scope.value
  logAll verdict.notes
  pure (.done
    [("condition",
        .object [("field", p.field), ("operator", .text p.operator), ("value", p.value)]),
      ("result", .bool verdict.holds)]
    (some (branch flow id verdict.holds)))

/-! ### Delays -/

/-- The milliseconds of a unit of time; one that is not known counts as seconds. -/
def unitMs (unit : String) : Nat :=
  if unit == "minutes" then 60000
  else if unit == "hours" then 3600000
  else if unit == "days" then 86400000
  else 1000

/-- What an amount of time is given as. -/
inductive Amount where
  | number (x : Binary64)
  | unreadable
  /-- An integer beyond every double. -/
  | huge
  deriving DecidableEq, Repr

/-- Reads an amount of time; nothing and the empty text count as one. -/
def amountOf (scope : Value) : Value → Amount
  | .null => .number (.ofInt 1)
  | .text s =>
    if s.isEmpty then .number (.ofInt 1)
    else
      match (Template.expand scope s).toOption.bind Binary64.ofText? with
      | some x => .number x
      | none => .unreadable
  | .int n => if (Binary64.ofInt n).isFinite then .number (.ofInt n) else .huge
  | .bool b => .number (.ofInt (if b then 1 else 0))
  | .float x => .number x
  | .list _ | .object _ => .unreadable

/-- The amount to wait, never negative; what cannot be waited for counts as nothing. -/
def settleAmount : Amount → EngineM Binary64
  | .number x =>
    if x.isFinite then pure (if x.lt .zero then .zero else x)
    else do
      log .warning "Non-finite delay value, not delaying"
      pure .zero
  | .unreadable => do
    log .warning "Invalid delay value, not delaying"
    pure .zero
  | .huge => crash .hugeNumber

/-- The longest delay that can be asked for, in milliseconds. -/
def longestMs : Int := 9223372036854775807

/-- An amount of a unit in whole milliseconds. -/
def requestedMs (amount : Binary64) (unit : String) : Int :=
  match (amount.mul (.ofInt (unitMs unit))).truncate? with
  | some n => n
  | none => longestMs

/-- Waits, but not longer than the settings allow. -/
def runDelay (p : DelayParams) (scope : Scope) : EngineM NodeResult := do
  let amount ← settleAmount (amountOf scope.value p.amount)
  let requested := requestedMs amount p.unit
  let s ← settings
  let most ← ofExcept .noInteger s.maxDelayMs
  let delay := min requested most
  if delay < requested then log .debug "Delay capped"
  wait delay
  pure (.done
    [("delayed", .bool true), ("delay_ms", .int delay), ("requested_ms", .int requested)])

/-! ### Loops -/

/-- Reports the items of a list; anything else has none. -/
def runLoop (p : LoopParams) (scope : Scope) : EngineM NodeResult := do
  let items ← ofExcept .path (scope.value.lookup p.source)
  match items with
  | .list vs =>
    pure (.done
      [("looped", .int vs.length), ("items", .list vs), ("item_variable", .text p.itemVariable)])
  | _ => pure (.done [("looped", .int 0)])

end CrmAutomation.Node
