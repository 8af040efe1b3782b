import CrmAutomation.Engine.Failure
import CrmAutomation.Record.Filter
import CrmAutomation.Run.Record

/-!
Figures over execution records: how many there are in each state, how many of them succeed, and
how long they take on average.
-/

namespace CrmAutomation

open Numeric

structure Statistics where
  total : Nat
  completed : Nat
  failed : Nat
  running : Nat
  /-- The percentage of completed executions, to one decimal place. -/
  successRate : Binary64
  averageMs : Int
  deriving DecidableEq, Repr

namespace Statistics

/-- A sum of durations: exact until a double is added. -/
inductive Sum where
  | whole (n : Int)
  | double (x : Binary64)
  deriving DecidableEq, Repr

/-- The double nearest to an integer, if there is one. -/
def doubleOf (n : Int) : Except Crash Binary64 :=
  let x := Binary64.ofInt n
  if x.isFinite then .ok x else .error .hugeNumber

def Sum.add (s : Sum) (v : Value) : Except Crash Sum :=
  match s, v.asNumber? with
  | .whole m, some (.inl n) => .ok (.whole (m + n))
  | .whole m, some (.inr y) => (doubleOf m).map fun x => .double (x.add y)
  | .double x, some (.inl n) => (doubleOf n).map fun y => .double (x.add y)
  | .double x, some (.inr y) => .ok (.double (x.add y))
  | _, none => .error (.malformed .number)

/-- The mean of a number of durations, not rounded. -/
def Sum.mean (s : Sum) (count : Nat) : Except Crash Binary64 :=
  match s with
  | .whole n =>
    let x := Binary64.ofQuotient n count
    if x.isFinite then .ok x else .error .hugeNumber
  | .double x => .ok (x.divNat count)

/-- The mean of durations in whole milliseconds, a tie going to the even number. -/
def meanMs (durations : List Value) : Except Crash Int :=
  if durations.isEmpty then .ok 0
  else do
    let sum ← durations.foldlM Sum.add (.whole 0)
    let mean ← sum.mean durations.length
    mean.round.mapError .noInteger

/-- How many rows have a status. -/
def countOf (status : RunStatus) (rows : List Row) : Nat :=
  rows.countP fun row => row.get "status" == status.value

/-- A part as a percentage of a total, to one decimal place. -/
def percentage (part total : Nat) : Binary64 :=
  if total = 0 then .zero
  else ((Binary64.ofQuotient part total).mul (.ofInt 100)).roundTenth

/-- The durations that rows have. -/
def durations (rows : List Row) : List Value :=
  (rows.map (·.get "duration_ms")).filter (· != .null)

/-- The figures over rows. -/
def ofRows (rows : List Row) : Except Crash Statistics :=
  let completed := countOf .completed rows
  (meanMs (durations rows)).map fun averageMs =>
    { total := rows.length
      completed
      failed := countOf .failed rows
      running := countOf .running rows
      successRate := percentage completed rows.length
      averageMs }

end Statistics

end CrmAutomation
