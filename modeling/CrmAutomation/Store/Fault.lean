/-!
Operations of a record store, why they fail, and failures that are planned for them.

A planned failure strikes the operations that it fits: it lets the first few pass, then strikes a
number of times, or always.
-/

namespace CrmAutomation.Store

/-- A kind of operation. -/
inductive Operation where
  | insert
  | update
  | select
  deriving DecidableEq, Repr

namespace Operation

def name : Operation → String
  | insert => "insert"
  | update => "update"
  | select => "select"

def all : List Operation := [insert, update, select]

def ofName? (s : String) : Option Operation := all.find? (·.name == s)

end Operation

/-- What a store reports when an operation fails. -/
inductive Fault where
  /-- A failure with a text of its own. -/
  | reported (text : String)
  | notStarted
  | insertFailed (table : String)
  | updateFailed (table : String)
  | selectFailed (table : String)
  | unsupportedOperator (name : String)
  deriving DecidableEq, Repr

def Fault.message : Fault → String
  | reported text => text
  | notStarted => "Database not initialized"
  | insertFailed table => "Insert into " ++ table ++ " failed"
  | updateFailed table => "Update of " ++ table ++ " failed"
  | selectFailed table => "Select from " ++ table ++ " failed"
  | unsupportedOperator name => "Unsupported filter operator: " ++ name

/-- A failure as it is planned. -/
structure PlannedFault where
  /-- The operations struck, all if none is named. -/
  operation : Option Operation := none
  /-- The table struck, all if none is named. -/
  table : Option String := none
  /-- The store's program fails, not the store. -/
  isProgramError : Bool := false
  text : String := ""
  /-- How many fitting operations pass first. -/
  skip : Int := 0
  /-- How many times it strikes, always if no number is given. -/
  times : Option Int := none
  deriving DecidableEq, Repr

namespace PlannedFault

/-- The failure is planned for an operation on a table. -/
def fits (p : PlannedFault) (op : Operation) (table : String) : Bool :=
  (p.operation.isNone || p.operation == some op) && (p.table.isNone || p.table == some table)

/-- The failure has struck as often as it may. -/
def isSpent (p : PlannedFault) : Bool := p.times == some 0

/-- The failure after it lets one operation pass. -/
def skipped (p : PlannedFault) : PlannedFault := { p with skip := p.skip - 1 }

/-- The failure after it strikes. -/
def struck (p : PlannedFault) : PlannedFault := { p with times := p.times.map (· - 1) }

/-- The plans after an operation, and the failure that strikes it: the first that is ready. -/
def strike (op : Operation) (table : String) :
    List PlannedFault → List PlannedFault × Option PlannedFault
  | [] => ([], none)
  | p :: ps =>
    if !p.fits op table then
      let (qs, hit) := strike op table ps
      (p :: qs, hit)
    else if 0 < p.skip then
      let (qs, hit) := strike op table ps
      (p.skipped :: qs, hit)
    else if p.isSpent then
      let (qs, hit) := strike op table ps
      (p :: qs, hit)
    else (p.struck :: ps, some p)

end PlannedFault

end CrmAutomation.Store
