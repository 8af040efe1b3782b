/-!
Levels of log lines, by their weight.
-/

namespace CrmAutomation.Log

inductive Level where
  | debug
  | info
  | warning
  | error
  | critical
  deriving DecidableEq, Repr

namespace Level

def name : Level → String
  | debug => "debug"
  | info => "info"
  | warning => "warning"
  | error => "error"
  | critical => "critical"

def weight : Level → Nat
  | debug => 10
  | info => 20
  | warning => 30
  | error => 40
  | critical => 50

def all : List Level := [debug, info, warning, error, critical]

def ofName? (s : String) : Option Level := all.find? (·.name == s)

end Level

/-- What a piece of work has to say: a level and an event. -/
structure Note where
  level : Level
  event : String
  deriving DecidableEq, Repr

end CrmAutomation.Log
