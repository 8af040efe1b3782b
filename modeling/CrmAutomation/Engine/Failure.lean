import CrmAutomation.Calendar.Instant
import CrmAutomation.Mail.Message
import CrmAutomation.Node.Kind
import CrmAutomation.Store.Fault
import CrmAutomation.Template.Token
import CrmAutomation.Url.Basic
import CrmAutomation.Workflow.Definition

/-!
Why work of the engine fails.

Failures of the store, of mail and of notifications are expected, and callers look for them. Crashes
are not: nobody looks for one in particular.
-/

namespace CrmAutomation

open Numeric

/-- Why a notification is not made. -/
inductive NotificationFault where
  | noUser
  | notStored (f : Store.Fault)
  deriving DecidableEq, Repr

def NotificationFault.message : NotificationFault → String
  | noUser => "No user to notify"
  | notStored f => "Failed to create notification: " ++ f.message

/-- Why there is no definition of a workflow. -/
inductive DefinitionFault where
  | unknownWorkflow (id : Value)
  | invalid (e : Definition.Invalid)
  deriving DecidableEq, Repr

def DefinitionFault.message : DefinitionFault → String
  | unknownWorkflow id => "Workflow " ++ Schema.ticked id.literalForm ++ " not found"
  | invalid e => e.message

/-- Data of a shape that the engine cannot work with. -/
inductive Malformed where
  /-- The authored form of a node. -/
  | nodeForm (f : Node.FormFault)
  /-- An error policy that is a list or an object. -/
  | policy
  /-- A trigger configuration that is no object. -/
  | triggerConfig
  /-- A payload without items. -/
  | payload
  /-- An item of a payload that is no pair. -/
  | payloadItem
  /-- The body of a message. -/
  | messageBody
  /-- The status of an execution that is a list or an object. -/
  | status
  /-- A retry count or a duration that is no number. -/
  | number
  /-- A limit that is no integer. -/
  | limit
  deriving DecidableEq, Repr

def Malformed.message : Malformed → String
  | nodeForm .kindNotAName => "a node names its kind by a list or an object"
  | nodeForm .configNotAnObject => "the configuration of an action is no object"
  | nodeForm .dataNotAnObject => "the data of an action are no object"
  | policy => "an error policy is a list or an object"
  | triggerConfig => "a trigger configuration is no object"
  | payload => "a payload has no items"
  | payloadItem => "an item of a payload is no pair"
  | messageBody => "the body of a message is no text"
  | status => "a status is a list or an object"
  | number => "a count or a duration is no number"
  | limit => "a limit is no integer"

/-- What goes wrong inside a piece of work. -/
inductive Crash where
  | path (f : PathFault)
  | template (f : Template.Fault)
  | date (f : Calendar.DateFault)
  | noInteger (f : Binary64.NoInteger)
  /-- An integer beyond every double. -/
  | hugeNumber
  /-- An identifier beyond 64 bits. -/
  | hugeKey
  /-- A number that JSON on the wire cannot hold. -/
  | unsendable
  /-- A text that is no address. -/
  | address (f : Url.Fault)
  /-- A host that cannot be named. -/
  | host (f : Url.HostFault)
  /-- A reply from an address without a host. -/
  | noHost (url : String)
  | missingKey (key : String)
  /-- A collaborator's program failed with a text. -/
  | program (text : String)
  | malformed (m : Malformed)
  deriving DecidableEq, Repr

/-- The text under which a crash is recorded. -/
def Crash.text : Crash → String
  | path f => f.message
  | template f => f.message
  | date f => f.message
  | noInteger f => f.message
  | hugeNumber => "int too large to convert to float"
  | hugeKey => "Python int too large to convert to SQLite INTEGER"
  | unsendable => "Out of range float values are not JSON compliant"
  | address f => f.message
  | host f => f.message
  | noHost url => "unknown url type: " ++ Literal.quoted url
  | missingKey key => Literal.quoted key
  | program text => if text.isEmpty then "RuntimeError" else text
  | malformed m => m.message

inductive Failure where
  | storage (f : Store.Fault)
  | delivery (f : Mail.DeliveryFault)
  | notification (f : NotificationFault)
  | definition (f : DefinitionFault)
  | executionNotFound (id : Value)
  | retryLimit (id : Value) (limit : Nat)
  | crash (c : Crash)
  deriving DecidableEq, Repr

/-- The failure as a datum: a text, or the reason that a mail proxy gave. -/
def Failure.report : Failure → Value
  | storage f => .text f.message
  | delivery f => f.reason
  | notification f => .text f.message
  | definition f => .text f.message
  | executionNotFound id => .text ("Execution " ++ Schema.ticked id.literalForm ++ " not found")
  | retryLimit id limit =>
    .text ("Execution " ++ Schema.ticked id.literalForm ++ " has reached the retry limit (" ++
      intText limit ++ ")")
  | crash c => .text c.text

end CrmAutomation
