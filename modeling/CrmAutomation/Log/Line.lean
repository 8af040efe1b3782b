import CrmAutomation.Log.Configuration
import CrmAutomation.Log.Level
import CrmAutomation.Log.Placeholder

/-!
What log calls become: JSON lines, or plain text for a console.

Some names of fields are reserved, and some fields are read by the logging itself: arguments for the
placeholders of the event, and what is known of an exception and of the stack.
-/

namespace CrmAutomation.Log

/-- A log call: its fields, and what was bound when it was made. -/
structure Call where
  level : Level
  event : Value
  fields : Fields
  /-- The name of the logger; what counts as absent means the root. -/
  logger : Value
  bound : Fields
  deriving DecidableEq, Repr

/-- Why a call fails. -/
inductive CallFault where
  /-- The logger's name is no text. -/
  | loggerNotText
  | reservedField
  /-- The field that names a record holds none. -/
  | noRecord
  /-- Arguments are given, but no event. -/
  | noEvent
  /-- A lone pair of the arguments is asked for by position. -/
  | noPosition
  /-- The arguments are not a list, an object or a text, or the event takes none. -/
  | unsuited
  | placeholder (f : PlaceholderFault)
  /-- An exception or a stack is no text. -/
  | notText
  deriving DecidableEq, Repr

namespace Call

/-- The name of the logger. -/
def loggerName? (c : Call) : Option String :=
  if c.logger.isTruthy then
    match c.logger with
    | .text s => some s
    | _ => none
  else some "root"

/-- The call becomes a line. -/
def isVisible (c : Call) (conf : Configuration) : Bool :=
  conf.root ≤ c.level.weight && conf.levelOf ((c.loggerName?).getD "") ≤ c.level.weight

/-- The fields that a call may not have. -/
def reserved : List Key := ["event", "self", "method_name"]

/-- The fields that are read by the logging itself and leave no trace. -/
def consumed : List Key := ["stack_info", "exc_info", "timestamp"]

/-- What counts as the arguments of an event: a list of one object stands for the object. -/
def argumentsOf : Value → Except CallFault Value
  | .list [.object fs] => .ok (if fs.isEmpty then .list [.object fs] else .object fs)
  | .list vs => .ok (.list vs)
  | .text s => .ok (.text s)
  | .object fs => if fs.length = 1 then .error .noPosition else .ok (.object fs)
  | _ => .error .unsuited

/-- The event with its placeholders replaced. -/
def formatted (event args : Value) : Except CallFault Value := do
  let args ← argumentsOf args
  match event with
  | .null => .error .noEvent
  | .text s => ((replacePlaceholders args s).mapError .placeholder).map .text
  | _ => .error .unsuited

/-- The event and the fields of a call: its own over what is bound, the arguments of the event used
up. -/
def contents (c : Call) : Except CallFault (Value × Fields) :=
  let fs := c.bound.merge (c.fields.filter fun p => !consumed.contains p.1)
  match fs.find? "positional_args" with
  | none | some .null => .ok (c.event, fs)
  | some args =>
    if args.isTruthy then
      (formatted c.event args).map fun event => (event, fs.without "positional_args")
    else .ok (c.event, fs.without "positional_args")

/-- Checks what is wrong with a call whether it becomes a line or not. -/
def check (c : Call) (format : LogFormat) : Except CallFault Unit :=
  if c.loggerName?.isNone then .error .loggerNotText
  else if reserved.any c.fields.has then .error .reservedField
  else if format = .json && c.fields.get "_record" != .null then .error .noRecord
  else .ok ()

/-- The fields of a JSON line. -/
def line (c : Call) : Except CallFault Fields :=
  (contents c).map fun (event, fs) =>
    let fs := if event = .null then fs else fs.insert "event" event
    (fs.insert "logger" (.text ((c.loggerName?).getD ""))).insert "level" (.text c.level.name)

/-! ### Plain text -/

/-- The least width of an event. -/
def eventWidth : Nat := 35

/-- Characters for which a text is quoted. -/
def isQuotable (c : Char) : Bool :=
  c == ' ' || c == '\t' || c == '=' || c == '\r' || c == '\n' || c == '"' || c.toNat == 39

/-- The value of a field. -/
def shown : Value → String
  | .text s => if s.toList.any isQuotable then Literal.quoted s else s
  | v => Literal.render v

/-- The columns that stand first, as far as they are there. -/
def columns (event : Value) (fs : Fields) : List String :=
  let text := event.literalForm
  let padded := text ++ String.ofList (List.replicate (eventWidth - text.length) ' ')
  let bracketed := fun (key : Key) => (fs.find? key).map fun v => "[" ++ v.literalForm ++ "]"
  (if event = .null then [] else [padded]) ++ (bracketed "logger").toList ++
    (bracketed "logger_name").toList

/-- The fields that have no place of their own. -/
def placed : List Key := ["logger", "logger_name", "level", "stack", "exception"]

/-- The other fields by name. -/
def others (fs : Fields) : List String :=
  ((fs.filter fun p => !placed.contains p.1).mergeSort fun p q =>
    !(q.1.asText < p.1.asText)).map fun p => p.1.asText ++ "=" ++ shown p.2

/-- A text that a field holds, if any. -/
def textAt (fs : Fields) (key : Key) : Except CallFault (Option String) :=
  match fs.get key with
  | .null => .ok none
  | .text s => .ok (some s)
  | _ => .error .notText

/-- A rule across the console. -/
def rule : String := String.ofList (List.replicate 79 '=')

/-- The plain text of a call: time and level, columns, other fields, stack and exception. -/
def plainText (c : Call) : Except CallFault (List Char) := do
  let (event, fs) ← contents c
  let stack ← textAt fs "stack"
  let exception ← textAt fs "exception"
  let row := " ".intercalate (["[" ++ c.level.name ++ "]"] ++ columns event fs ++ others fs)
  let head := (row.toList.reverse.dropWhile (· == ' ')).reverse
  let stackPart :=
    match stack with
    | some s => "\n" ++ s ++ (if exception.isSome then "\n\n" ++ rule ++ "\n" else "")
    | none => ""
  let exceptionPart :=
    match exception with
    | some s => "\n" ++ s
    | none => ""
  .ok (head ++ (stackPart ++ exceptionPart).toList)

/-- A character that ends a line. -/
def endsLine (c : Char) : Bool :=
  (0xA ≤ c.toNat && c.toNat ≤ 0xD) || (0x1C ≤ c.toNat && c.toNat ≤ 0x1E) || c.toNat == 0x85 ||
    c.toNat == 0x2028 || c.toNat == 0x2029

/-- How many lines end in a text; a carriage return and a line feed after it end one. -/
def lineEnds : List Char → Nat
  | [] => 0
  | '\r' :: '\n' :: cs => lineEnds cs + 1
  | c :: cs => lineEnds cs + if endsLine c then 1 else 0

/-- How many lines of plain text the call takes. -/
def height (c : Call) : Except CallFault Nat := (plainText c).map fun cs => lineEnds (cs ++ ['\n'])

end Call

/-- Goes through calls up to the first that fails; yields something of each that becomes a line. -/
def collect {α : Type} (conf : Configuration) (format : LogFormat) (f : Call → Except CallFault α) :
    List Call → Except CallFault (List α)
  | [] => .ok []
  | c :: cs => do
    c.check format
    let first ← if c.isVisible conf then (f c).map ([·]) else .ok []
    let rest ← collect conf format f cs
    .ok (first ++ rest)

/-- The identifiers bound while a run is in progress. -/
def boundFields (execution workflow event : Value) : Fields :=
  [("execution_id", execution), ("workflow_id", workflow), ("trigger_event", event)]

end CrmAutomation.Log
