import CrmAutomation.Engine.Basic

/-!
Payloads: the data that come with an event and that a run starts from.
-/

namespace CrmAutomation.Payload

open EngineM

/-- A single datum as a key. -/
def keyOf? : Value → Option Key
  | .list _ | .object _ => none
  | .text s => some (.text s)
  | .null => some .null
  | .bool b => some (.bool b)
  | .int n => some (.int n)
  | .float x => some (.float x)

/-- A key as a datum. -/
def keyValue : Key → Value
  | .text s => .text s
  | .null => .null
  | .bool b => .bool b
  | .int n => .int n
  | .float x => .float x

/-- The items of a value. -/
def items? : Value → Option (List Value)
  | .list vs => some vs
  | .text s => some (s.toList.map fun c => .text (String.singleton c))
  | .object fs => some (fs.map fun p => keyValue p.1)
  | _ => none

/-- Why a value gives no fields. -/
inductive Fault where
  /-- The value, or an item of it, has no items; or a key is a list or an object. -/
  | noItems
  /-- An item does not have two items. -/
  | noPair
  deriving DecidableEq, Repr

/-- A key and a value from an item of a payload. -/
def pair (v : Value) : Except Fault (Key × Value) :=
  match items? v with
  | none => .error .noItems
  | some [k, v] =>
    match keyOf? k with
    | some key => .ok (key, v)
    | none => .error .noItems
  | some _ => .error .noPair

/-- Adds a pair to fields. A key that is one with an earlier key keeps the form of that. -/
def put (fs : Fields) (p : Key × Value) : Fields :=
  match List.find? (fun q => q.1.isSame p.1) fs with
  | some q => fs.insert q.1 p.2
  | none => fs.insert p.1 p.2

/-- The fields of a payload: an object, a list of pairs, or nothing. -/
def fields (v : Value) : Except Fault Fields :=
  if !v.isTruthy then .ok []
  else
    match v with
    | .object fs => .ok fs
    | v =>
      match items? v with
      | some vs => (vs.mapM pair).map fun ps => ps.foldl put []
      | none => .error .noItems

def Fault.malformed : Fault → Malformed
  | noItems => .payload
  | noPair => .payloadItem

/-- Reads a payload. -/
def read (v : Value) : EngineM Fields := ofExcept (fun f => .malformed f.malformed) (fields v)

/-- The payload of an event about an entity: the entity, the fields under its type, and the
fields again on their own. -/
def compose (entityType : String) (entityId : Value) (fs : Fields) : Fields :=
  (Fields.ofPairs [
    ("entity_type", .text entityType), ("entity_id", entityId), (entityType, .object fs)]).merge fs

end CrmAutomation.Payload
