import CrmAutomation.Value.Bytes
import CrmAutomation.Value.Restored
import CrmAutomation.Value.Text

/-!
Mail by way of a proxy: what is posted to it, what it replies, and how the replies count.
-/

namespace CrmAutomation

namespace Mail

/-- A text as the body of a message: in the styled container, with line breaks marked up. -/
def htmlBody (text : String) : String :=
  "<div style=\"font-family: sans-serif; padding: 20px;\">" ++
    String.ofList (text.toList.flatMap fun c => if c == '\n' then "<br>".toList else [c]) ++
    "</div>"

/-- The body given for a message is neither a text nor absent. -/
structure BodyNotText where
  deriving DecidableEq, Repr

/-- The text of a body; anything that counts as absent is empty. -/
def bodyText : Value → Except BodyNotText String
  | .text s => .ok s
  | v => if v.isTruthy then .error {} else .ok ""

mutual

/-- JSON on the wire can hold the value: every double in it is finite. -/
def isSendable : Value → Bool
  | .float x => x.isFinite
  | .list xs => isSendableList xs
  | .object fs => isSendableFields fs
  | _ => true

def isSendableList : List Value → Bool
  | [] => true
  | x :: xs => isSendable x && isSendableList xs

def isSendableFields : Fields → Bool
  | [] => true
  | (_, x) :: fs => isSendable x && isSendableFields fs

end

/-- A message on its way to the proxy. -/
structure Post where
  url : String
  recipient : Value
  subject : Value
  htmlBody : String
  sender : Value
  deriving DecidableEq, Repr

/-- What a transport that breaks down reports. -/
inductive Breakdown where
  /-- The network failed. -/
  | network (message : String)
  /-- The program of the transport failed, with a message. -/
  | program (message : String)
  /-- The program of the transport missed a key. -/
  | missingKey (key : String)
  deriving DecidableEq, Repr

/-- The body of a reply. -/
inductive Body where
  | json (v : Value)
  | text (s : String)
  deriving DecidableEq, Repr

/-- The value that a body holds; a text that is no JSON counts as an empty object. -/
def Body.value : Body → Value
  | json v => v.restored
  | text s => (Json.ofBytesOf? s).getD (.object [])

/-- A reply of the proxy. -/
inductive Reply where
  | answer (status : Int) (body : Body)
  | breakdown (b : Breakdown)
  deriving DecidableEq, Repr

/-- What the proxy replies if nothing else is planned: success and a number. -/
def defaultReply (n : Nat) : Reply :=
  .answer 200 (.json (.object [
    ("success", .bool true), ("messageId", .text ("msg-" ++ Numeric.intText n))]))

/-- Why a message counts as not delivered. -/
inductive DeliveryFault where
  | network (message : String)
  | status (code : Int)
  /-- The proxy refused the message, for a reason in any form. -/
  | refused (reason : Value)
  deriving DecidableEq, Repr

def DeliveryFault.reason : DeliveryFault → Value
  | network message => .text ("Email request failed: " ++ message)
  | status code => .text ("Email API returned HTTP " ++ Numeric.intText code)
  | refused reason => reason

/-- A status of success. -/
def isSuccess (status : Int) : Bool := 200 ≤ status && status < 300

/-- What the body of a successful reply says: the message's id, or why it was refused. -/
def readBody : Value → Except DeliveryFault Value
  | .object fs =>
    if Fields.get fs "success" = .bool false then
      .error (.refused ((Fields.get fs "error").orElse (.text "Email API reported failure")))
    else
      let id := Fields.get fs "messageId"
      .ok (if id.isTruthy then id else Fields.get fs "id")
  | _ => .ok .null

end Mail

/-- Mail traffic: the replies planned for the next posts, and the posts so far. -/
structure Mailbox where
  planned : List Mail.Reply := []
  posts : List Mail.Post := []
  deriving DecidableEq, Repr

/-- Posts a message; the reply is the next planned one. -/
def Mailbox.post (m : Mailbox) (p : Mail.Post) : Mail.Reply × Mailbox :=
  let posts := m.posts ++ [p]
  match m.planned with
  | [] => (Mail.defaultReply posts.length, ⟨[], posts⟩)
  | r :: rs => (r, ⟨rs, posts⟩)

end CrmAutomation
