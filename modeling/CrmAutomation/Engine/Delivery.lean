import CrmAutomation.Engine.Basic

/-!
Sending mail.

A message is posted once. It counts as delivered if the proxy replies with a status of success and
does not say otherwise.
-/

namespace CrmAutomation.Mail

open EngineM

/-- Where messages are posted, as configured. -/
def endpoint (s : Settings) : String := s.emailApiUrl ++ "/api/send-email"

/-- The address that messages are posted to. -/
def address (s : Settings) : Except Url.Fault Url := do (← Url.parse (endpoint s)).resolved

/-- The name that messages are sent in: the company's, or else the configured one. -/
def senderName : EngineM Value := do
  let e ← engine
  let configured := Value.text e.settings.emailFromName
  if e.looksUpSender then
    let rows ← (select companyTable { limit := some 1 }).onStorageFault fun _ => do
      log .warning "Company settings lookup failed"
      pure []
    match rows with
    | row :: _ => pure ((row.get "company_name").orElse configured)
    | [] => pure configured
  else pure configured

/-- Posts a message. -/
def post (p : Post) : EngineM Reply := fun e =>
  let (reply, mail) := e.mail.post p
  (.ok reply, { e with mail })

def notDelivered {α : Type} (event : String) (f : DeliveryFault) : EngineM α := do
  log .error event
  throw (.delivery f)

/-- What a status and a body mean: the message's id, or that the message was not delivered. -/
def judge (status : Int) (body : Value) : EngineM Value :=
  if isSuccess status then
    match readBody body with
    | .error f => notDelivered "Email API reported failure" f
    | .ok id => do
      log .info "Email sent"
      pure id
  else notDelivered "Email API rejected message" (.status status)

/-- What a reply from an address means. Replies come only from an address with a host. -/
def readReply (url : Url) : Reply → EngineM Value
  | .breakdown (.network message) => notDelivered "Email request failed" (.network message)
  | .breakdown (.program text) => crash (.program text)
  | .breakdown (.missingKey key) => crash (.missingKey key)
  | .answer status body =>
    if url.isAbsolute then judge status body.value else crash (.noHost url.text)

/-- Sends a message, and yields the id that the proxy gave it, or null. -/
def send (recipient subject body : Value) : EngineM Value := do
  let text ← ofExcept (fun _ => .malformed .messageBody) (bodyText body)
  let sender ← senderName
  let s ← settings
  let url ← ofExcept .address (address s)
  if isSendable recipient && isSendable subject && isSendable sender then
    match url.hostFault? with
    | some f => crash (.host f)
    | none =>
      let reply ← post ⟨url.text, recipient, subject, htmlBody text, sender⟩
      readReply url reply
  else crash .unsendable

end CrmAutomation.Mail
