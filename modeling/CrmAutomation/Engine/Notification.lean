import CrmAutomation.Engine.Basic

/-!
Notifications of users inside the application.
-/

namespace CrmAutomation

open EngineM

/-- A notification for a user. -/
structure Notification where
  user : Value
  title : Value
  message : Value := .text ""
  type : Value := .text "info"
  entityType : Value := .null
  entityId : Value := .null

namespace Notification

/-- The row of a notification. -/
def row (n : Notification) : Row := [
  ("user_id", n.user), ("title", n.title), ("message", n.message.orElse (.text "")),
  ("type", n.type), ("category", .text "workflow"), ("is_read", .bool false),
  ("entity_type", n.entityType), ("entity_id", n.entityId)]

/-- Makes a notification, and yields its row as stored. -/
def make (n : Notification) : EngineM Row := do
  if n.user.isTruthy then
    let stored ← (insert notificationsTable n.row).onStorageFault fun f =>
      throw (.notification (.notStored f))
    log .debug "Notification created"
    pure stored
  else throw (.notification .noUser)

end Notification

end CrmAutomation
