import CrmAutomation.Engine.Delivery
import CrmAutomation.Engine.Notification
import CrmAutomation.Node.Result

/-!
Nodes that tell people something: mail and notifications.
-/

namespace CrmAutomation.Node

open EngineM

/-- Sends a message, if it has a recipient and a subject. -/
def runEmail (p : EmailParams) (scope : Scope) : EngineM NodeResult := do
  let recipient ← scope.expand p.recipient
  let subject ← scope.expand p.subject
  let body ← scope.expand p.body
  if recipient.isEmpty || subject.isEmpty then pure (.failed .emailIncomplete)
  else
    let report (sent : Bool) : Fields :=
      [("sent", .bool sent), ("to", .text recipient), ("subject", .text subject)]
    let delivered := do
      let id ← Mail.send (.text recipient) (.text subject) (.text body)
      pure (NodeResult.done (report true ++ ([("message_id", id)] : Fields)))
    delivered.onDeliveryFault fun f => pure (.failed (.failure (.delivery f)) (report false))

/-- Who is notified: the actor, the user, or else the configured one. -/
def actor (scope : Scope) (s : Settings) : Value :=
  (scope.get "actor_id").orElse ((scope.get "user_id").orElse (Value.ofText? s.defaultActorId))

/-- Notifies the current actor. -/
def runNotification (p : NotificationParams) (scope : Scope) : EngineM NodeResult := do
  let title ← scope.expand p.title
  let message ← scope.expand p.message
  if title.isEmpty then pure (.failed .notificationUntitled)
  else
    let s ← settings
    let made := do
      let row ← Notification.make
        { user := actor scope s
          title := .text title
          message := .text message
          type := .text p.notificationType
          entityType := scope.get "entity_type"
          entityId := scope.get "entity_id" }
      pure (NodeResult.done
        [("sent", .bool true), ("title", .text title), ("notification_id", row.get "id")])
    made.onNotificationFault fun f =>
      pure (.failed (.failure (.notification f))
        (some [("sent", .bool false), ("title", .text title)]))

end CrmAutomation.Node
