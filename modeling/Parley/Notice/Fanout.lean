import Parley.Listener.Handler
import Parley.Notice.Inbox

/-!
# From events to notifications

An event that names an account, or else a character, becomes a notification of that account,
unless its preferences switch the kind off. The event may give priority, title and content. When
the notification is delivered over the socket it is also pushed at once.
-/

namespace Parley.Fanout

def patterns : List String :=
  ["events:friend:*", "events:guild:*", "events:trade:*", "events:achievement:*",
    "events:quest:*", "events:combat:*"]

/-- The account that an event is for. -/
def account? (payload : Payload) : Except Error (Option Uuid) := do
  match ← payload.uuid? "account_id" with
  | some id => pure (some id)
  | none => payload.uuid? "character_id"

/-- The fields that may hold the content, the best first. -/
def contentFields : List String := ["content", "message", "description"]

/-- The first of the fields that is not blank, or nothing. -/
def content (payload : Payload) : List String → Except Error String
  | [] => pure ""
  | field :: rest => do
    match ← payload.visibleText? field with
    | some text => pure text
    | none => content payload rest

/-- What the event asks for, under the preferences of the account. -/
def requestFor (topic : String) (payload : Payload) (account : Uuid) (prefs : Preferences) :
    Except Error NotificationRequest := do
  let kind := NoticeKind.ofTopic topic
  let priority := ((← payload.text? "priority").bind Priority.parse?).getD default
  let title := (← payload.visibleText? "title").getD kind.defaultTitle
  let content ← content payload contentFields
  pure {
    kind, priority, title, content
    accountId := account
    data := payload.members
    channels := prefs.resolveChannels priority
    expiresAt := none }

def handle (topic : String) (payload : Payload) : Action Handled := do
  match ← Action.ofAnswer (account? payload) with
  | none => pure .skipped
  | some account =>
    let prefs ← Inbox.preferences account
    if !prefs.allows (NoticeKind.ofTopic topic) then pure .skipped
    else
      let request ← Action.ofAnswer (requestFor topic payload account prefs)
      let notice ← Inbox.create request
      if request.channels.contains .webSocket then
        announce (.noticePushed notice payload.members)
      pure .processed

def handler : Handler where
  name := "notification"
  patterns
  handle

end Parley.Fanout
