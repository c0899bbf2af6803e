import Parley.Notice.Kind

/-!
# Notifications

A notification belongs to an account. It starts unread and may become read, never the other way.
After its expiry it is no longer listed.
-/

namespace Parley

open Calendar (Instant)

structure Notification where
  id : Uuid
  accountId : Uuid
  kind : NoticeKind
  priority : Priority
  title : String
  content : String
  data : Json.Members
  status : NoticeStatus
  channels : List Delivery
  createdAt : Instant
  expiresAt : Option Instant
  deriving Repr

structure NotificationRequest where
  accountId : Uuid
  kind : NoticeKind
  priority : Priority
  title : String
  content : String
  data : Json.Members
  channels : List Delivery
  expiresAt : Option Instant
  deriving Repr

namespace Notification

/-- The notification of a request. One without channels is delivered in the game. -/
def ofRequest (id : Uuid) (now : Instant) (request : NotificationRequest) : Notification where
  id
  accountId := request.accountId
  kind := request.kind
  priority := request.priority
  title := request.title
  content := request.content
  data := request.data
  status := .unread
  channels := if request.channels.isEmpty then [.inGame] else request.channels
  createdAt := now
  expiresAt := request.expiresAt

def expiredAt (notice : Notification) (now : Instant) : Bool :=
  (notice.expiresAt.map fun t => decide (t ≤ now)).getD false

def ofJson? (value : Json) : Option Notification := do
  let fields ← Json.Fields.ofJson? ["id", "account_id", "type", "priority", "title", "content",
    "data", "status", "channels", "created_at", "expires_at"] value
  pure {
    id := ← fields.required "id" Json.uuid?
    accountId := ← fields.required "account_id" Json.uuid?
    kind := ← fields.required "type" Named.ofJson?
    priority := ← fields.required "priority" Named.ofJson?
    title := ← fields.required "title" Json.string?
    content := ← fields.required "content" Json.string?
    data := ← fields.required "data" Json.object?
    status := ← fields.required "status" Named.ofJson?
    channels := ← fields.required "channels" (Json.list? Named.ofJson?)
    createdAt := ← fields.required "created_at" Json.instant?
    expiresAt := ← fields.optional "expires_at" Json.instant? }

def toJson (notice : Notification) : Json :=
  .object [("id", Json.ofUuid notice.id), ("account_id", Json.ofUuid notice.accountId),
    ("type", Named.toJson notice.kind), ("priority", Named.toJson notice.priority),
    ("title", .string notice.title), ("content", .string notice.content),
    ("data", .object notice.data), ("status", Named.toJson notice.status),
    ("channels", Json.ofList Named.toJson notice.channels),
    ("created_at", Json.ofInstant notice.createdAt),
    ("expires_at", Json.ofOption Json.ofInstant notice.expiresAt)]

end Notification

namespace NotificationRequest

def ofJson? (value : Json) : Option NotificationRequest := do
  let fields ← Json.Fields.ofJson? ["account_id", "type", "priority", "title", "content", "data",
    "channels", "expires_at"] value
  pure {
    accountId := ← fields.required "account_id" Json.uuid?
    kind := ← fields.required "type" Named.ofJson?
    priority := ← fields.withDefault "priority" Named.ofJson? default
    title := ← fields.required "title" Json.string?
    content := ← fields.withDefault "content" Json.string? ""
    data := ← fields.withDefault "data" Json.object? []
    channels := ← fields.withDefault "channels" (Json.list? Named.ofJson?) []
    expiresAt := ← fields.optional "expires_at" Json.instant? }

def toJson (request : NotificationRequest) : Json :=
  .object [("account_id", Json.ofUuid request.accountId), ("type", Named.toJson request.kind),
    ("priority", Named.toJson request.priority), ("title", .string request.title),
    ("content", .string request.content), ("data", .object request.data),
    ("channels", Json.ofList Named.toJson request.channels),
    ("expires_at", Json.ofOption Json.ofInstant request.expiresAt)]

end NotificationRequest

end Parley
