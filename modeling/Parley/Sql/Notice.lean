import Parley.Notice.Notification
import Parley.Sql.Basic

/-!
# The table of notifications

A kind, priority or status that is not known is an error, found after everything has been read.
A channel that is not known is left out, and data that are no object count as empty.
-/

namespace Parley.Sql.Notices

open Calendar (Instant)

/-- The columns as they are called in the table. -/
def stored : String :=
  "id, account_id, type, priority, title, content, data, status, channels, created_at, expires_at"

/-- The columns as they are read. -/
def columns : String :=
  "id, account_id, type AS kind, priority, title, content, data, status, channels, created_at, " ++
  "expires_at"

/-- A row whose names are checked later. -/
structure Draft where
  id : Uuid
  accountId : Uuid
  kind : String
  priority : String
  title : String
  content : String
  data : Json
  status : String
  channels : List Delivery
  createdAt : Instant
  expiresAt : Option Instant

def ofRow? (row : Row) : Option Draft := do
  pure {
    id := ← row.value "id" Json.uuid?
    accountId := ← row.value "account_id" Json.uuid?
    kind := ← row.value "kind" Json.string?
    priority := ← row.value "priority" Json.string?
    title := ← row.value "title" Json.string?
    content := ← row.value "content" Json.string?
    data := ← row.value "data" some
    status := ← row.value "status" Json.string?
    channels := ← row.value "channels" names?
    createdAt := ← row.value "created_at" instant?
    expiresAt := ← row.nullable "expires_at" instant? }

/-- A value that was read from a name. -/
def known {α : Type} (draft : Draft) (field name : String) : Option α → Exchange α :=
  expect ("unknown notification " ++ field ++ " `" ++ name ++ "` for " ++ toString draft.id)

def complete (draft : Draft) : Exchange Notification := do
  let kind ← known draft "type" draft.kind (Named.ofName? draft.kind)
  let priority ← known draft "priority" draft.priority (Priority.parse? draft.priority)
  let status ← known draft "status" draft.status (Named.ofName? draft.status)
  pure {
    id := draft.id
    accountId := draft.accountId
    kind, priority, status
    title := draft.title
    content := draft.content
    data := (Json.object? draft.data).getD []
    channels := draft.channels
    createdAt := draft.createdAt
    expiresAt := draft.expiresAt }

def create (notice : Notification) : Exchange Notification := do
  let _ ← execute {
      text := "INSERT INTO social_notifications (" ++ stored ++
        ") VALUES ($1, $2, $3, $4, $5, $6, $7, $8, $9, $10, $11)"
      parameters := [Json.ofUuid notice.id, Json.ofUuid notice.accountId,
        Named.toJson notice.kind, Named.toJson notice.priority, .string notice.title,
        .string notice.content, .object notice.data, Named.toJson notice.status,
        Json.ofList Named.toJson notice.channels, ofInstant notice.createdAt,
        Json.ofOption ofInstant notice.expiresAt] }
    "Failed to insert notification"
  pure notice

def find (id : Uuid) : Exchange (Option Notification) := do
  let found ← fetchOptional
    ⟨"SELECT " ++ columns ++ " FROM social_notifications WHERE id = $1", [Json.ofUuid id], false⟩
    "Failed to query notification" ofRow?
  found.mapM complete

def list (account : Uuid) (limit offset : Int) (now : Instant) :
    Exchange (List Notification × Nat × Nat) := do
  let chosen := "FROM social_notifications WHERE account_id = $1 " ++
    "AND (expires_at IS NULL OR expires_at > $2)"
  let found ← fetchAll {
      text := "SELECT " ++ columns ++ " " ++ chosen ++
        " ORDER BY created_at DESC LIMIT $3 OFFSET $4"
      parameters := [Json.ofUuid account, ofInstant now, Json.ofInt limit, Json.ofInt offset] }
    "Failed to list notifications" ofRow?
  let (total, unread) ← fetchOne {
      text := "SELECT COUNT(*), COUNT(*) FILTER (WHERE status = 'unread') " ++ chosen
      parameters := [Json.ofUuid account, ofInstant now] }
    "Failed to count notifications" fun row => do pure (← Row.count row 0, ← Row.count row 1)
  pure (← found.mapM complete, total, unread)

def setStatus (id : Uuid) (status : NoticeStatus) : Exchange (Option Notification) := do
  let found ← fetchOptional {
      text := "UPDATE social_notifications SET status = $2 WHERE id = $1 RETURNING " ++ columns
      parameters := [Json.ofUuid id, Named.toJson status] }
    "Failed to update notification" ofRow?
  found.mapM complete

end Parley.Sql.Notices
