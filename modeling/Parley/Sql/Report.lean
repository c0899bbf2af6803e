import Parley.Moderation.Report
import Parley.Sql.Basic

/-!
# The table of reports

A status that is not known is an error, found after everything has been read.
-/

namespace Parley.Sql.Reports

open Calendar (Instant)

def columns : String :=
  "id, reporter_id, reported_id, message_id, channel_id, reason, status, admin_id, created_at, " ++
  "resolved_at"

/-- A report with the name of its status, which is checked later. -/
abbrev Draft := String × (ReportStatus → Report)

def ofRow? (row : Row) : Option Draft := do
  let id ← row.value "id" Json.uuid?
  let reporterId ← row.value "reporter_id" Json.uuid?
  let reportedId ← row.value "reported_id" Json.uuid?
  let messageId ← row.nullable "message_id" Json.uuid?
  let channelId ← row.nullable "channel_id" Json.uuid?
  let reason ← row.value "reason" Json.string?
  let adminId ← row.nullable "admin_id" Json.uuid?
  let createdAt ← row.value "created_at" instant?
  let resolvedAt ← row.nullable "resolved_at" instant?
  pure (← row.value "status" Json.string?, fun status =>
    { id, reporterId, reportedId, messageId, channelId, reason, status, adminId, createdAt,
      resolvedAt })

def complete (draft : Draft) : Exchange Report :=
  match Named.ofName? draft.1 with
  | some status => pure (draft.2 status)
  | none => throw (.database ("unknown report status `" ++ draft.1 ++ "` for " ++
      toString (draft.2 .pending).id))

def create (report : Report) : Exchange Report := do
  let _ ← execute {
      text := "INSERT INTO social_chat_reports (" ++ columns ++
        ") VALUES ($1, $2, $3, $4, $5, $6, $7, $8, $9, $10)"
      parameters := [Json.ofUuid report.id, Json.ofUuid report.reporterId,
        Json.ofUuid report.reportedId, Json.ofOption Json.ofUuid report.messageId,
        Json.ofOption Json.ofUuid report.channelId, .string report.reason,
        Named.toJson report.status, Json.ofOption Json.ofUuid report.adminId,
        ofInstant report.createdAt, Json.ofOption ofInstant report.resolvedAt] }
    "Failed to insert report"
  pure report

def find (id : Uuid) : Exchange (Option Report) := do
  let found ← fetchOptional
    ⟨"SELECT " ++ columns ++ " FROM social_chat_reports WHERE id = $1", [Json.ofUuid id], false⟩
    "Failed to query report" ofRow?
  found.mapM complete

def list (status : Option ReportStatus) (limit offset : Int) : Exchange (List Report × Nat) := do
  let chosen := "FROM social_chat_reports WHERE ($1::text IS NULL OR status = $1)"
  let status := Json.ofOption Named.toJson status
  let found ← fetchAll {
      text := "SELECT " ++ columns ++ " " ++ chosen ++
        " ORDER BY created_at DESC LIMIT $2 OFFSET $3"
      parameters := [status, Json.ofInt limit, Json.ofInt offset] }
    "Failed to list reports" ofRow?
  let total ← fetchOne ⟨"SELECT COUNT(*) " ++ chosen, [status], false⟩ "Failed to count reports"
    (Row.count · 0)
  pure (← found.mapM complete, total)

/-- Decides a report that is still pending. -/
def resolve (id : Uuid) (status : ReportStatus) (admin : Uuid) (time : Instant) :
    Exchange (Option Report) := do
  let found ← fetchOptional {
      text := "UPDATE social_chat_reports SET status = $2, admin_id = $3, resolved_at = $4 " ++
        "WHERE id = $1 AND status = 'pending' RETURNING " ++ columns
      parameters := [Json.ofUuid id, Named.toJson status, Json.ofUuid admin, ofInstant time] }
    "Failed to resolve report" ofRow?
  found.mapM complete

end Parley.Sql.Reports
