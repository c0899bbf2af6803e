import Parley.Json.Decoder

/-!
# Reports

A report starts as pending and is decided once, as resolved or rejected. The decision notes who
took it and when.
-/

namespace Parley

open Calendar (Instant)

inductive ReportStatus where
  | pending | resolved | rejected
  deriving DecidableEq, Repr

namespace ReportStatus

instance : Named ReportStatus where
  all := [.pending, .resolved, .rejected]
  name
    | .pending => "pending"
    | .resolved => "resolved"
    | .rejected => "rejected"

/-- Whether the report is decided. -/
def isTerminal (status : ReportStatus) : Bool := status != .pending

end ReportStatus

structure Report where
  id : Uuid
  reporterId : Uuid
  reportedId : Uuid
  messageId : Option Uuid
  channelId : Option Uuid
  reason : String
  status : ReportStatus
  adminId : Option Uuid
  createdAt : Instant
  resolvedAt : Option Instant
  deriving DecidableEq, Repr

namespace Report

def ofJson? (value : Json) : Option Report := do
  let fields ← Json.Fields.ofJson? ["id", "reporter_id", "reported_id", "message_id",
    "channel_id", "reason", "status", "admin_id", "created_at", "resolved_at"] value
  pure {
    id := ← fields.required "id" Json.uuid?
    reporterId := ← fields.required "reporter_id" Json.uuid?
    reportedId := ← fields.required "reported_id" Json.uuid?
    messageId := ← fields.optional "message_id" Json.uuid?
    channelId := ← fields.optional "channel_id" Json.uuid?
    reason := ← fields.required "reason" Json.string?
    status := ← fields.required "status" Named.ofJson?
    adminId := ← fields.optional "admin_id" Json.uuid?
    createdAt := ← fields.required "created_at" Json.instant?
    resolvedAt := ← fields.optional "resolved_at" Json.instant? }

def toJson (report : Report) : Json :=
  .object [("id", Json.ofUuid report.id), ("reporter_id", Json.ofUuid report.reporterId),
    ("reported_id", Json.ofUuid report.reportedId),
    ("message_id", Json.ofOption Json.ofUuid report.messageId),
    ("channel_id", Json.ofOption Json.ofUuid report.channelId),
    ("reason", .string report.reason), ("status", Named.toJson report.status),
    ("admin_id", Json.ofOption Json.ofUuid report.adminId),
    ("created_at", Json.ofInstant report.createdAt),
    ("resolved_at", Json.ofOption Json.ofInstant report.resolvedAt)]

end Report

structure ReportRequest where
  reportedId : Uuid
  messageId : Option Uuid
  channelId : Option Uuid
  reason : String
  deriving DecidableEq, Repr

namespace ReportRequest

def ofJson? (value : Json) : Option ReportRequest := do
  let fields ← Json.Fields.ofJson? ["reported_id", "message_id", "channel_id", "reason"] value
  pure {
    reportedId := ← fields.required "reported_id" Json.uuid?
    messageId := ← fields.optional "message_id" Json.uuid?
    channelId := ← fields.optional "channel_id" Json.uuid?
    reason := ← fields.required "reason" Json.string? }

def toJson (request : ReportRequest) : Json :=
  .object [("reported_id", Json.ofUuid request.reportedId),
    ("message_id", Json.ofOption Json.ofUuid request.messageId),
    ("channel_id", Json.ofOption Json.ofUuid request.channelId),
    ("reason", .string request.reason)]

end ReportRequest

end Parley
