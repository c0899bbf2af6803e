import Parley.Moderation.Rules

/-!
# Administration of bans and reports

Every successful change is announced. A report is decided once; who comes later learns how it was
decided.
-/

namespace Parley.Moderation

open Calendar (Instant)

namespace Complaint

def banReason : Error := .validation "ban reason is required"

def halfScope : Error := .validation "channel_id and channel_type must be given together"

def banMissing (id : Uuid) : Error := .notFound ("ban " ++ toString id)

def reportReason : Error := .validation "report reason is required"

def notADecision (status : ReportStatus) : Error :=
  .validation ("report can only be resolved or rejected, got `" ++ Named.name status ++ "`")

def reportMissing (id : Uuid) : Error := .notFound ("report " ++ toString id)

def alreadyDecided (id : Uuid) (status : ReportStatus) : Error :=
  .invalidState ("report " ++ toString id ++ " is already " ++ Named.name status)

end Complaint

def isBlank (text : String) : Bool := Text.allBlank text.toList

/-- The ban in force for an actor in exactly this channel, or everywhere. -/
def checkBan (actor : Uuid) (channelId : Option Uuid) : Action (Option Ban) := do
  Action.findActiveBan actor channelId (← Action.now)

def createBan (admin : Uuid) (request : BanRequest) : Action Ban := do
  if isBlank request.reason then Action.fail Complaint.banReason
  if request.channelId.isSome != request.channelType.isSome then Action.fail Complaint.halfScope
  let ban ← draftBan request.characterId request.channelId request.channelType request.reason
    (some admin) (request.durationHours.filter (0 < ·))
  let ban ← Action.createBan ban
  announce (.banCreated ban (← Action.now))
  pure ban

def removeBan (id : Uuid) : Action Ban := do
  match ← Action.deactivateBan id with
  | none => Action.fail (Complaint.banMissing id)
  | some ban =>
    announce (.banRemoved ban (← Action.now))
    pure ban

def listBans (character : Option Uuid) (limit offset : Int) : Action (List Ban × Nat) :=
  Action.listBans character (clampLimit limit) (clampOffset offset)

def createReport (reporter : Uuid) (request : ReportRequest) : Action Report := do
  if isBlank request.reason then Action.fail Complaint.reportReason
  let id ← Action.freshId
  let createdAt ← Action.now
  let report ← Action.createReport {
    id, createdAt
    reporterId := reporter
    reportedId := request.reportedId
    messageId := request.messageId
    channelId := request.channelId
    reason := request.reason
    status := .pending
    adminId := none
    resolvedAt := none }
  announce (.reportCreated report (← Action.now))
  pure report

def listReports (status : Option ReportStatus) (limit offset : Int) :
    Action (List Report × Nat) :=
  Action.listReports status (clampLimit limit) (clampOffset offset)

/-- Decides a report that is pending. -/
def resolveReport (id admin : Uuid) (status : ReportStatus) : Action Report := do
  if !status.isTerminal then Action.fail (Complaint.notADecision status)
  match ← Action.resolveReport id status admin (← Action.now) with
  | some report =>
    announce (.reportResolved report (← Action.now))
    pure report
  | none =>
    match ← Action.findReport id with
    | none => Action.fail (Complaint.reportMissing id)
    | some report => Action.fail (Complaint.alreadyDecided id report.status)

end Parley.Moderation
