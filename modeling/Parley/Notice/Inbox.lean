import Parley.Moderation.Rules

/-!
# The inbox

Notifications are created, listed while they have not expired, and marked as read. Preferences
that were never set have their initial value, which is not stored.
-/

namespace Parley.Inbox

namespace Complaint

def title : Error := .validation "notification title is required"

def noticeMissing (id : Uuid) : Error := .notFound ("notification " ++ toString id)

def alreadyRead (id : Uuid) : Error :=
  .invalidState ("notification " ++ toString id ++ " is already read")

end Complaint

def create (request : NotificationRequest) : Action Notification := do
  if Text.allBlank request.title.toList then Action.fail Complaint.title
  let id ← Action.freshId
  Action.createNotice (Notification.ofRequest id (← Action.now) request)

/-- A page, the number of all notifications that have not expired, and of the unread ones. -/
def list (account : Uuid) (limit offset : Int) : Action (List Notification × Nat × Nat) := do
  Action.listNotices account (clampLimit limit) (clampOffset offset) (← Action.now)

def get (id : Uuid) : Action Notification := do
  match ← Action.findNotice id with
  | some notice => pure notice
  | none => Action.fail (Complaint.noticeMissing id)

/-- Marks a notification. What is read stays read. -/
def mark (id : Uuid) (status : NoticeStatus) : Action Notification := do
  let current ← get id
  if current.status = .read ∧ status = .unread then Action.fail (Complaint.alreadyRead id)
  match ← Action.setNoticeStatus id status with
  | some notice => pure notice
  | none => Action.fail (Complaint.noticeMissing id)

def preferences (account : Uuid) : Action Preferences := do
  match ← Action.findPreferences account with
  | some prefs => pure prefs
  | none => pure (Preferences.initial account (← Action.now))

/-- Stores preferences with each channel at its first place only. -/
def updatePreferences (prefs : Preferences) : Action Preferences := do
  Action.savePreferences { prefs with
    preferredChannels := Preferences.withoutRepetition prefs.preferredChannels
    updatedAt := ← Action.now }

end Parley.Inbox
