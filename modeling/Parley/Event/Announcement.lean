import Parley.Event.Payload
import Parley.Moderation.Ban
import Parley.Moderation.Report
import Parley.Notice.Notification

/-!
# Announcements

What the system itself makes known on the bus. Each announcement has a topic and a flat payload;
absent fields are left out. A pushed notification carries the fields of the event behind it as
far as their names are free.
-/

namespace Parley

open Calendar (Instant)

/-- The topic of an event, from the part after the common beginning. -/
def topicFor (suffix : String) : String := "events:" ++ suffix

inductive Announcement where
  | banCreated (ban : Ban) (time : Instant)
  | banRemoved (ban : Ban) (time : Instant)
  | spamBan (ban : Ban) (time : Instant)
  | severeBan (ban : Ban) (time : Instant)
  | reportCreated (report : Report) (time : Instant)
  | reportResolved (report : Report) (time : Instant)
  | guildLeveledUp (guildId : Uuid) (oldLevel newLevel experience : Int) (time : Instant)
  | noticePushed (notice : Notification) (data : Json.Members)

namespace Announcement

def suffix : Announcement → String
  | banCreated .. => "chat:ban:created"
  | banRemoved .. => "chat:ban:removed"
  | spamBan .. => "chat:ban:auto:spam"
  | severeBan .. => "chat:ban:auto:severe"
  | reportCreated .. => "chat:report:created"
  | reportResolved .. => "chat:report:resolved"
  | guildLeveledUp .. => "guild:leveled-up"
  | noticePushed notice _ => "notification:websocket:" ++ toString notice.accountId

def topic (a : Announcement) : String := topicFor a.suffix

/-- The whole second of an instant. -/
def stamp (payload : Payload) (time : Instant) : Payload :=
  payload.insert "timestamp" (Json.ofInt time.seconds)

def banPayload (ban : Ban) (time : Instant) : Payload :=
  let payload := Payload.empty
    |>.insertText "ban_id" (toString ban.id)
    |>.insertText "character_id" (toString ban.characterId)
    |>.insertText "reason" ban.reason
    |>.insertSome "channel_id" (ban.channelId.map toString)
    |>.insertSome "admin_id" (ban.adminId.map toString)
    |>.insertSome "expires_at" (ban.expiresAt.map Instant.offsetText)
  stamp payload time

def payload : Announcement → Payload
  | banCreated ban time | banRemoved ban time | spamBan ban time | severeBan ban time =>
    banPayload ban time
  | reportCreated report time =>
    let payload := Payload.empty
      |>.insertText "report_id" (toString report.id)
      |>.insertText "reporter_id" (toString report.reporterId)
      |>.insertText "reported_id" (toString report.reportedId)
      |>.insertText "reason" report.reason
      |>.insertSome "message_id" (report.messageId.map toString)
      |>.insertSome "channel_id" (report.channelId.map toString)
    stamp payload time
  | reportResolved report time =>
    let payload := Payload.empty
      |>.insertText "report_id" (toString report.id)
      |>.insertSome "admin_id" (report.adminId.map toString)
      |>.insertText "status" (Named.name report.status)
    stamp payload time
  | guildLeveledUp guildId oldLevel newLevel experience time =>
    let payload := Payload.empty
      |>.insertText "guild_id" (toString guildId)
      |>.insert "old_level" (Json.ofInt oldLevel)
      |>.insert "new_level" (Json.ofInt newLevel)
      |>.insert "experience" (Json.ofInt experience)
    stamp payload time
  | noticePushed notice data =>
    let own := Payload.empty
      |>.insertText "notification_id" (toString notice.id)
      |>.insertText "account_id" (toString notice.accountId)
      |>.insertText "type" (Named.name notice.kind)
      |>.insertText "priority" (Named.name notice.priority)
      |>.insertText "title" notice.title
      |>.insertText "content" notice.content
      |>.insertText "status" (Named.name notice.status)
      |>.insertText "created_at" notice.createdAt.offsetText
    ⟨own.members.addMissing data⟩

end Announcement

end Parley
