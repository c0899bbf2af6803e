import Parley.Json.Decoder
import Parley.Text.Letter.Case

/-!
# Kinds, priorities and channels of notifications

The kind of a notification follows from the topic of the event behind it: the first of a fixed
list of words that occurs anywhere in the topic decides.
-/

namespace Parley

inductive NoticeKind where
  | friend | guild | trade | achievement | quest | combat | message | system
  deriving DecidableEq, Repr

namespace NoticeKind

instance : Named NoticeKind where
  all := [.friend, .guild, .trade, .achievement, .quest, .combat, .message, .system]
  name
    | .friend => "friend"
    | .guild => "guild"
    | .trade => "trade"
    | .achievement => "achievement"
    | .quest => "quest"
    | .combat => "combat"
    | .message => "message"
    | .system => "system"

/-- The kinds that a topic can name, in the order in which they are looked for. -/
def topical : List NoticeKind := [.friend, .guild, .trade, .achievement, .quest, .combat]

/-- The kind of a topic; one that names none is of the system. -/
def ofTopic (topic : String) : NoticeKind :=
  (topical.find? fun kind => Text.contains (Named.name kind).toList topic.toList).getD .system

/-- The title of a notification whose event gives none. -/
def defaultTitle : NoticeKind → String
  | friend => "Friend Update"
  | guild => "Guild Update"
  | trade => "Trade Update"
  | achievement => "Achievement Unlocked"
  | quest => "Quest Update"
  | combat => "Combat Update"
  | message => "New Message"
  | system => "System Notification"

end NoticeKind

inductive Priority where
  | low | medium | high | critical
  deriving DecidableEq, Repr

namespace Priority

instance : Named Priority where
  all := [.low, .medium, .high, .critical]
  name
    | .low => "low"
    | .medium => "medium"
    | .high => "high"
    | .critical => "critical"

instance : Inhabited Priority := ⟨.medium⟩

/-- Reads a name in letters of any case. -/
def parse? (text : String) : Option Priority :=
  Named.ofName? (String.ofList (Letter.lowerAll text.toList))

/-- Whether the notification has to be pushed at once. -/
def isUrgent : Priority → Bool
  | low | medium => false
  | high | critical => true

end Priority

inductive NoticeStatus where
  | unread | read
  deriving DecidableEq, Repr

instance : Named NoticeStatus where
  all := [.unread, .read]
  name
    | .unread => "unread"
    | .read => "read"

/-- The ways in which a notification is delivered. -/
inductive Delivery where
  | inGame | webSocket | email
  deriving DecidableEq, Repr

instance : Named Delivery where
  all := [.inGame, .webSocket, .email]
  name
    | .inGame => "in_game"
    | .webSocket => "websocket"
    | .email => "email"

end Parley
