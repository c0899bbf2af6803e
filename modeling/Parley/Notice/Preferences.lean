import Parley.Notice.Kind

/-!
# Notification preferences

Each account may switch kinds of notifications off and order the channels it prefers. Delivery
in the game always comes first, and an urgent notification is pushed in any case.
-/

namespace Parley

open Calendar (Instant)

structure Preferences where
  accountId : Uuid
  friendEnabled : Bool
  guildEnabled : Bool
  tradeEnabled : Bool
  achievementEnabled : Bool
  questEnabled : Bool
  combatEnabled : Bool
  messageEnabled : Bool
  systemEnabled : Bool
  preferredChannels : List Delivery
  updatedAt : Instant
  deriving DecidableEq, Repr

namespace Preferences

/-- What holds for an account that never chose: every kind, delivered in the game. -/
def initial (accountId : Uuid) (now : Instant) : Preferences where
  accountId
  friendEnabled := true
  guildEnabled := true
  tradeEnabled := true
  achievementEnabled := true
  questEnabled := true
  combatEnabled := true
  messageEnabled := true
  systemEnabled := true
  preferredChannels := [.inGame]
  updatedAt := now

def allows (prefs : Preferences) : NoticeKind → Bool
  | .friend => prefs.friendEnabled
  | .guild => prefs.guildEnabled
  | .trade => prefs.tradeEnabled
  | .achievement => prefs.achievementEnabled
  | .quest => prefs.questEnabled
  | .combat => prefs.combatEnabled
  | .message => prefs.messageEnabled
  | .system => prefs.systemEnabled

/-- Appends a channel that is not there yet. -/
def addChannel (channels : List Delivery) (channel : Delivery) : List Delivery :=
  if channels.contains channel then channels else channels ++ [channel]

/-- The channels for a notification of a priority. -/
def resolveChannels (prefs : Preferences) (priority : Priority) : List Delivery :=
  let channels := prefs.preferredChannels.foldl addChannel [.inGame]
  if priority.isUrgent then addChannel channels .webSocket else channels

/-- Each channel kept at its first place only. -/
def withoutRepetition : List Delivery → List Delivery
  | [] => []
  | channel :: rest => channel :: (withoutRepetition rest).filter (· != channel)

def ofJson? (value : Json) : Option Preferences := do
  let fields ← Json.Fields.ofJson? ["account_id", "friend_enabled", "guild_enabled",
    "trade_enabled", "achievement_enabled", "quest_enabled", "combat_enabled", "message_enabled",
    "system_enabled", "preferred_channels", "updated_at"] value
  pure {
    accountId := ← fields.required "account_id" Json.uuid?
    friendEnabled := ← fields.required "friend_enabled" Json.bool?
    guildEnabled := ← fields.required "guild_enabled" Json.bool?
    tradeEnabled := ← fields.required "trade_enabled" Json.bool?
    achievementEnabled := ← fields.required "achievement_enabled" Json.bool?
    questEnabled := ← fields.required "quest_enabled" Json.bool?
    combatEnabled := ← fields.required "combat_enabled" Json.bool?
    messageEnabled := ← fields.required "message_enabled" Json.bool?
    systemEnabled := ← fields.required "system_enabled" Json.bool?
    preferredChannels := ← fields.required "preferred_channels" (Json.list? Named.ofJson?)
    updatedAt := ← fields.required "updated_at" Json.instant? }

def toJson (prefs : Preferences) : Json :=
  .object [("account_id", Json.ofUuid prefs.accountId),
    ("friend_enabled", .bool prefs.friendEnabled), ("guild_enabled", .bool prefs.guildEnabled),
    ("trade_enabled", .bool prefs.tradeEnabled),
    ("achievement_enabled", .bool prefs.achievementEnabled),
    ("quest_enabled", .bool prefs.questEnabled), ("combat_enabled", .bool prefs.combatEnabled),
    ("message_enabled", .bool prefs.messageEnabled),
    ("system_enabled", .bool prefs.systemEnabled),
    ("preferred_channels", Json.ofList Named.toJson prefs.preferredChannels),
    ("updated_at", Json.ofInstant prefs.updatedAt)]

end Preferences

end Parley
