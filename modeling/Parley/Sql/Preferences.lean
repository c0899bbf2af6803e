import Parley.Notice.Preferences
import Parley.Sql.Basic

/-!
# The table of notification preferences

There is one row for each account that has chosen. A channel that is not known is left out.
-/

namespace Parley.Sql.Preferences

def columns : String :=
  "account_id, friend_enabled, guild_enabled, trade_enabled, achievement_enabled, " ++
  "quest_enabled, combat_enabled, message_enabled, system_enabled, preferred_channels, updated_at"

def ofRow? (row : Row) : Option Parley.Preferences := do
  pure {
    accountId := ← row.value "account_id" Json.uuid?
    friendEnabled := ← row.value "friend_enabled" Json.bool?
    guildEnabled := ← row.value "guild_enabled" Json.bool?
    tradeEnabled := ← row.value "trade_enabled" Json.bool?
    achievementEnabled := ← row.value "achievement_enabled" Json.bool?
    questEnabled := ← row.value "quest_enabled" Json.bool?
    combatEnabled := ← row.value "combat_enabled" Json.bool?
    messageEnabled := ← row.value "message_enabled" Json.bool?
    systemEnabled := ← row.value "system_enabled" Json.bool?
    preferredChannels := ← row.value "preferred_channels" names?
    updatedAt := ← row.value "updated_at" instant? }

def find (account : Uuid) : Exchange (Option Parley.Preferences) :=
  fetchOptional {
      text := "SELECT " ++ columns ++
        " FROM social_notification_preferences WHERE account_id = $1"
      parameters := [Json.ofUuid account] }
    "Failed to query notification preferences" ofRow?

/-- Sets every column but the account to the value that was to be inserted. -/
def updates : String :=
  ", ".intercalate (((columns.splitOn ", ").drop 1).map fun column =>
    column ++ " = EXCLUDED." ++ column)

/-- Writes the row of an account, whether it is new or not. -/
def save (prefs : Parley.Preferences) : Exchange Parley.Preferences :=
  fetchOne {
      text := "INSERT INTO social_notification_preferences (" ++ columns ++
        ") VALUES ($1, $2, $3, $4, $5, $6, $7, $8, $9, $10, $11) " ++
        "ON CONFLICT (account_id) DO UPDATE SET " ++ updates ++ " RETURNING " ++ columns
      parameters := [Json.ofUuid prefs.accountId, .bool prefs.friendEnabled,
        .bool prefs.guildEnabled, .bool prefs.tradeEnabled, .bool prefs.achievementEnabled,
        .bool prefs.questEnabled, .bool prefs.combatEnabled, .bool prefs.messageEnabled,
        .bool prefs.systemEnabled, Json.ofList Named.toJson prefs.preferredChannels,
        ofInstant prefs.updatedAt] }
    "Failed to upsert notification preferences" ofRow?

end Parley.Sql.Preferences
