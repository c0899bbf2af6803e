import Parley.Moderation.Ban
import Parley.Sql.Basic

/-!
# The table of bans

A channel type that is not known reads as none.
-/

namespace Parley.Sql.Bans

open Calendar (Instant)

def columns : String :=
  "id, character_id, channel_id, channel_type, reason, admin_id, expires_at, created_at, is_active"

def ofRow? (row : Row) : Option Ban := do
  pure {
    id := ← row.value "id" Json.uuid?
    characterId := ← row.value "character_id" Json.uuid?
    channelId := ← row.nullable "channel_id" Json.uuid?
    channelType := (← row.nullable "channel_type" Json.string?).bind ChannelType.parse?
    reason := ← row.value "reason" Json.string?
    adminId := ← row.nullable "admin_id" Json.uuid?
    expiresAt := ← row.nullable "expires_at" instant?
    createdAt := ← row.value "created_at" instant?
    isActive := ← row.value "is_active" Json.bool? }

def create (ban : Ban) : Exchange Ban := do
  let _ ← execute {
      text := "INSERT INTO social_chat_bans (" ++ columns ++
        ") VALUES ($1, $2, $3, $4, $5, $6, $7, $8, $9)"
      parameters := [Json.ofUuid ban.id, Json.ofUuid ban.characterId,
        Json.ofOption Json.ofUuid ban.channelId, Json.ofOption Named.toJson ban.channelType,
        .string ban.reason, Json.ofOption Json.ofUuid ban.adminId,
        Json.ofOption ofInstant ban.expiresAt, ofInstant ban.createdAt, .bool ban.isActive] }
    "Failed to insert ban"
  pure ban

def find (id : Uuid) : Exchange (Option Ban) :=
  fetchOptional ⟨"SELECT " ++ columns ++ " FROM social_chat_bans WHERE id = $1",
    [Json.ofUuid id], false⟩ "Failed to query ban" ofRow?

def findActive (character : Uuid) (channel : Option Uuid) (now : Instant) :
    Exchange (Option Ban) :=
  fetchOptional {
      text := "SELECT " ++ columns ++ " FROM social_chat_bans WHERE character_id = $1 " ++
        "AND channel_id IS NOT DISTINCT FROM $2 AND is_active = TRUE " ++
        "AND (expires_at IS NULL OR expires_at > $3) ORDER BY created_at DESC LIMIT 1"
      parameters := [Json.ofUuid character, Json.ofOption Json.ofUuid channel, ofInstant now] }
    "Failed to query active ban" ofRow?

def deactivate (id : Uuid) : Exchange (Option Ban) :=
  fetchOptional {
      text := "UPDATE social_chat_bans SET is_active = FALSE WHERE id = $1 RETURNING " ++ columns
      parameters := [Json.ofUuid id] }
    "Failed to deactivate ban" ofRow?

def list (character : Option Uuid) (limit offset : Int) : Exchange (List Ban × Nat) := do
  let chosen := "FROM social_chat_bans WHERE ($1::uuid IS NULL OR character_id = $1)"
  let character := Json.ofOption Json.ofUuid character
  let bans ← fetchAll {
      text := "SELECT " ++ columns ++ " " ++ chosen ++
        " ORDER BY created_at DESC LIMIT $2 OFFSET $3"
      parameters := [character, Json.ofInt limit, Json.ofInt offset] }
    "Failed to list bans" ofRow?
  let total ← fetchOne ⟨"SELECT COUNT(*) " ++ chosen, [character], false⟩ "Failed to count bans"
    (Row.count · 0)
  pure (bans, total)

end Parley.Sql.Bans
