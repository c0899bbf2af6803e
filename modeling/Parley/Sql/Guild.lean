import Parley.Guild.Basic
import Parley.Sql.Basic

/-!
# The tables of guilds and their members

A status that is not known reads as active.
-/

namespace Parley.Sql.Guilds

def columns : String :=
  "g.id, g.name, g.tag, g.leader_id, g.level, g.experience, g.max_members, g.status, " ++
  "g.created_at, g.updated_at"

def ofRow? (row : Row) : Option Guild := do
  pure {
    id := ← row.value "id" Json.uuid?
    name := ← row.value "name" Json.string?
    tag := ← row.value "tag" Json.string?
    leaderId := ← row.value "leader_id" Json.uuid?
    level := ← row.value "level" Json.int32?
    experience := ← row.value "experience" Json.int64?
    maxMembers := ← row.value "max_members" Json.int32?
    status := (Named.ofName? (← row.value "status" Json.string?)).getD .active
    createdAt := ← row.value "created_at" instant?
    updatedAt := ← row.value "updated_at" instant? }

def memberOfRow? (row : Row) : Option GuildMember := do
  pure {
    guildId := ← row.value "guild_id" Json.uuid?
    characterId := ← row.value "character_id" Json.uuid?
    rank := ← row.value "rank" Json.string?
    joinedAt := ← row.value "joined_at" instant? }

def find (id : Uuid) : Exchange (Option Guild) :=
  fetchOptional
    ⟨"SELECT " ++ columns ++ " FROM social_guilds g WHERE g.id = $1", [Json.ofUuid id], false⟩
    "Failed to query guild" ofRow?

def listActive (limit offset : Int) : Exchange (List Guild) :=
  fetchAll {
      text := "SELECT " ++ columns ++ " FROM social_guilds g WHERE g.status = 'active' " ++
        "ORDER BY g.created_at, g.id LIMIT $1 OFFSET $2"
      parameters := [Json.ofInt limit, Json.ofInt offset] }
    "Failed to list guilds" ofRow?

def findMember (guild character : Uuid) : Exchange (Option GuildMember) :=
  fetchOptional {
      text := "SELECT guild_id, character_id, rank, joined_at FROM social_guild_members " ++
        "WHERE guild_id = $1 AND character_id = $2"
      parameters := [Json.ofUuid guild, Json.ofUuid character] }
    "Failed to query guild member" memberOfRow?

def setLevel (guild : Uuid) (level experience : Int) : Exchange Unit := do
  let affected ← execute {
      text := "UPDATE social_guilds SET level = $2, experience = $3, updated_at = NOW() " ++
        "WHERE id = $1"
      parameters := [Json.ofUuid guild, Json.ofInt level, Json.ofInt experience] }
    "Failed to update guild level"
  if affected = 0 then throw (Guild.missing guild)

/-- An active guild that a character belongs to. -/
def findOfMember (character : Uuid) : Exchange (Option Guild) :=
  fetchOptional {
      text := "SELECT " ++ columns ++ " FROM social_guilds g " ++
        "JOIN social_guild_members m ON m.guild_id = g.id " ++
        "WHERE m.character_id = $1 AND g.status = 'active' LIMIT 1"
      parameters := [Json.ofUuid character] }
    "Failed to find guild by member" ofRow?

end Parley.Sql.Guilds
