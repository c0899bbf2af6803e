import Parley.Error
import Parley.Json.Decoder

/-!
# Guilds and their members
-/

namespace Parley

open Calendar (Instant)

inductive GuildStatus where
  | active | disbanded
  deriving DecidableEq, Repr

instance : Named GuildStatus where
  all := [.active, .disbanded]
  name
    | .active => "active"
    | .disbanded => "disbanded"

structure Guild where
  id : Uuid
  name : String
  tag : String
  leaderId : Uuid
  level : Int
  experience : Int
  maxMembers : Int
  status : GuildStatus
  createdAt : Instant
  updatedAt : Instant
  deriving DecidableEq, Repr

namespace Guild

/-- A guild as it is founded: active, of level one, with room for fifty members. -/
def found (id : Uuid) (now : Instant) (name tag : String) (leaderId : Uuid) : Guild where
  id
  name
  tag
  leaderId
  level := 1
  experience := 0
  maxMembers := 50
  status := .active
  createdAt := now
  updatedAt := now

/-- The error for a guild that is not there. -/
def missing (id : Uuid) : Error := .notFound ("guild " ++ toString id)

def ofJson? (value : Json) : Option Guild := do
  let fields ← Json.Fields.ofJson? ["id", "name", "tag", "leader_id", "level", "experience",
    "max_members", "status", "created_at", "updated_at"] value
  pure {
    id := ← fields.required "id" Json.uuid?
    name := ← fields.required "name" Json.string?
    tag := ← fields.required "tag" Json.string?
    leaderId := ← fields.required "leader_id" Json.uuid?
    level := ← fields.required "level" Json.int32?
    experience := ← fields.required "experience" Json.int64?
    maxMembers := ← fields.required "max_members" Json.int32?
    status := ← fields.required "status" Named.ofJson?
    createdAt := ← fields.required "created_at" Json.instant?
    updatedAt := ← fields.required "updated_at" Json.instant? }

def toJson (guild : Guild) : Json :=
  .object [("id", Json.ofUuid guild.id), ("name", .string guild.name), ("tag", .string guild.tag),
    ("leader_id", Json.ofUuid guild.leaderId), ("level", Json.ofInt guild.level),
    ("experience", Json.ofInt guild.experience), ("max_members", Json.ofInt guild.maxMembers),
    ("status", Named.toJson guild.status), ("created_at", Json.ofInstant guild.createdAt),
    ("updated_at", Json.ofInstant guild.updatedAt)]

end Guild

structure GuildMember where
  guildId : Uuid
  characterId : Uuid
  rank : String
  joinedAt : Instant
  deriving DecidableEq, Repr

namespace GuildMember

def ofJson? (value : Json) : Option GuildMember := do
  let fields ← Json.Fields.ofJson? ["guild_id", "character_id", "rank", "joined_at"] value
  pure {
    guildId := ← fields.required "guild_id" Json.uuid?
    characterId := ← fields.required "character_id" Json.uuid?
    rank := ← fields.required "rank" Json.string?
    joinedAt := ← fields.required "joined_at" Json.instant? }

def toJson (member : GuildMember) : Json :=
  .object [("guild_id", Json.ofUuid member.guildId),
    ("character_id", Json.ofUuid member.characterId), ("rank", .string member.rank),
    ("joined_at", Json.ofInstant member.joinedAt)]

end GuildMember

end Parley
