import Parley.Json.Decoder
import Parley.Text.Letter.Case

/-!
# Bans

A ban keeps a character from speaking in one channel, or everywhere the global ban applies. The
two do not imply each other. A ban is in force while it is active and before its expiry; lifting
a ban makes it inactive and keeps the record.
-/

namespace Parley

open Calendar (Instant)

inductive ChannelType where
  | global | local | guild | party | trade | whisper | system
  deriving DecidableEq, Repr

namespace ChannelType

instance : Named ChannelType where
  all := [.global, .local, .guild, .party, .trade, .whisper, .system]
  name
    | .global => "global"
    | .local => "local"
    | .guild => "guild"
    | .party => "party"
    | .trade => "trade"
    | .whisper => "whisper"
    | .system => "system"

/-- Reads a name in letters of any case. -/
def parse? (text : String) : Option ChannelType :=
  Named.ofName? (String.ofList (Letter.lowerAll text.toList))

end ChannelType

/-- The channel that a ban is restricted to. -/
structure BanScope where
  channelId : Uuid
  channelType : ChannelType
  deriving DecidableEq, Repr

namespace BanScope

def ofJson? (value : Json) : Option BanScope := do
  let fields ← Json.Fields.ofJson? ["channel_id", "channel_type"] value
  pure ⟨← fields.required "channel_id" Json.uuid?, ← fields.required "channel_type" Named.ofJson?⟩

def toJson (scope : BanScope) : Json :=
  .object [("channel_id", Json.ofUuid scope.channelId),
    ("channel_type", Named.toJson scope.channelType)]

end BanScope

structure Ban where
  id : Uuid
  characterId : Uuid
  channelId : Option Uuid
  channelType : Option ChannelType
  reason : String
  adminId : Option Uuid
  expiresAt : Option Instant
  createdAt : Instant
  isActive : Bool
  deriving DecidableEq, Repr

namespace Ban

/-- Active and not expired at `now`. -/
def inForceAt (ban : Ban) (now : Instant) : Bool :=
  ban.isActive && (ban.expiresAt.map fun t => decide (now < t)).getD true

/-- Whether the ban is for exactly this channel, or for none. -/
def appliesTo (ban : Ban) (channelId : Option Uuid) : Bool :=
  ban.channelId == channelId

def ofJson? (value : Json) : Option Ban := do
  let fields ← Json.Fields.ofJson? ["id", "character_id", "channel_id", "channel_type", "reason",
    "admin_id", "expires_at", "created_at", "is_active"] value
  pure {
    id := ← fields.required "id" Json.uuid?
    characterId := ← fields.required "character_id" Json.uuid?
    channelId := ← fields.optional "channel_id" Json.uuid?
    channelType := ← fields.optional "channel_type" Named.ofJson?
    reason := ← fields.required "reason" Json.string?
    adminId := ← fields.optional "admin_id" Json.uuid?
    expiresAt := ← fields.optional "expires_at" Json.instant?
    createdAt := ← fields.required "created_at" Json.instant?
    isActive := ← fields.required "is_active" Json.bool? }

def toJson (ban : Ban) : Json :=
  .object [("id", Json.ofUuid ban.id), ("character_id", Json.ofUuid ban.characterId),
    ("channel_id", Json.ofOption Json.ofUuid ban.channelId),
    ("channel_type", Json.ofOption Named.toJson ban.channelType),
    ("reason", .string ban.reason), ("admin_id", Json.ofOption Json.ofUuid ban.adminId),
    ("expires_at", Json.ofOption Json.ofInstant ban.expiresAt),
    ("created_at", Json.ofInstant ban.createdAt), ("is_active", .bool ban.isActive)]

end Ban

/-- What an administrator asks for. A duration that is missing or not positive is for ever. -/
structure BanRequest where
  characterId : Uuid
  channelId : Option Uuid
  channelType : Option ChannelType
  reason : String
  durationHours : Option Int
  deriving DecidableEq, Repr

namespace BanRequest

def ofJson? (value : Json) : Option BanRequest := do
  let fields ← Json.Fields.ofJson? ["character_id", "channel_id", "channel_type", "reason",
    "duration_hours"] value
  pure {
    characterId := ← fields.required "character_id" Json.uuid?
    channelId := ← fields.optional "channel_id" Json.uuid?
    channelType := ← fields.optional "channel_type" Named.ofJson?
    reason := ← fields.required "reason" Json.string?
    durationHours := ← fields.optional "duration_hours" Json.int64? }

def toJson (request : BanRequest) : Json :=
  .object [("character_id", Json.ofUuid request.characterId),
    ("channel_id", Json.ofOption Json.ofUuid request.channelId),
    ("channel_type", Json.ofOption Named.toJson request.channelType),
    ("reason", .string request.reason),
    ("duration_hours", Json.ofOption Json.ofInt request.durationHours)]

end BanRequest

end Parley
