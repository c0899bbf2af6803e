import Parley.Config.Basic
import Parley.Digest.Sha256
import Parley.Event.Announcement
import Parley.Filter.Basic
import Parley.Flow.Basic

/-!
# Rules of moderation

The settings of moderation together with the filter made of them, the names of the counters, and
what the services share: paging, announcing, and giving a ban.
-/

namespace Parley

structure Rules where
  config : Config.Moderation
  filter : Filter
  /-- How a counter is counted up that starts anew after so many milliseconds. -/
  count : String → Nat → Action Int := Action.countInWindow

namespace Rules

def ofConfig (config : Config.Moderation) : Rules where
  config
  filter := Filter.configure config.bannedWords config.urlWhitelist config.linkPlaceholder

/-- The counter of all messages of an actor. -/
def burstKey (actor : Uuid) : String := "chat:spam:burst:" ++ toString actor

/-- The counter of equal messages of an actor; the content counts by its digest. -/
def duplicateKey (actor : Uuid) (content : String) : String :=
  "chat:spam:dup:" ++ toString actor ++ ":" ++ Digest.Sha256.hex content

/-- The counter of violations of an actor. -/
def violationKey (actor : Uuid) : String := "chat:violations:" ++ toString actor

end Rules

/-- The longest page that a list is read in. -/
def maxPageSize : Int := 100

/-- A page has at least one row and at most a hundred. -/
def clampLimit (limit : Int) : Int := max 1 (min limit maxPageSize)

def clampOffset (offset : Int) : Int := max offset 0

/-- Publishes an announcement. What it announces has happened, so an error changes nothing. -/
def announce (a : Announcement) : Action Unit :=
  Action.onError (Action.publish ⟨a.topic, a.payload.toBody⟩) fun _ => pure ()

/-- A new ban, for ever or for a number of hours; the calendar may not reach to its end. -/
def draftBan (character : Uuid) (channelId : Option Uuid) (channelType : Option ChannelType)
    (reason : String) (admin : Option Uuid) (hours : Option Int) : Action Ban := do
  let createdAt ← Action.now
  let id ← Action.freshId
  let expiresAt ← match hours with
    | none => pure none
    | some hours => some <$> Action.ofOption (createdAt.addHours? hours)
  pure {
    id, channelId, channelType, reason, expiresAt, createdAt
    characterId := character
    adminId := admin
    isActive := true }

end Parley
