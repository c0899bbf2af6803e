import Parley.Guild.Progression
import Parley.Listener.Handler
import Parley.Moderation.Rules

/-!
# From events to guild experience

A character that rises a level or captures a territory earns experience for its guild. The guild
of a character is the oldest active one that it belongs to; unless the store finds it, guilds are
looked through page by page.
-/

namespace Parley.Advancement

def levelUpTopics : String := "events:character:level-up"

def captureTopics : String := "events:territory:captured"

def patterns : List String := ["events:character:level-up:*", "events:territory:captured:*"]

/-- What an event of this topic is worth. -/
def experienceFor (config : Config.GuildProgression) (topic : String) : Int :=
  if levelUpTopics.toList.isPrefixOf topic.toList then config.levelUpExperience
  else if captureTopics.toList.isPrefixOf topic.toList then config.territoryCaptureExperience
  else 0

/-- The first of the guilds that a character belongs to. -/
def firstWithMember (character : Uuid) : List Guild → Action (Option Guild)
  | [] => pure none
  | guild :: rest => do
    if (← Action.findMember guild.id character).isSome then pure (some guild)
    else firstWithMember character rest

/-- Looks through pages of active guilds from an offset, at most `bound` of them. -/
def scan (character : Uuid) : Nat → Int → Action (Option Guild)
  | 0, _ => pure none
  | bound + 1, offset => do
    let page ← Action.listActiveGuilds World.guildPageSize offset
    match ← firstWithMember character page with
    | some guild => pure (some guild)
    | none =>
      if page.length < World.guildPageSize then pure none
      else scan character bound (offset + page.length)

def guildOf (character : Uuid) : Action (Option Guild) := do
  scan character (← Action.ask .guildPageBound) 0

def handle (config : Config.GuildProgression) (find : Uuid → Action (Option Guild))
    (topic : String) (payload : Payload) : Action Handled := do
  let amount := experienceFor config topic
  if amount ≤ 0 then pure .skipped
  else
    match ← Action.ofAnswer (payload.uuid? "character_id") with
    | none => pure .skipped
    | some character =>
      match ← find character with
      | none => pure .skipped
      | some guild =>
        let p := Progression.gain guild.level guild.experience amount config.experiencePerLevel
        Action.setGuildLevel guild.id p.newLevel p.experience
        if p.leveledUp then
          announce (.guildLeveledUp guild.id p.oldLevel p.newLevel p.experience (← Action.now))
        pure .processed

/-- The handler, with the way in which it finds the guild of a character. -/
def handler (config : Config.GuildProgression)
    (find : Uuid → Action (Option Guild) := guildOf) : Handler where
  name := "guild_progression"
  patterns
  handle := handle config find

end Parley.Advancement
