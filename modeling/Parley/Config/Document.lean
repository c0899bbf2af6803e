import Parley.Config.Basic
import Parley.Toml.Decoder
import Parley.Toml.Parser

/-!
# Settings in a document

A TOML document gives some of the settings and leaves the others at their defaults. Sections and
fields that are not known are ignored; a known one of the wrong type makes the document invalid.
The settings of logging can be read alone, without regard to the other sections.
-/

namespace Parley.Config

open Toml (fields?)

/-- Lays the fields that a section gives over given settings. -/
def Redis.overlay? (base : Redis) (given : Toml) : Option Redis := do
  let fields ← fields? ["url", "pool_size", "min_idle", "connection_timeout_secs",
    "command_timeout_ms", "idle_timeout_secs"] given
  pure {
    url := ← fields.withDefault "url" Toml.string? base.url
    poolSize := ← fields.withDefault "pool_size" Toml.nat32? base.poolSize
    minIdle := ← fields.withDefault "min_idle" Toml.nat32? base.minIdle
    connectionTimeoutSecs :=
      ← fields.withDefault "connection_timeout_secs" Toml.nat64? base.connectionTimeoutSecs
    commandTimeoutMs := ← fields.withDefault "command_timeout_ms" Toml.nat64? base.commandTimeoutMs
    idleTimeoutSecs := ← fields.withDefault "idle_timeout_secs" Toml.nat64? base.idleTimeoutSecs }

def Database.overlay? (base : Database) (given : Toml) : Option Database := do
  let fields ← fields? ["url", "max_connections", "min_connections"] given
  pure {
    url := ← fields.withDefault "url" Toml.string? base.url
    maxConnections := ← fields.withDefault "max_connections" Toml.nat32? base.maxConnections
    minConnections := ← fields.withDefault "min_connections" Toml.nat32? base.minConnections }

def Moderation.overlay? (base : Moderation) (given : Toml) : Option Moderation := do
  let fields ← fields? ["auto_ban_enabled", "banned_words", "url_whitelist",
    "link_placeholder", "spam_burst_limit", "spam_burst_window_secs", "spam_duplicate_limit",
    "spam_duplicate_window_secs", "spam_ban_hours", "severe_violation_threshold",
    "severe_ban_hours", "violation_window_secs"] given
  let texts := Toml.list? Toml.string?
  pure {
    autoBanEnabled := ← fields.withDefault "auto_ban_enabled" Toml.bool? base.autoBanEnabled
    bannedWords := ← fields.withDefault "banned_words" texts base.bannedWords
    urlWhitelist := ← fields.withDefault "url_whitelist" texts base.urlWhitelist
    linkPlaceholder := ← fields.withDefault "link_placeholder" Toml.string? base.linkPlaceholder
    spamBurstLimit := ← fields.withDefault "spam_burst_limit" Toml.int64? base.spamBurstLimit
    spamBurstWindowSecs :=
      ← fields.withDefault "spam_burst_window_secs" Toml.nat64? base.spamBurstWindowSecs
    spamDuplicateLimit :=
      ← fields.withDefault "spam_duplicate_limit" Toml.int64? base.spamDuplicateLimit
    spamDuplicateWindowSecs :=
      ← fields.withDefault "spam_duplicate_window_secs" Toml.nat64? base.spamDuplicateWindowSecs
    spamBanHours := ← fields.withDefault "spam_ban_hours" Toml.int64? base.spamBanHours
    severeViolationThreshold :=
      ← fields.withDefault "severe_violation_threshold" Toml.int64? base.severeViolationThreshold
    severeBanHours := ← fields.withDefault "severe_ban_hours" Toml.int64? base.severeBanHours
    violationWindowSecs :=
      ← fields.withDefault "violation_window_secs" Toml.nat64? base.violationWindowSecs }

def Subscriber.overlay? (base : Subscriber) (given : Toml) : Option Subscriber := do
  let fields ← fields? ["processing_timeout_ms"] given
  pure ⟨← fields.withDefault "processing_timeout_ms" Toml.nat64? base.processingTimeoutMs⟩

def GuildProgression.overlay? (base : GuildProgression) (given : Toml) :
    Option GuildProgression := do
  let fields ← fields? ["level_up_experience", "territory_capture_experience",
    "experience_per_level"] given
  pure {
    levelUpExperience :=
      ← fields.withDefault "level_up_experience" Toml.int64? base.levelUpExperience
    territoryCaptureExperience := ← fields.withDefault "territory_capture_experience" Toml.int64?
      base.territoryCaptureExperience
    experiencePerLevel :=
      ← fields.withDefault "experience_per_level" Toml.int64? base.experiencePerLevel }

/-- Settings of logging of which each may be missing. -/
structure LoggingChoice where
  level : Option String := none
  format : Option String := none
  file : Option String := none
  deriving DecidableEq, Repr

namespace LoggingChoice

def ofToml? (given : Toml) : Option LoggingChoice := do
  let fields ← fields? ["level", "format", "file"] given
  pure {
    level := ← fields.optional "level" Toml.string?
    format := ← fields.optional "format" Toml.string?
    file := ← fields.optional "file" Toml.string? }

/-- What the logging section of a document gives; nothing if the document cannot be read. -/
def ofText (text : String) : LoggingChoice :=
  (do (← Toml.parse? text).optional "logging" ofToml? : Option (Option LoggingChoice)).join.getD {}

end LoggingChoice

def Logging.overlay? (base : Logging) (given : Toml) : Option Logging := do
  let choice ← LoggingChoice.ofToml? given
  pure {
    level := choice.level.getD base.level
    format := choice.format.getD base.format
    file := choice.file.or base.file }

def Metrics.overlay? (base : Metrics) (given : Toml) : Option Metrics := do
  let fields ← fields? ["enabled", "listen_addr"] given
  pure {
    enabled := ← fields.withDefault "enabled" Toml.bool? base.enabled
    listenAddr := ← fields.withDefault "listen_addr" Toml.string? base.listenAddr }

/-- Settings from the sections of a document, over the defaults. -/
def ofMembers? (document : Toml.Members) : Option Config := do
  let base : Config := {}
  pure {
    redis := ← document.withDefault "redis" base.redis.overlay? base.redis
    database := ← document.withDefault "database" base.database.overlay? base.database
    moderation := ← document.withDefault "moderation" base.moderation.overlay? base.moderation
    subscriber := ← document.withDefault "subscriber" base.subscriber.overlay? base.subscriber
    guildProgression := ← document.withDefault "guild_progression"
      base.guildProgression.overlay? base.guildProgression
    logging := ← document.withDefault "logging" base.logging.overlay? base.logging
    metrics := ← document.withDefault "metrics" base.metrics.overlay? base.metrics }

def ofText? (text : String) : Option Config := (Toml.parse? text).bind ofMembers?

end Parley.Config
