import Parley.Sql.Basic

/-!
# Migrations

The tables are made by scripts that are carried out once each, in order. A table of their own
records which of them were.
-/

namespace Parley.Sql

structure Migration where
  name : String
  lines : List String

namespace Migration

def script (migration : Migration) : Statement :=
  { text := "\n".intercalate migration.lines, isScript := true }

/-- Makes the table in which migrations are recorded. -/
def createTable : Statement :=
  { text := "CREATE TABLE IF NOT EXISTS social_pipeline_migrations ( id SERIAL PRIMARY KEY, " ++
      "name TEXT NOT NULL UNIQUE, applied_at TIMESTAMPTZ NOT NULL DEFAULT NOW() )" }

/-- The names of the migrations that were carried out. -/
def listApplied : Statement :=
  { text := "SELECT name FROM social_pipeline_migrations ORDER BY id" }

def record (migration : Migration) : Statement :=
  { text := "INSERT INTO social_pipeline_migrations (name) VALUES ($1)"
    parameters := [.string migration.name] }

/-- The tables of bans, reports, notifications, preferences, guilds and members. -/
def firstTables : Migration where
  name := "001_social_pipeline"
  lines := [
    "-- 聊天禁言",
    "CREATE TABLE IF NOT EXISTS social_chat_bans (",
    "    id UUID PRIMARY KEY,",
    "    character_id UUID NOT NULL,",
    "    channel_id UUID,",
    "    channel_type TEXT,",
    "    reason TEXT NOT NULL,",
    "    admin_id UUID,",
    "    expires_at TIMESTAMPTZ,",
    "    created_at TIMESTAMPTZ NOT NULL DEFAULT NOW(),",
    "    is_active BOOLEAN NOT NULL DEFAULT TRUE",
    ");",
    "",
    "CREATE INDEX IF NOT EXISTS idx_social_chat_bans_character_active",
    "    ON social_chat_bans (character_id) WHERE is_active;",
    "",
    "-- 聊天举报",
    "CREATE TABLE IF NOT EXISTS social_chat_reports (",
    "    id UUID PRIMARY KEY,",
    "    reporter_id UUID NOT NULL,",
    "    reported_id UUID NOT NULL,",
    "    message_id UUID,",
    "    channel_id UUID,",
    "    reason TEXT NOT NULL,",
    "    status TEXT NOT NULL DEFAULT 'pending',",
    "    admin_id UUID,",
    "    created_at TIMESTAMPTZ NOT NULL DEFAULT NOW(),",
    "    resolved_at TIMESTAMPTZ",
    ");",
    "",
    "CREATE INDEX IF NOT EXISTS idx_social_chat_reports_status",
    "    ON social_chat_reports (status, created_at DESC);",
    "",
    "-- 通知",
    "CREATE TABLE IF NOT EXISTS social_notifications (",
    "    id UUID PRIMARY KEY,",
    "    account_id UUID NOT NULL,",
    "    type TEXT NOT NULL,",
    "    priority TEXT NOT NULL DEFAULT 'medium',",
    "    title TEXT NOT NULL,",
    "    content TEXT NOT NULL DEFAULT '',",
    "    data JSONB NOT NULL DEFAULT '\x7b\x7d'::jsonb,",
    "    status TEXT NOT NULL DEFAULT 'unread',",
    "    channels TEXT[] NOT NULL DEFAULT ARRAY['in_game'],",
    "    created_at TIMESTAMPTZ NOT NULL DEFAULT NOW(),",
    "    expires_at TIMESTAMPTZ",
    ");",
    "",
    "CREATE INDEX IF NOT EXISTS idx_social_notifications_account",
    "    ON social_notifications (account_id, created_at DESC);",
    "",
    "-- 通知偏好",
    "CREATE TABLE IF NOT EXISTS social_notification_preferences (",
    "    account_id UUID PRIMARY KEY,",
    "    friend_enabled BOOLEAN NOT NULL DEFAULT TRUE,",
    "    guild_enabled BOOLEAN NOT NULL DEFAULT TRUE,",
    "    trade_enabled BOOLEAN NOT NULL DEFAULT TRUE,",
    "    achievement_enabled BOOLEAN NOT NULL DEFAULT TRUE,",
    "    quest_enabled BOOLEAN NOT NULL DEFAULT TRUE,",
    "    combat_enabled BOOLEAN NOT NULL DEFAULT TRUE,",
    "    message_enabled BOOLEAN NOT NULL DEFAULT TRUE,",
    "    system_enabled BOOLEAN NOT NULL DEFAULT TRUE,",
    "    preferred_channels TEXT[] NOT NULL DEFAULT ARRAY['in_game'],",
    "    updated_at TIMESTAMPTZ NOT NULL DEFAULT NOW()",
    ");",
    "",
    "-- 公会",
    "CREATE TABLE IF NOT EXISTS social_guilds (",
    "    id UUID PRIMARY KEY,",
    "    name TEXT NOT NULL,",
    "    tag TEXT NOT NULL,",
    "    leader_id UUID NOT NULL,",
    "    level INTEGER NOT NULL DEFAULT 1,",
    "    experience BIGINT NOT NULL DEFAULT 0,",
    "    max_members INTEGER NOT NULL DEFAULT 50,",
    "    status TEXT NOT NULL DEFAULT 'active',",
    "    created_at TIMESTAMPTZ NOT NULL DEFAULT NOW(),",
    "    updated_at TIMESTAMPTZ NOT NULL DEFAULT NOW()",
    ");",
    "",
    "CREATE TABLE IF NOT EXISTS social_guild_members (",
    "    guild_id UUID NOT NULL REFERENCES social_guilds (id) ON DELETE CASCADE,",
    "    character_id UUID NOT NULL,",
    "    rank TEXT NOT NULL DEFAULT 'member',",
    "    joined_at TIMESTAMPTZ NOT NULL DEFAULT NOW(),",
    "    PRIMARY KEY (guild_id, character_id)",
    ");",
    "",
    "CREATE INDEX IF NOT EXISTS idx_social_guild_members_character",
    "    ON social_guild_members (character_id);"]

/-- All migrations in order. -/
def all : List Migration := [firstTables]

end Migration

end Parley.Sql
