import Parley.Guild.Basic
import Parley.Moderation.Ban
import Parley.Moderation.Report
import Parley.Notice.Notification
import Parley.Notice.Preferences
import Parley.Store.Table

/-!
# The store

The tables of bans, reports, notifications, preferences, guilds and members, with the queries and
changes that the services use. Lists are ordered from the newest; rows of equal age keep the order
in which they were stored.
-/

namespace Parley

open Calendar (Instant)

structure Store where
  bans : List Ban := []
  reports : List Report := []
  notices : List Notification := []
  preferences : List Preferences := []
  guilds : List Guild := []
  members : List GuildMember := []
  deriving Repr

namespace Store

/-- Newest first. -/
def newestFirst {α : Type} (createdAt : α → Instant) (rows : List α) : List α :=
  rows.mergeSort fun a b => createdAt b ≤ createdAt a

/-- The newest row; of several the one stored last. -/
def newest? {α : Type} (createdAt : α → Instant) : List α → Option α
  | [] => none
  | row :: rows =>
    match newest? createdAt rows with
    | none => some row
    | some best => if createdAt best < createdAt row then some row else some best

def putBan (store : Store) (ban : Ban) : Store :=
  { store with bans := Table.put Ban.id ban store.bans }

def ban? (store : Store) (id : Uuid) : Option Ban := Table.find? Ban.id id store.bans

/-- The newest ban in force for a character in exactly this channel, or everywhere. -/
def activeBan? (store : Store) (character : Uuid) (channel : Option Uuid) (now : Instant) :
    Option Ban :=
  newest? Ban.createdAt (store.bans.filter fun ban =>
    ban.characterId == character && ban.appliesTo channel && ban.inForceAt now)

def deactivateBan (store : Store) (id : Uuid) : Option Ban × Store :=
  let (ban, bans) := Table.modify Ban.id id (fun ban => { ban with isActive := false }) store.bans
  (ban, { store with bans })

def listBans (store : Store) (character : Option Uuid) (limit offset : Int) : List Ban × Nat :=
  let found := newestFirst Ban.createdAt (store.bans.filter fun ban =>
    (character.map (ban.characterId == ·)).getD true)
  (Table.page limit offset found, found.length)

def putReport (store : Store) (report : Report) : Store :=
  { store with reports := Table.put Report.id report store.reports }

def report? (store : Store) (id : Uuid) : Option Report := Table.find? Report.id id store.reports

def listReports (store : Store) (status : Option ReportStatus) (limit offset : Int) :
    List Report × Nat :=
  let found := newestFirst Report.createdAt (store.reports.filter fun report =>
    (status.map (report.status == ·)).getD true)
  (Table.page limit offset found, found.length)

/-- Decides a report that is still pending. -/
def resolveReport (store : Store) (id : Uuid) (status : ReportStatus) (admin : Uuid)
    (time : Instant) : Option Report × Store :=
  match store.report? id with
  | none => (none, store)
  | some report =>
    if report.status = .pending then
      let decided := { report with status, adminId := some admin, resolvedAt := some time }
      (some decided, store.putReport decided)
    else (none, store)

def putNotice (store : Store) (notice : Notification) : Store :=
  { store with notices := Table.put Notification.id notice store.notices }

def notice? (store : Store) (id : Uuid) : Option Notification :=
  Table.find? Notification.id id store.notices

/-- A page of the notifications of an account that have not expired, how many there are, and how
many of them are unread. -/
def listNotices (store : Store) (account : Uuid) (limit offset : Int) (now : Instant) :
    List Notification × Nat × Nat :=
  let found := newestFirst Notification.createdAt (store.notices.filter fun notice =>
    notice.accountId == account && !notice.expiredAt now)
  (Table.page limit offset found, found.length, found.countP (·.status == .unread))

def setNoticeStatus (store : Store) (id : Uuid) (status : NoticeStatus) :
    Option Notification × Store :=
  let (notice, notices) :=
    Table.modify Notification.id id (fun notice => { notice with status }) store.notices
  (notice, { store with notices })

def preferences? (store : Store) (account : Uuid) : Option Preferences :=
  Table.find? Preferences.accountId account store.preferences

def putPreferences (store : Store) (prefs : Preferences) : Store :=
  { store with preferences := Table.put Preferences.accountId prefs store.preferences }

def putGuild (store : Store) (guild : Guild) : Store :=
  { store with guilds := Table.put Guild.id guild store.guilds }

def guild? (store : Store) (id : Uuid) : Option Guild := Table.find? Guild.id id store.guilds

/-- Older before younger; of equal age, the lesser identifier first. -/
def foundedBefore (a b : Guild) : Bool :=
  a.createdAt < b.createdAt || (a.createdAt == b.createdAt && !(b.id < a.id))

/-- All active guilds, the oldest first. -/
def activeGuilds (store : Store) : List Guild :=
  (store.guilds.filter (·.status == .active)).mergeSort foundedBefore

def listActiveGuilds (store : Store) (limit offset : Int) : List Guild :=
  Table.page limit offset store.activeGuilds

def memberKey (member : GuildMember) : Uuid × Uuid := (member.guildId, member.characterId)

def member? (store : Store) (guild character : Uuid) : Option GuildMember :=
  Table.find? memberKey (guild, character) store.members

/-- The oldest active guild that a character belongs to. -/
def guildOf? (store : Store) (character : Uuid) : Option Guild :=
  store.activeGuilds.find? fun guild => (store.member? guild.id character).isSome

def putMember (store : Store) (member : GuildMember) : Store :=
  { store with members := Table.put memberKey member store.members }

/-- Sets level and experience of a guild; nothing if there is no such guild. -/
def setGuildLevel (store : Store) (id : Uuid) (level experience : Int) (now : Instant) :
    Option Store :=
  match Table.modify Guild.id id
      (fun guild => { guild with level, experience, updatedAt := now }) store.guilds with
  | (none, _) => none
  | (some _, guilds) => some { store with guilds }

end Store

end Parley
