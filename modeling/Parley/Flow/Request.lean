import Parley.Calendar.Instant
import Parley.Error
import Parley.Event.Bus
import Parley.Metric
import Parley.Store.Basic
import Parley.Store.Counters

/-!
# Requests to the surroundings

A service works by requests: to the clock and the supply of identifiers, to the store, the
counters and the bus. A request to the store, the counters or the bus can be refused with an
error, and is then named by its target. `Request.perform` says what a request does to the world
and what it answers.
-/

namespace Parley

open Calendar (Instant)

/-- The kinds of request that can be refused. -/
inductive Target where
  | bansCreate | bansFindActive | bansDeactivate | bansList
  | reportsCreate | reportsFind | reportsList | reportsResolve
  | noticesCreate | noticesFind | noticesList | noticesUpdate
  | preferencesGet | preferencesUpsert
  | guildsList | guildsMember | guildsUpdate
  | countersIncrement | countersExpire | countersRead | countersDelete
  | busPublish | busSubscribe
  deriving DecidableEq, Repr

instance : Named Target where
  all := [.bansCreate, .bansFindActive, .bansDeactivate, .bansList, .reportsCreate, .reportsFind,
    .reportsList, .reportsResolve, .noticesCreate, .noticesFind, .noticesList, .noticesUpdate,
    .preferencesGet, .preferencesUpsert, .guildsList, .guildsMember, .guildsUpdate,
    .countersIncrement, .countersExpire, .countersRead, .countersDelete, .busPublish,
    .busSubscribe]
  name
    | .bansCreate => "bans.create"
    | .bansFindActive => "bans.find_active"
    | .bansDeactivate => "bans.deactivate"
    | .bansList => "bans.list"
    | .reportsCreate => "reports.create"
    | .reportsFind => "reports.find_by_id"
    | .reportsList => "reports.list"
    | .reportsResolve => "reports.resolve"
    | .noticesCreate => "notifications.create"
    | .noticesFind => "notifications.find_by_id"
    | .noticesList => "notifications.list_by_account"
    | .noticesUpdate => "notifications.update_status"
    | .preferencesGet => "preferences.get"
    | .preferencesUpsert => "preferences.upsert"
    | .guildsList => "guilds.list_active"
    | .guildsMember => "guilds.get_member"
    | .guildsUpdate => "guilds.update_level"
    | .countersIncrement => "counters.incr"
    | .countersExpire => "counters.expire"
    | .countersRead => "counters.get"
    | .countersDelete => "counters.del"
    | .busPublish => "transport.publish"
    | .busSubscribe => "transport.subscribe"

inductive Request where
  /-- The time. -/
  | now
  /-- An identifier that was not handed out before. -/
  | freshId
  /-- Counts a metric. -/
  | tally (metric : Metric)
  /-- Lets so many milliseconds pass. -/
  | pause (ms : Nat)
  /-- Notes a topic under a name. -/
  | note (name topic : String)
  /-- More pages of active guilds than there are. -/
  | guildPageBound
  | createBan (ban : Ban)
  | findActiveBan (character : Uuid) (channel : Option Uuid) (time : Instant)
  | deactivateBan (id : Uuid)
  | listBans (character : Option Uuid) (limit offset : Int)
  | createReport (report : Report)
  | findReport (id : Uuid)
  | listReports (status : Option ReportStatus) (limit offset : Int)
  | resolveReport (id : Uuid) (status : ReportStatus) (admin : Uuid) (time : Instant)
  | createNotice (notice : Notification)
  | findNotice (id : Uuid)
  | listNotices (account : Uuid) (limit offset : Int) (time : Instant)
  | setNoticeStatus (id : Uuid) (status : NoticeStatus)
  | findPreferences (account : Uuid)
  | savePreferences (prefs : Preferences)
  | listActiveGuilds (limit offset : Int)
  | findMember (guild character : Uuid)
  | findGuildOf (character : Uuid)
  | setGuildLevel (guild : Uuid) (level experience : Int)
  | increment (key : String)
  | countAtOnce (key : String) (window : Nat)
  | expire (key : String) (ttl : Nat)
  | readCounter (key : String)
  | deleteCounter (key : String)
  | publish (message : Message)

namespace Request

/-- What a request answers. -/
abbrev Answer : Request → Type
  | now => Instant
  | freshId => Uuid
  | tally _ => Unit
  | pause _ => Unit
  | note .. => Unit
  | guildPageBound => Nat
  | createBan _ => Except Error Ban
  | findActiveBan .. => Except Error (Option Ban)
  | deactivateBan _ => Except Error (Option Ban)
  | listBans .. => Except Error (List Ban × Nat)
  | createReport _ => Except Error Report
  | findReport _ => Except Error (Option Report)
  | listReports .. => Except Error (List Report × Nat)
  | resolveReport .. => Except Error (Option Report)
  | createNotice _ => Except Error Notification
  | findNotice _ => Except Error (Option Notification)
  | listNotices .. => Except Error (List Notification × Nat × Nat)
  | setNoticeStatus .. => Except Error (Option Notification)
  | findPreferences _ => Except Error (Option Preferences)
  | savePreferences _ => Except Error Preferences
  | listActiveGuilds .. => Except Error (List Guild)
  | findMember .. => Except Error (Option GuildMember)
  | findGuildOf _ => Except Error (Option Guild)
  | setGuildLevel .. => Except Error Unit
  | increment _ => Except Error Int
  | countAtOnce .. => Except Error Int
  /- Whether the deadline is one that the clock can reach. -/
  | expire .. => Except Error Bool
  | readCounter _ => Except Error (Option Int)
  | deleteCounter _ => Except Error Unit
  | publish _ => Except Error Unit

/-- The target of a request that can be refused, and its answer when it is. -/
def refusal? : (request : Request) → Option (Target × (Error → request.Answer))
  | now | freshId | tally _ | pause _ | note .. | guildPageBound => none
  | createBan _ => some (.bansCreate, .error)
  | findActiveBan .. => some (.bansFindActive, .error)
  | deactivateBan _ => some (.bansDeactivate, .error)
  | listBans .. => some (.bansList, .error)
  | createReport _ => some (.reportsCreate, .error)
  | findReport _ => some (.reportsFind, .error)
  | listReports .. => some (.reportsList, .error)
  | resolveReport .. => some (.reportsResolve, .error)
  | createNotice _ => some (.noticesCreate, .error)
  | findNotice _ => some (.noticesFind, .error)
  | listNotices .. => some (.noticesList, .error)
  | setNoticeStatus .. => some (.noticesUpdate, .error)
  | findPreferences _ => some (.preferencesGet, .error)
  | savePreferences _ => some (.preferencesUpsert, .error)
  | listActiveGuilds .. => some (.guildsList, .error)
  | findMember .. => some (.guildsMember, .error)
  | findGuildOf _ => some (.guildsList, .error)
  | setGuildLevel .. => some (.guildsUpdate, .error)
  | increment _ => some (.countersIncrement, .error)
  | countAtOnce .. => some (.countersIncrement, .error)
  | expire .. => some (.countersExpire, .error)
  | readCounter _ => some (.countersRead, .error)
  | deleteCounter _ => some (.countersDelete, .error)
  | publish _ => some (.busPublish, .error)

end Request

/-- What the services work on. Time is counted in milliseconds. -/
structure World where
  clock : Nat := 0
  /-- What the monotonic clock read when the clock stood at zero. -/
  uptime : Nat := 1000
  /-- The identifiers in the order in which they are handed out. -/
  supply : Nat → Uuid := Uuid.ofSerial
  /-- How many identifiers were handed out. -/
  issued : Nat := 0
  store : Store := {}
  counters : Counters := {}
  bus : Bus := Bus.standard
  metrics : Tally := []
  notes : List (String × String) := []

namespace World

def now (world : World) : Instant := Instant.ofMillis world.clock

/-- What the monotonic clock reads. -/
def reading (world : World) : Nat := world.uptime + world.clock

/-- How many guilds are looked through at a time in search of a member. -/
def guildPageSize : Nat := 100

end World

/-- The answer of a request and the world after it. -/
def Request.perform (world : World) : (request : Request) → request.Answer × World
  | .now => (world.now, world)
  | .freshId => (world.supply (world.issued + 1), { world with issued := world.issued + 1 })
  | .tally metric => ((), { world with metrics := Tally.add metric world.metrics })
  | .pause ms => ((), { world with clock := world.clock + ms })
  | .note name topic => ((), { world with notes := world.notes ++ [(name, topic)] })
  | .guildPageBound => (world.store.guilds.length / World.guildPageSize + 2, world)
  | .createBan ban => (.ok ban, { world with store := world.store.putBan ban })
  | .findActiveBan character channel time =>
    (.ok (world.store.activeBan? character channel time), world)
  | .deactivateBan id =>
    let (ban, store) := world.store.deactivateBan id
    (.ok ban, { world with store })
  | .listBans character limit offset => (.ok (world.store.listBans character limit offset), world)
  | .createReport report => (.ok report, { world with store := world.store.putReport report })
  | .findReport id => (.ok (world.store.report? id), world)
  | .listReports status limit offset =>
    (.ok (world.store.listReports status limit offset), world)
  | .resolveReport id status admin time =>
    let (report, store) := world.store.resolveReport id status admin time
    (.ok report, { world with store })
  | .createNotice notice => (.ok notice, { world with store := world.store.putNotice notice })
  | .findNotice id => (.ok (world.store.notice? id), world)
  | .listNotices account limit offset time =>
    (.ok (world.store.listNotices account limit offset time), world)
  | .setNoticeStatus id status =>
    let (notice, store) := world.store.setNoticeStatus id status
    (.ok notice, { world with store })
  | .findPreferences account => (.ok (world.store.preferences? account), world)
  | .savePreferences prefs =>
    (.ok prefs, { world with store := world.store.putPreferences prefs })
  | .listActiveGuilds limit offset => (.ok (world.store.listActiveGuilds limit offset), world)
  | .findMember guild character => (.ok (world.store.member? guild character), world)
  | .findGuildOf character => (.ok (world.store.guildOf? character), world)
  | .setGuildLevel guild level experience =>
    match world.store.setGuildLevel guild level experience world.now with
    | some store => (.ok (), { world with store })
    | none => (.error (Guild.missing guild), world)
  | .increment key =>
    let (value, counters) := world.counters.increment world.clock key
    (.ok value, { world with counters })
  | .countAtOnce key window =>
    let (value, counters) := world.counters.countInWindow world.clock key window
    (.ok value, { world with counters })
  | .expire key ttl =>
    if (world.counters.find? key).isNone || Counters.isReachable world.reading ttl then
      (.ok true, { world with counters := world.counters.expire world.clock key ttl })
    else (.ok false, world)
  | .readCounter key =>
    let (value, counters) := world.counters.read world.clock key
    (.ok value, { world with counters })
  | .deleteCounter key => (.ok (), { world with counters := world.counters.delete key })
  | .publish message => (.ok (), { world with bus := world.bus.publish message })

end Parley
