import Parley.Flow.Basic
import Parley.Redis.Client
import Parley.Sql.Ban
import Parley.Sql.Guild
import Parley.Sql.Notice
import Parley.Sql.Preferences
import Parley.Sql.Report
import Parley.Sql.Script

/-!
# Services on servers

The store is a database, and the counters and the bus are a key-value server. Each request is
answered by an exchange with one of the two; only the clock, the identifiers and the metrics are
kept here.
-/

namespace Parley

/-- The servers that addresses lead to. -/
structure Servers where
  cache : String → Option Redis.Server
  database : String → Option Sql.Script

structure Remote where
  /-- Counted in milliseconds. -/
  clock : Nat := 0
  issued : Nat := 0
  metrics : Tally := []
  cache : Redis.Client
  database : Sql.Script

namespace Remote

variable {α : Type}

/-- Connects to the database that the settings name, and tries the connection out. -/
def connectDatabase (settings : Config.Database) (servers : Servers) : Except Error Sql.Script :=
  match servers.database settings.url with
  | some script => .ok (script.reply Sql.probe).2
  | none => .error (.database ("数据库连接失败 (" ++ Url.maskPassword settings.url ++ ")"))

def connect (config : Config) (servers : Servers) : Except Error Remote := do
  let cache ← Redis.Client.connect config.redis servers.cache
  let database ← connectDatabase config.database servers
  pure { cache, database }

/-- Carries out an exchange with the database. -/
def exchange (remote : Remote) (exchange : Sql.Exchange α) : Except Error α × Remote :=
  let (result, database) := remote.database.run exchange
  (result, { remote with database })

/-- Sends commands to the key-value server. -/
def command (remote : Remote) (send : Redis.Client → Except Error α × Redis.Client) :
    Except Error α × Remote :=
  let (result, cache) := send remote.cache
  (result, { remote with cache })

/-- The answer of a request. -/
def answer (remote : Remote) : (request : Request) → request.Answer × Remote
  | .now => (.ofMillis remote.clock, remote)
  | .freshId => (Uuid.ofSerial (remote.issued + 1), { remote with issued := remote.issued + 1 })
  | .tally metric => ((), { remote with metrics := remote.metrics.add metric })
  | .pause ms => ((), { remote with clock := remote.clock + ms })
  | .note .. => ((), remote)
  | .guildPageBound => (0, remote)
  | .createBan ban => remote.exchange (Sql.Bans.create ban)
  | .findActiveBan character channel time =>
    remote.exchange (Sql.Bans.findActive character channel time)
  | .deactivateBan id => remote.exchange (Sql.Bans.deactivate id)
  | .listBans character limit offset => remote.exchange (Sql.Bans.list character limit offset)
  | .createReport report => remote.exchange (Sql.Reports.create report)
  | .findReport id => remote.exchange (Sql.Reports.find id)
  | .listReports status limit offset => remote.exchange (Sql.Reports.list status limit offset)
  | .resolveReport id status admin time =>
    remote.exchange (Sql.Reports.resolve id status admin time)
  | .createNotice notice => remote.exchange (Sql.Notices.create notice)
  | .findNotice id => remote.exchange (Sql.Notices.find id)
  | .listNotices account limit offset time =>
    remote.exchange (Sql.Notices.list account limit offset time)
  | .setNoticeStatus id status => remote.exchange (Sql.Notices.setStatus id status)
  | .findPreferences account => remote.exchange (Sql.Preferences.find account)
  | .savePreferences prefs => remote.exchange (Sql.Preferences.save prefs)
  | .listActiveGuilds limit offset => remote.exchange (Sql.Guilds.listActive limit offset)
  | .findMember guild character => remote.exchange (Sql.Guilds.findMember guild character)
  | .findGuildOf character => remote.exchange (Sql.Guilds.findOfMember character)
  | .setGuildLevel guild level experience =>
    remote.exchange (Sql.Guilds.setLevel guild level experience)
  | .increment key => remote.command (·.increment key)
  | .countAtOnce key window => remote.command (·.countInWindow key window)
  | .expire key ttl =>
    let (answer, remote) := remote.command (·.expire key ttl)
    (answer.map fun _ => true, remote)
  | .readCounter key => remote.command (·.get key)
  | .deleteCounter key => remote.command (·.delete key)
  | .publish message => remote.command (·.publish message)

/-- Carries out an action. -/
def run (remote : Remote) (action : Action α) : Except Failure α × Remote :=
  Course.run answer (ExceptT.run action) remote

end Remote

end Parley
