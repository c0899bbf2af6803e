import Parley.Host.Basic
import Parley.Host.Folder

/-!
# Hosts made of values

A host whose variables, files and servers are values, so that a routine on it is a function. The
messages that wait reach the service once it listens, and are handled before the interrupt.
-/

namespace Parley

namespace Host

/-- What is written: a text of the program, or a record of the log. -/
inductive Output where
  | text (content : String)
  | record (record : Log.Record)
  deriving DecidableEq, Repr

end Host

structure Host where
  environment : List (String × String) := []
  folder : Folder := {}
  servers : Servers
  /-- Messages that others publish while the service listens. -/
  messages : List Message := []
  log : Option Log.Setup := none
  /-- Latest first. -/
  output : List Host.Output := []
  cache : Option Redis.Client := none
  database : Option Sql.Script := none
  service : Option Remote.Service := none

namespace Host

/-- The host after its folder was changed, if that could be done. -/
def withFolder (host : Host) : Option Folder → Bool × Host
  | some folder => (true, { host with folder })
  | none => (false, host)

/-- Opens the log, whose file begins with what is in it already. -/
def openLog (host : Host) (setup : Log.Setup) : Bool × Host :=
  let (opened, host) := match setup.file with
    | none => (true, host)
    | some path => host.withFolder (host.folder.modify path (·.getD (.text "")))
  (opened, if opened then { host with log := some setup } else host)

def write (host : Host) (output : Output) : Host := { host with output := output :: host.output }

/-- Writes a record if the log is open and keeps it. -/
def record (host : Host) (record : Log.Record) : Host :=
  match host.log with
  | none => host
  | some setup => if setup.filter.admits record then host.write (.record record) else host

/-- The records written, oldest first. -/
def records (host : Host) : List Log.Record :=
  host.output.reverse.filterMap fun
    | .text _ => none
    | .record record => some record

/-- The texts written, one after the other. -/
def texts (host : Host) : String :=
  String.join (host.output.reverse.map fun
    | .text content => content
    | .record _ => "")

/-- Whether the log is written to a file at this path. -/
def logsTo (host : Host) (path : String) : Bool :=
  match host.log.bind (·.file) with
  | none => false
  | some file => host.folder.locate file == host.folder.locate path

def connectCache (host : Host) (settings : Config.Redis) : Except Error Unit × Host :=
  match Redis.Client.connect settings host.servers.cache with
  | .ok client => (.ok (), { host with cache := some client })
  | .error e => (.error e, host)

def connectDatabase (host : Host) (settings : Config.Database) : Except Error Unit × Host :=
  match Remote.connectDatabase settings host.servers with
  | .ok script => (.ok (), { host with database := some script })
  | .error e => (.error e, host)

def dial (host : Host) (url : String) : Bool × Host :=
  match host.servers.database url with
  | some script => (true, { host with database := some script })
  | none => (false, host)

def send (host : Host) (statement : Sql.Statement) : Sql.Reply × Host :=
  match host.database with
  | none => (.failed, host)
  | some script =>
    let (reply, script) := script.reply statement
    (reply, { host with database := some script })

/-- Changes the service, which holds its connections from then on. -/
def withService (host : Host) (service : Remote.Service) : Host :=
  { host with
    service := some service
    cache := some service.remote.cache
    database := some service.remote.database }

def start (host : Host) (config : Config) : Except Remote.StartFailure Unit × Host :=
  match host.cache, host.database with
  | some cache, some database =>
    let (result, service) := (Remote.Service.create config { cache, database }).start
    (result, host.withService service)
  | _, _ => (.ok (), host)

/-- Publishes a message to the service, and lets it be handled. -/
def deliver (service : Remote.Service) (message : Message) : Remote.Service :=
  (service.modifyServer fun server => (server.publish message).2).endStep

/-- Lets the service handle the messages that wait. -/
def awaitInterrupt (host : Host) : Host :=
  match host.service with
  | none => host
  | some service => { host.withService (host.messages.foldl deliver service) with messages := [] }

def stop (host : Host) : Host :=
  match host.service with
  | none => host
  | some service => host.withService service.shutdown

/-- Answers a query. -/
def perform (host : Host) : (query : Query) → query.Answer × Host
  | .lookUp name => ((host.environment.find? (·.1 == name)).map Prod.snd, host)
  | .inspect path => (host.folder.inspect path, host)
  | .write path content => host.withFolder (host.folder.write path content)
  | .makeFolder path => host.withFolder (host.folder.make path)
  | .openLog setup => host.openLog setup
  | .log record => ((), host.record record)
  | .print text => ((), host.write (.text text))
  | .connectCache settings => host.connectCache settings
  | .connectDatabase settings => host.connectDatabase settings
  | .dial url => host.dial url
  | .send statement => host.send statement
  | .expose _ => (true, host)
  | .start config => host.start config
  | .awaitInterrupt => ((), host.awaitInterrupt)
  | .stop => ((), host.stop)

/-- Carries out a routine. -/
def run {α : Type} (host : Host) (routine : Routine α) : Except Ending α × Host :=
  Course.run perform (ExceptT.run routine) host

end Host

end Parley
