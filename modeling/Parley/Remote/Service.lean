import Parley.Guild.Advancement
import Parley.Listener.Basic
import Parley.Notice.Fanout
import Parley.Remote.Basic

/-!
# Listening to servers

The service on servers counts in one step and lets the database find the guild of a character.
Its listeners are started and stopped in order; each has a connection of its own, whose messages
it handles one after the other. A connection that is closed leaves its listener without messages
and changes nothing else.
-/

namespace Parley.Remote

/-- A listener with the number of its connection. -/
structure Consumer where
  handler : Handler
  phase : Phase := .idle
  connection : Nat := 0

/-- Why the listeners cannot be started: one of them cannot. -/
structure StartFailure where
  listener : String
  error : Error
  deriving DecidableEq, Repr

structure Service where
  config : Config
  rules : Rules
  remote : Remote
  consumers : List Consumer

namespace Service

def rulesOf (config : Config) : Rules :=
  { Rules.ofConfig config.moderation with count := Action.countAtOnce }

/-- The handlers of the listeners, in the order in which they start. -/
def handlers (config : Config) : List Handler :=
  [Fanout.handler, Advancement.handler config.guildProgression Action.findGuildOf]

def create (config : Config) (remote : Remote) : Service where
  config
  rules := rulesOf config
  remote
  consumers := (handlers config).map fun handler => { handler }

def withCache (service : Service) (cache : Redis.Client) : Service :=
  { service with remote := { service.remote with cache } }

def modifyServer (service : Service) (change : Redis.Server → Redis.Server) : Service :=
  let cache := service.remote.cache
  service.withCache { cache with server := change cache.server }

def run {α : Type} (service : Service) (action : Action α) : Except Failure α × Service :=
  let (result, remote) := service.remote.run action
  (result, { service with remote })

def startOne (service : Service) (consumer : Consumer) :
    Except Error (Consumer × Service) :=
  match consumer.phase with
  | .listening => .error (Listener.alreadyListening consumer.handler.name)
  | .stopped => .error (Listener.alreadyStopped consumer.handler.name)
  | .idle => do
    let (connection, cache) ← service.remote.cache.subscribe consumer.handler.patterns
    pure ({ consumer with phase := .listening, connection }, service.withCache cache)

def stopOne (service : Service) (consumer : Consumer) : Consumer × Service :=
  let stopped := { consumer with phase := .stopped }
  match consumer.phase with
  | .listening =>
    (stopped, service.modifyServer (·.modifySubscriber consumer.connection Redis.Server.close))
  | .idle | .stopped => (stopped, service)

def stopAll (service : Service) (consumers : List Consumer) : List Consumer × Service :=
  consumers.foldl (fun (stopped, service) consumer =>
    let (consumer, service) := service.stopOne consumer
    (stopped ++ [consumer], service)) ([], service)

/-- Starts listeners one after the other. When one cannot start, those in `started` are
stopped. -/
def startAll (service : Service) (started : List Consumer) :
    List Consumer → Except StartFailure Unit × Service
  | [] => (.ok (), { service with consumers := started })
  | consumer :: rest =>
    match service.startOne consumer with
    | .ok (consumer, service) => startAll service (started ++ [consumer]) rest
    | .error e =>
      let (stopped, service) := service.stopAll started
      (.error ⟨consumer.handler.name, e⟩,
        { service with consumers := stopped ++ consumer :: rest })

def start (service : Service) : Except StartFailure Unit × Service :=
  service.startAll [] service.consumers

def shutdown (service : Service) : Service :=
  let (consumers, service) := service.stopAll service.consumers
  { service with consumers }

/-- The messages that wait to be handled. -/
def backlog (service : Service) : Nat :=
  (service.remote.cache.server.subscribers.map (·.inbox.length)).foldl (· + ·) 0

/-- Handles a message, and how that ended. -/
def handle (service : Service) (consumer : Consumer) (message : Message) :
    Option EventOutcome × Service :=
  match Payload.ofBody message.body with
  | .error _ => (some .decodeError, service)
  | .ok payload =>
    let (result, service) := service.run (consumer.handler.handle message.topic payload)
    (Listener.outcome result, service)

/-- The first listener for which a message waits. -/
def nextMessage? (service : Service) : Option (Consumer × Message × Service) :=
  service.consumers.findSome? fun consumer =>
    if consumer.phase != .listening then none
    else (service.remote.cache.server.next? consumer.connection).map fun (message, server) =>
      (consumer, message, service.modifyServer fun _ => server)

/-- Handles at most `bound` messages. -/
def drainWithin : Nat → Service → Service
  | 0, service => service
  | bound + 1, service =>
    match service.nextMessage? with
    | none => service
    | some (consumer, message, service) =>
      let (outcome, service) := service.handle consumer message
      let tally (outcome : EventOutcome) : Service :=
        let remote := service.remote
        let metrics := remote.metrics.add (.events consumer.handler.name outcome)
        { service with remote := { remote with metrics } }
      drainWithin bound ((outcome.map tally).getD service)

/-- Handles the messages that wait and those that follow from them. The rise of a guild is
announced to the listener for notifications, and what that one announces has no listener, so a
message is followed by two others at most. -/
def drain (service : Service) : Service := drainWithin (3 * service.backlog) service

/-- Handles what waits, and lets a millisecond pass. -/
def endStep (service : Service) : Service :=
  let service := service.drain
  { service with remote := { service.remote with clock := service.remote.clock + 1 } }

end Service

end Parley.Remote
