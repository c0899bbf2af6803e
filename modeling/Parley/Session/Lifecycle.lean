import Parley.Guild.Advancement
import Parley.Notice.Fanout
import Parley.Session.Basic

/-!
# Starting and stopping

The service has two listeners of its own, the one for notifications and the one for guilds. They
are started in this order; when one cannot start, those before it are stopped again. Other
listeners can be added.
-/

namespace Parley

namespace Session

/-- Adds a listener, and its number. -/
def add (session : Session) (handler : Handler) (timeout : Nat) : Nat × Session :=
  (session.listeners.length,
    { session with listeners := session.listeners ++ [{ handler, timeout }] })

/-- Starts a listener that is idle. -/
def start (index : Nat) (session : Session) : Except Error Unit × Session :=
  match session.listener? index with
  | none => (.ok (), session)
  | some listener =>
    match listener.phase with
    | .listening => (.error (Listener.alreadyListening listener.name), session)
    | .stopped => (.error (Listener.alreadyStopped listener.name), session)
    | .idle =>
      let delay := session.delayOf .busSubscribe
      let session := if 0 < delay then pass delay session.drain else session
      let (fails, session) := session.meetOutage .busSubscribe
      if fails then (.error (injected .busSubscribe), session)
      else
        let session := session.setListener index (listener.begin session.world.bus)
        (.ok (), { session with ready := session.ready ++ [index] })

/-- Lets time pass until a listener has no event in hand. -/
def awaitJob (index : Nat) : Nat → Session → Session
  | 0, session => session
  | bound + 1, session =>
    match (session.listener? index).bind (·.job) with
    | none => session
    | some _ =>
      match session.nextDue? with
      | none => session
      | some (due, next) =>
        awaitJob index bound ((session.setClock (max due session.clock)).resume next).drain

/-- Stops a listener, after the event that it has in hand. -/
def stop (index : Nat) (session : Session) : Session :=
  match session.listener? index with
  | none => session
  | some listener =>
    let session :=
      match listener.job with
      | none => session
      | some job =>
        let session := (session.setListener index { listener with cancelled := true }).drain
        awaitJob index
          ((job.deadline - session.clock + 1) * (session.listeners.length + 1)) session
    match session.listener? index with
    | none => session
    | some listener =>
      { session.setListener index listener.finish with
        waiting := session.waiting.filter (· != index)
        ready := session.ready.filter (· != index) }

/-- Whether a listener is listening. -/
def isListening (session : Session) (index : Nat) : Bool :=
  ((session.listener? index).map (·.phase == .listening)).getD false

/-- The topics noted under a name, oldest first. -/
def noted (session : Session) (name : String) : List String :=
  (session.world.notes.filter (·.1 == name)).map Prod.snd

end Session

/-- The service: its settings, and the session in which it runs. -/
structure Service where
  config : Config
  rules : Rules
  session : Session

namespace Service

/-- The numbers of the listeners of the service, in the order in which they start. -/
def ownListeners : List Nat := [0, 1]

def create (config : Config) (bus : Bus) : Service :=
  let timeout := config.subscriber.processingTimeoutMs
  { config
    rules := Rules.ofConfig config.moderation
    session := {
      world := { bus }
      listeners := [{ handler := Fanout.handler, timeout },
        { handler := Advancement.handler config.guildProgression, timeout }] } }

/-- Starts listeners one after the other. When one fails, those in `started` are stopped. -/
def startAll (started : List Nat) : List Nat → Session → Except Error Unit × Session
  | [], session => (.ok (), session)
  | index :: rest, session =>
    match session.start index with
    | (.ok (), session) => startAll (started ++ [index]) rest session
    | (.error e, session) => (.error e, started.foldl (fun s i => s.stop i) session)

def start (service : Service) : Except Error Unit × Service :=
  let (result, session) := startAll [] ownListeners service.session
  (result, { service with session })

def shutdown (service : Service) : Service :=
  { service with session := ownListeners.foldl (fun s i => s.stop i) service.session }

end Service

end Parley
