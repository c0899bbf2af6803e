import Parley.Config.Basic
import Parley.Error
import Parley.Redis.Address
import Parley.Redis.Server

/-!
# Clients of a key-value server

A client sends its commands on a connection that it first tries out; one that does not answer is
replaced by a new one. Each command may take a limited time. A reply that never comes blocks the
connection, and every command after it.
-/

namespace Parley.Redis

structure Client where
  server : Server
  /-- The milliseconds that a command may take. -/
  timeout : Nat
  blocked : Bool := false

namespace Client

variable {α : Type}

/-- How many connections may turn out to be dead. -/
def deadConnections (server : Server) : Nat :=
  (server.faults.map fun fault =>
    if fault.command = Command.ping.name then fault.outage.times.getD 0 else 0).foldl (· + ·) 0

/-- Tries out connections, at most `bound` of them, until one answers. -/
def findConnection : Nat → Server → Bool × Server
  | 0, server => (false, server)
  | bound + 1, server =>
    match server.receive .ping with
    | (.bulk "PONG", server) => (true, server)
    | (.silent, server) => (false, server)
    | (_, server) => findConnection bound server

def checkout (server : Server) : Bool × Server :=
  findConnection (deadConnections server + 1) server

/-- Connects to the server that an address leads to, if it leads to one. -/
def connect (settings : Config.Redis) (reach : String → Option Server) : Except Error Client :=
  if !isAddress settings.url then .error (.cache "Failed to create Redis manager")
  else match reach settings.url with
    | none =>
      .error (.cache (if settings.minIdle = 0 then "Failed to get Redis connection"
        else "Failed to create Redis pool"))
    | some server =>
      let (alive, server) := checkout server
      if !alive then .error (.cache "Failed to get Redis connection")
      else match server.receive .ping with
        | (.bulk _, server) | (.integer _, server) =>
          .ok { server, timeout := settings.commandTimeoutMs }
        | _ => .error (.cache "Redis ping failed")

def timedOut (client : Client) : Error :=
  .timeout ("Redis command timeout (" ++ toString client.timeout ++ "ms)")

/-- Hands a command to a server, after the script that it needs if the server does not know it. -/
def hand (command : Command) (server : Server) : Reply × Server :=
  match server.receive command with
  | (.unknownScript, server) =>
    let (reply, server) := server.receive .loadScript
    if reply.isAnswer then server.receive command else (reply, server)
  | answer => answer

/-- Sends a command. A reply that `read` does not take is an error called after the command. -/
def send (client : Client) (command : Command) (label : String) (read : Reply → Option α) :
    Except Error α × Client :=
  let late (server : Server) : Except Error α × Client :=
    (.error client.timedOut, { client with server, blocked := true })
  if client.blocked then (.error client.timedOut, client)
  else match checkout client.server with
    | (false, server) => late server
    | (true, server) =>
      match hand command server with
      | (.silent, server) => late server
      | (reply, server) =>
        ((read reply).elim (.error (.cache ("Redis " ++ label ++ " failed"))) .ok,
          { client with server })

def number? : Reply → Option Int
  | .integer value => some value
  | .bulk text => Server.number? text
  | _ => none

def optionalNumber? : Reply → Option (Option Int)
  | .nothing => some none
  | reply => (number? reply).map some

def anything? (reply : Reply) : Option Unit := if reply.isAnswer then some () else none

/-- Lifetimes are whole seconds, at least one. -/
def secondsOf (ms : Nat) : Nat := max (ms / 1000) 1

def get (client : Client) (key : String) : Except Error (Option Int) × Client :=
  client.send (.get key) "GET" optionalNumber?

def increment (client : Client) (key : String) : Except Error Int × Client :=
  client.send (.increment key) "INCR" number?

def expire (client : Client) (key : String) (ttl : Nat) : Except Error Unit × Client :=
  client.send (.expire key (secondsOf ttl)) "EXPIRE" anything?

def countInWindow (client : Client) (key : String) (window : Nat) : Except Error Int × Client :=
  client.send (.countInWindow key (secondsOf window)) "INCR window script" number?

def delete (client : Client) (key : String) : Except Error Unit × Client :=
  client.send (.delete key) "DEL" anything?

def publish (client : Client) (message : Message) : Except Error Unit × Client :=
  client.send (.publish message) "PUBLISH" anything?

/-- Subscribes a connection to one more pattern; one that the server refuses is passed over. -/
def addPattern (index : Nat) (server : Server) (pattern : String) : Except Error Server :=
  match server.receive (.subscribe pattern) with
  | (.closed, _) => .error (.cache ("Redis PSUBSCRIBE " ++ pattern ++ " failed"))
  | (.failed, server) | (.unknownScript, server) => .ok server
  | (_, server) =>
    .ok (server.modifySubscriber index fun s => { s with patterns := s.patterns ++ [pattern] })

/-- Opens a connection of its own for the messages that match some patterns. -/
def subscribe (client : Client) (patterns : List String) : Except Error (Nat × Client) := do
  let (index, server) := client.server.openSubscriber
  pure (index, { client with server := ← patterns.foldlM (addPattern index) server })

end Client

end Parley.Redis
