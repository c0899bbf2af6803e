import Parley.Flow.Outage
import Parley.Redis.Command
import Parley.Store.Table
import Parley.Text.Digit
import Parley.Word

/-!
# Key-value servers

A server keeps texts under keys, some of them for a lifetime in seconds, and hands messages on to
the subscribers with a matching pattern: once for each such pattern. Commands of a kind can be
given a reply of their own for a while; they are then not carried out.
-/

namespace Parley.Redis

structure Entry where
  key : String
  value : String
  /-- The second at which the entry is gone. -/
  deadline : Option Nat
  deriving DecidableEq, Repr

namespace Entry

def isLive (entry : Entry) (now : Nat) : Bool :=
  (entry.deadline.map fun t => decide (now < t)).getD true

end Entry

/-- A reply that commands of a name are given for a while. -/
structure Fault where
  command : String
  outage : Outage
  reply : Reply
  deriving DecidableEq, Repr

/-- A connection on which messages arrive. -/
structure Subscriber where
  patterns : List String := []
  inbox : List Message := []
  isOpen : Bool := true
  deriving DecidableEq, Repr

structure Server where
  /-- Counted in seconds. -/
  clock : Nat := 0
  entries : List Entry := []
  faults : List Fault := []
  subscribers : List Subscriber := []
  /-- Whether the script that counts in a window has been loaded. -/
  knowsScript : Bool := false
  /-- The commands carried out or refused, latest first. -/
  received : List Command := []
  deriving Repr

namespace Server

def find? (server : Server) (key : String) : Option Entry :=
  (Table.find? Entry.key key server.entries).filter (·.isLive server.clock)

def put (server : Server) (entry : Entry) : Server :=
  { server with entries := Table.put Entry.key entry server.entries }

/-- The live entries, by their keys. -/
def liveEntries (server : Server) : List Entry :=
  (server.entries.filter (·.isLive server.clock)).mergeSort fun a b => !(b.key < a.key)

/-- A number of 64 bits in decimal. -/
def number? (text : String) : Option Int :=
  (Text.integer? text.toList).filter Word.isInt64

/-- Adds one to the number under a key, none counting as zero. -/
def increment? (server : Server) (key : String) : Option (Int × Server) :=
  match server.find? key with
  | none => some (1, server.put ⟨key, "1", none⟩)
  | some entry => do
    let value := (← number? entry.value) + 1
    if Word.isInt64 value then some (value, server.put { entry with value := toString value })
    else none

def expire (server : Server) (key : String) (seconds : Nat) : Server :=
  match server.find? key with
  | none => server
  | some entry => server.put { entry with deadline := some (server.clock + seconds) }

def delete (server : Server) (key : String) : Server :=
  { server with entries := server.entries.filter (·.key != key) }

/-- How often a subscriber is sent a message on a topic. -/
def deliveries (topic : String) (subscriber : Subscriber) : Nat :=
  if subscriber.isOpen then subscriber.patterns.countP (Glob.accepts · topic) else 0

/-- Hands a message on, and how often. -/
def publish (server : Server) (message : Message) : Nat × Server :=
  ((server.subscribers.map (deliveries message.topic)).foldl (· + ·) 0,
    { server with
      subscribers := server.subscribers.map fun subscriber =>
        { subscriber with
          inbox := subscriber.inbox ++
            List.replicate (deliveries message.topic subscriber) message } })

/-- Opens a connection for messages, and its number. -/
def openSubscriber (server : Server) : Nat × Server :=
  (server.subscribers.length, { server with subscribers := server.subscribers ++ [{}] })

def modifySubscriber (server : Server) (index : Nat) (change : Subscriber → Subscriber) : Server :=
  { server with subscribers := server.subscribers.modify index change }

def close (subscriber : Subscriber) : Subscriber :=
  { subscriber with isOpen := false, inbox := [] }

/-- Closes all connections for messages. -/
def closeSubscribers (server : Server) : Server :=
  { server with subscribers := server.subscribers.map close }

/-- The next message of a connection. -/
def next? (server : Server) (index : Nat) : Option (Message × Server) :=
  match (server.subscribers[index]?).map (·.inbox) with
  | some (message :: inbox) =>
    some (message, server.modifySubscriber index ({ · with inbox }))
  | _ => none

/-- The reply that a command is given without being carried out. -/
def meetFault : String → List Fault → Option Reply × List Fault
  | _, [] => (none, [])
  | name, fault :: faults =>
    if fault.command = name ∧ fault.outage.times ≠ some 0 then
      let (fails, outage) := fault.outage.meet
      (if fails then some fault.reply else none, { fault with outage } :: faults)
    else
      let (reply, faults) := meetFault name faults
      (reply, fault :: faults)

/-- Carries out a command. -/
def perform (server : Server) : Command → Reply × Server
  | .ping => (.bulk "PONG", server)
  | .get key => ((server.find? key).elim .nothing (.bulk ·.value), server)
  | .increment key =>
    match server.increment? key with
    | some (value, server) => (.integer value, server)
    | none => (.failed, server)
  | .expire key seconds =>
    (.integer (if (server.find? key).isSome then 1 else 0), server.expire key seconds)
  | .countInWindow key seconds =>
    if !server.knowsScript then (.unknownScript, server)
    else match server.increment? key with
      | none => (.failed, server)
      | some (value, server) =>
        if (server.find? key).any (·.deadline.isNone) then
          (.integer value, server.expire key seconds)
        else (.integer value, server)
  | .loadScript => (.nothing, { server with knowsScript := true })
  | .delete key => (.integer (if (server.find? key).isSome then 1 else 0), server.delete key)
  | .publish message =>
    let (count, server) := server.publish message
    (.integer count, server)
  | .subscribe _ => (.nothing, server)

/-- Whether a command appears among those received: one that runs a script only if it is known. -/
def isNoted (server : Server) : Command → Bool
  | .ping | .loadScript => false
  | .countInWindow .. => server.knowsScript
  | _ => true

def note (server : Server) (command : Command) : Server :=
  if server.isNoted command then { server with received := command :: server.received } else server

/-- Receives a command. -/
def receive (server : Server) (command : Command) : Reply × Server :=
  let (fault, faults) := meetFault command.name server.faults
  let server := { server with faults }.note command
  match fault with
  | some reply => (reply, server)
  | none => server.perform command

end Server

end Parley.Redis
