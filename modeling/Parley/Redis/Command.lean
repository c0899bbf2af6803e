import Parley.Event.Bus

/-!
# Commands of a key-value server

The commands that counters and messages are made of, and the replies to them. Lifetimes of keys
are given in whole seconds.
-/

namespace Parley.Redis

inductive Command where
  | ping
  | get (key : String)
  | increment (key : String)
  | expire (key : String) (seconds : Nat)
  /-- Counts up, and sets a lifetime if the key has none, by a script that the server has to
  know. -/
  | countInWindow (key : String) (seconds : Nat)
  | loadScript
  | delete (key : String)
  | publish (message : Message)
  | subscribe (pattern : String)
  deriving DecidableEq, Repr

inductive Reply where
  | integer (value : Int)
  | bulk (text : String)
  | nothing
  | failed
  /-- The server does not know the script of the command. -/
  | unknownScript
  /-- The connection is closed instead of a reply. -/
  | closed
  /-- No reply ever comes. -/
  | silent
  deriving DecidableEq, Repr

namespace Reply

/-- The reply that the text of an error makes. -/
def ofError (text : String) : Reply :=
  if text = "NOSCRIPT" ∨ text.startsWith "NOSCRIPT " then unknownScript else failed

/-- Whether the command has been carried out. -/
def isAnswer : Reply → Bool
  | integer _ | bulk _ | nothing => true
  | failed | unknownScript | closed | silent => false

end Reply

/-- What is carried out at once to count in a window. -/
def windowScript : String :=
  "local count = redis.call('INCR', KEYS[1]) if redis.call('TTL', KEYS[1]) == -1 then " ++
  "redis.call('EXPIRE', KEYS[1], ARGV[1]) end return count"

namespace Command

/-- The name under which the command is sent first. -/
def name : Command → String
  | ping => "PING"
  | get _ => "GET"
  | increment _ => "INCR"
  | expire .. => "EXPIRE"
  | countInWindow .. => "EVALSHA"
  | loadScript => "SCRIPT"
  | delete _ => "DEL"
  | publish _ => "PUBLISH"
  | subscribe _ => "PSUBSCRIBE"

/-- The command as it is carried out: its name and its arguments. -/
def words : Command → List Body
  | get key => [.text "GET", .text key]
  | increment key => [.text "INCR", .text key]
  | expire key seconds => [.text "EXPIRE", .text key, .text (toString seconds)]
  | countInWindow key seconds =>
    [.text "EVAL", .text windowScript, .text "1", .text key, .text (toString seconds)]
  | delete key => [.text "DEL", .text key]
  | publish message => [.text "PUBLISH", .text message.topic, message.body]
  | subscribe pattern => [.text "PSUBSCRIBE", .text pattern]
  | ping => [.text "PING"]
  | loadScript => [.text "SCRIPT", .text "LOAD", .text windowScript]

end Command

end Parley.Redis
