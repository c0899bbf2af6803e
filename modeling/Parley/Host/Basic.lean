import Parley.CommandLine.Parser
import Parley.Flow.Course
import Parley.Host.File
import Parley.Log.Filter
import Parley.Net.SocketAddress
import Parley.Remote.Service

/-!
# What a program asks of its host

A program is a course of queries to the host it runs on: to look things up, to write, to connect
to servers and to run the service on them. It ends with nothing to say, or early with an ending.
-/

namespace Parley.Host

inductive Query where
  | lookUp (variableName : String)
  | inspect (path : String)
  | write (path content : String)
  | makeFolder (path : String)
  /-- From here on records are written; before, they are dropped. -/
  | openLog (setup : Log.Setup)
  | log (record : Log.Record)
  | print (text : String)
  | connectCache (settings : Config.Redis)
  /-- Connects to the database of the service, and tries the connection out. -/
  | connectDatabase (settings : Config.Database)
  /-- Connects to a database for statements. -/
  | dial (url : String)
  | send (statement : Sql.Statement)
  /-- Serves the metrics. -/
  | expose (address : Net.SocketAddress)
  /-- Starts the service on the servers that were connected to. -/
  | start (config : Config)
  | awaitInterrupt
  | stop

abbrev Query.Answer : Query → Type
  | lookUp _ => Option String
  | inspect _ => FileState
  | write _ _ | makeFolder _ | openLog _ | dial _ | expose _ => Bool
  | log _ | print _ | awaitInterrupt | stop => Unit
  | connectCache _ | connectDatabase _ => Except Error Unit
  | send _ => Sql.Reply
  | start _ => Except Remote.StartFailure Unit

/-- Why a program ends early. -/
inductive Ending where
  | misused (refusal : Refusal)
  | failed (reason : String)
  /-- The reason was logged. -/
  | gaveUp
  | aborted
  deriving DecidableEq, Repr

namespace Ending

/-- The exit code. -/
def code : Ending → Nat
  | failed _ | gaveUp => 1
  | misused _ => 2
  | aborted => 101

/-- What is reported besides the exit code. -/
def report? : Ending → Option String
  | failed reason => some ("Error: " ++ reason)
  | misused _ | gaveUp | aborted => none

end Ending

/-- A routine for a host. -/
abbrev Routine (α : Type) := ExceptT Ending (Course Query.Answer) α

namespace Routine

variable {α : Type}

def ask (query : Query) : Routine query.Answer := ExceptT.lift (Course.query query)

/-- Prints a line. -/
def say (line : String) : Routine Unit := ask (.print (line ++ "\n"))

def log (level : Log.Level) (target text : String) : Routine Unit :=
  ask (.log ⟨level, target, text⟩)

/-- Ends with a reason unless something succeeded. -/
def require (succeeded : Bool) (reason : String) : Routine Unit :=
  if succeeded then pure () else throw (.failed reason)

/-- Carries out an exchange with the database that was dialled. -/
def exchange (exchange : Sql.Exchange α) (reason : String) : Routine α := do
  let sent := (ExceptT.run exchange).via fun statement => Course.query (.send statement)
  match ← ExceptT.lift sent with
  | .ok value => pure value
  | .error _ => throw (.failed reason)

end Routine

end Parley.Host
