import Parley.Flow.Basic
import Parley.Event.Payload

/-!
# Handlers of events

A handler has a name, the topic patterns that it listens to, and an action for each event.
-/

namespace Parley

/-- How a handler dealt with an event. -/
inductive Handled where
  | processed | skipped
  deriving DecidableEq, Repr

def Handled.name : Handled → String
  | processed => "processed"
  | skipped => "skipped"

structure Handler where
  name : String
  patterns : List String
  handle : String → Payload → Action Handled

namespace Handler

/-- Whether a topic is one that the handler listens to. -/
def wants (handler : Handler) (topic : String) : Bool :=
  handler.patterns.any (Glob.accepts · topic)

end Handler

end Parley
