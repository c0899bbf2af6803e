import Parley.Listener.Handler

/-!
# Recorders

A handler that takes its time, notes the topic of the event, and ends in a given way. It shows
what a listener hands on and when.
-/

namespace Parley

/-- How a recorder ends. -/
inductive Recorder.Ending where
  | handled (result : Handled)
  | failed (error : Error)
  | aborted
  deriving DecidableEq, Repr

structure Recorder where
  name : String
  patterns : List String
  /-- Where the topics are noted. -/
  key : String
  /-- The milliseconds that an event takes. -/
  delay : Nat
  ending : Recorder.Ending

namespace Recorder

def conclude : Ending → Action Handled
  | .handled result => pure result
  | .failed error => Action.fail error
  | .aborted => Action.abort

def handler (recorder : Recorder) : Handler where
  name := recorder.name
  patterns := recorder.patterns
  handle topic _ := do
    Action.ask (.pause recorder.delay)
    Action.ask (.note recorder.key topic)
    conclude recorder.ending

end Recorder

end Parley
