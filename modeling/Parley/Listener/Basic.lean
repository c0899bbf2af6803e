import Parley.Listener.Handler

/-!
# Listeners

A listener takes the messages of the bus one by one and hands those that its handler wants to the
handler. It starts once, from idle, and stops for good. The event in hand when it is told to stop
is finished; messages that were not taken up by then are not handled.
-/

namespace Parley

inductive Phase where
  | idle | listening | stopped
  deriving DecidableEq, Repr

/-- An event in hand: what is left to do, and when that goes on or is given up. -/
structure Job where
  rest : Flow (Except Failure Handled)
  /-- Whether the delay of the next request has passed. -/
  delayed : Bool
  wake : Nat
  deadline : Nat

structure Listener where
  handler : Handler
  /-- The milliseconds that an event may take. -/
  timeout : Nat
  phase : Phase := .idle
  /-- The number of the next message to take. -/
  position : Nat := 0
  job : Option Job := none
  /-- Told to stop. -/
  cancelled : Bool := false
  /-- Fallen silent because a handler was aborted. -/
  broken : Bool := false

namespace Listener

def name (listener : Listener) : String := listener.handler.name

/-- The error of starting a listener of this name a second time. -/
def alreadyListening (name : String) : Error :=
  .invalidState ("subscriber " ++ name ++ " is already listening")

/-- The error of starting a listener of this name after it was stopped. -/
def alreadyStopped (name : String) : Error :=
  .invalidState ("subscriber " ++ name ++ " has been stopped")

/-- Listens to everything published from now on. -/
def begin (listener : Listener) (bus : Bus) : Listener :=
  { listener with phase := .listening, position := bus.size }

def finish (listener : Listener) : Listener :=
  { listener with phase := .stopped, job := none }

/-- The outcome of an event whose handling ended; none for one that was aborted. -/
def outcome : Except Failure Handled → Option EventOutcome
  | .ok .processed => some .processed
  | .ok .skipped => some .skipped
  | .error (.refused _) => some .failed
  | .error .aborted => none

/-- The time at which the event in hand goes on or is given up. -/
def due? (listener : Listener) : Option Nat :=
  listener.job.map fun job => min job.wake job.deadline

end Listener

end Parley
