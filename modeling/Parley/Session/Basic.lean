import Parley.Flow.Outage
import Parley.Listener.Basic

/-!
# Sessions

A session is a world with listeners in it, whose time is counted and not measured. Requests can
be made to fail or to take time. A request is answered at the instant at which its delay ends.

Listeners take turns: one that waits for a message becomes ready when one is published, and a
ready one goes on until it has to wait. Time passes only when all of them wait; then the delays
and timeouts that fall due do so in the order of time.
-/

namespace Parley

structure Session where
  world : World := {}
  outages : List (Target × Outage) := []
  delays : List (Target × Nat) := []
  listeners : List Listener := []
  /-- The listeners that wait for a message, the longest waiting first. -/
  waiting : List Nat := []
  /-- The listeners that can go on, in the order of their turns. -/
  ready : List Nat := []

namespace Session

variable {α : Type}

def clock (session : Session) : Nat := session.world.clock

def setClock (session : Session) (time : Nat) : Session :=
  { session with world := { session.world with clock := time } }

def tally (session : Session) (metric : Metric) : Session :=
  { session with world := { session.world with metrics := session.world.metrics.add metric } }

def injected (target : Target) : Error := .database ("injected " ++ Named.name target)

/-- Makes requests of a target fail, in place of what was set for it before. -/
def setOutage (session : Session) (target : Target) (outage : Outage) : Session :=
  { session with outages := (target, outage) :: session.outages.filter (·.1 != target) }

/-- Makes requests of a target take time. -/
def setDelay (session : Session) (target : Target) (ms : Nat) : Session :=
  { session with delays := (target, ms) :: session.delays.filter (·.1 != target) }

def delayOf (session : Session) (target : Target) : Nat :=
  ((session.delays.find? (·.1 == target)).map Prod.snd).getD 0

/-- The delay of a request. -/
def delay (session : Session) (request : Request) : Nat :=
  (request.refusal?.map fun (target, _) => session.delayOf target).getD 0

/-- Whether a request of a target fails now. -/
def meetOutage (session : Session) (target : Target) : Bool × Session :=
  match session.outages.find? (·.1 == target) with
  | none => (false, session)
  | some (_, outage) =>
    let (fails, left) := outage.meet
    (fails, session.setOutage target left)

/-- Wakes the listeners that wait for a message. -/
def wakeAll (session : Session) : Session :=
  { session with ready := session.ready ++ session.waiting, waiting := [] }

/-- Answers a request whose delay has passed. -/
def answer (session : Session) (request : Request) : request.Answer × Session :=
  let perform (session : Session) : request.Answer × Session :=
    let (answer, world) := request.perform session.world
    let published := session.world.bus.size < world.bus.size
    let session := { session with world }
    (answer, if published then session.wakeAll else session)
  match request.refusal? with
  | none => perform session
  | some (target, refuse) =>
    let (fails, session) := session.meetOutage target
    if fails then (refuse (injected target), session) else perform session

/-- How far a flow got at one instant. -/
inductive Progress (α : Type) where
  | finished (value : α)
  | waiting (wake : Nat) (rest : Flow α) (delayed : Bool)

/-- Goes on with a flow until it ends or has to wait. -/
def proceed (flow : Flow α) (delayed : Bool) (session : Session) : Progress α × Session :=
  match flow with
  | .done value => (.finished value, session)
  | .ask request next =>
    let delay := if delayed then 0 else session.delay request
    if 0 < delay then (.waiting (session.clock + delay) (.ask request next) true, session)
    else match request, next with
      | .pause (ms + 1), next => (.waiting (session.clock + ms + 1) (next ()) false, session)
      | request, next =>
        let (answer, session) := session.answer request
        proceed (next answer) false session

def listener? (session : Session) (index : Nat) : Option Listener := session.listeners[index]?

def setListener (session : Session) (index : Nat) (listener : Listener) : Session :=
  { session with listeners := session.listeners.set index listener }

/-- Enters how the handling of an event ended. -/
def settle (session : Session) (index : Nat) (listener : Listener)
    (result : Except Failure Handled) : Session :=
  match Listener.outcome result with
  | some outcome =>
    (session.setListener index { listener with job := none }).tally
      (.events listener.name outcome)
  | none => session.setListener index { listener with job := none, broken := true }

/-- Enters what a listener did at one instant: it ended its event, gave it up because its time is
over, or waits. -/
def enter (session : Session) (index : Nat) (listener : Listener) (deadline : Nat) :
    Progress (Except Failure Handled) → Session
  | .finished result => session.settle index listener result
  | .waiting wake rest delayed =>
    if deadline ≤ session.clock then
      (session.setListener index { listener with job := none }).tally
        (.events listener.name .timeout)
    else session.setListener index { listener with job := some ⟨rest, delayed, wake, deadline⟩ }

/-- Takes up a message. -/
def take (session : Session) (index : Nat) (listener : Listener) (message : Message) : Session :=
  if !listener.handler.wants message.topic then session
  else match Payload.ofBody message.body with
    | .error _ => session.tally (.events listener.name .decodeError)
    | .ok payload =>
      let (progress, session) :=
        session.proceed (listener.handler.handle message.topic payload).run false
      session.enter index listener (session.clock + listener.timeout) progress

/-- The turn of a listener without an event in hand: it takes up message after message, at most
`bound` of them, until one makes it wait or none is left. -/
def turn (index : Nat) : Nat → Session → Session
  | 0, session => { session with ready := session.ready ++ [index] }
  | bound + 1, session =>
    match session.listener? index with
    | none => session
    | some listener =>
      if listener.phase ≠ .listening ∨ listener.broken ∨ listener.job.isSome then session
      else if listener.cancelled then session.setListener index listener.finish
      else match session.world.bus.read? listener.position with
        | none => { session with waiting := session.waiting ++ [index] }
        | some (message, position) =>
          let listener := { listener with position }
          turn index bound ((session.setListener index listener).take index listener message)

/-- More messages than a listener can find in one turn. -/
def turnBound (session : Session) : Nat := 2 * session.world.bus.size + 4

/-- Lets the ready listeners have their turns, at most `bound` of them. -/
def settleReady : Nat → Session → Session
  | 0, session => session
  | bound + 1, session =>
    match session.ready with
    | [] => session
    | index :: ready => settleReady bound (turn index session.turnBound { session with ready })

/-- Lets the listeners go on until all of them wait. -/
def drain (session : Session) : Session :=
  settleReady ((session.listeners.length + 1) * (session.world.bus.size + 2)) session

/-- The listener whose event goes on or is given up next, and when. -/
def nextDue? (session : Session) : Option (Nat × Nat) :=
  session.listeners.zipIdx.foldl (fun best (listener, index) =>
    match listener.due?, best with
    | none, _ => best
    | some time, none => some (time, index)
    | some time, some (earliest, _) => if time < earliest then some (time, index) else best) none

/-- Goes on with the event that a listener has in hand. -/
def resume (session : Session) (index : Nat) : Session :=
  match session.listener? index with
  | none => session
  | some listener =>
    match listener.job with
    | none => session
    | some job =>
      let session :=
        if job.wake ≤ session.clock then
          let (progress, session) := session.proceed job.rest job.delayed
          session.enter index listener job.deadline progress
        else session.enter index listener job.deadline (.waiting job.wake job.rest job.delayed)
      turn index session.turnBound session

/-- Moves to a time, letting at most `bound` delays and timeouts fall due on the way. -/
def moveTo (time : Nat) : Nat → Session → Session
  | 0, session => session.setClock time
  | bound + 1, session =>
    match session.nextDue? with
    | none => session.setClock time
    | some (due, index) =>
      if due ≤ time then
        moveTo time bound
          (((session.setClock (max due session.clock)).resume index).drain)
      else session.setClock time

/-- Lets so many milliseconds pass. Within one of them a listener waits at most once. -/
def pass (ms : Nat) (session : Session) : Session :=
  moveTo (session.clock + ms) ((ms + 1) * (session.listeners.length + 1)) session

/-- Carries out a flow while the listeners go on with theirs. -/
def runFlow (flow : Flow α) (session : Session) : α × Session :=
  match flow with
  | .done value => (value, session)
  | .ask request next =>
    let delay := session.delay request
    let session := if 0 < delay then pass delay session.drain else session
    match request, next with
    | .pause ms, next => runFlow (next ()) (pass ms session.drain)
    | request, next =>
      let (answer, session) := session.answer request
      runFlow (next answer) session

def run (action : Action α) (session : Session) : Except Failure α × Session :=
  runFlow (ExceptT.run action) session

/-- Ends a step: the listeners go on until all of them wait, and a millisecond passes. -/
def endStep (session : Session) : Session := pass 1 session.drain

end Session

end Parley
