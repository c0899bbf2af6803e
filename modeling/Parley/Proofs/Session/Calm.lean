import Parley.Proofs.Listener.Deeds

/-!
# Calm sessions

Where no request fails and none takes time, a flow that does not pause is carried out at one
instant, as in a world that nobody else changes. So a listener that reads a message has treated it
when its step is over.
-/

namespace Parley

/-- What becomes of a message that is treated at one instant, and the world after it. -/
def Handler.treat (handler : Handler) (message : Message) (world : World) : Fate × World :=
  if handler.wants message.topic then
    match Payload.ofBody message.body with
    | .error _ => (.settled .decodeError, world)
    | .ok payload =>
      let (result, world) := (handler.handle message.topic payload).perform world
      ((Listener.outcome result).elim .silenced .settled, world)
  else (.ignored, world)

/-- The handler never lets time pass. -/
def Handler.Prompt (handler : Handler) : Prop := ∀ topic payload,
  (handler.handle topic payload).Asks fun request => ∀ ms, request ≠ .pause ms

namespace Session

variable {α : Type} {session after : Session}

/-- No request fails, and none takes time. -/
structure Calm (session : Session) : Prop where
  outages : session.outages = []
  delays : session.delays = []

theorem Calm.answer (calm : session.Calm) (request : Request) :
    (session.answer request).1 = (request.perform session.world).1 ∧
      (session.answer request).2.world = (request.perform session.world).2 ∧
      (session.answer request).2.Calm := by
  have met : ∀ target, session.meetOutage target = (false, session) := by
    intro target
    rw [meetOutage, calm.outages]
    rfl
  rw [Session.answer]
  cases request.refusal? with
  | none =>
    dsimp only
    refine ⟨rfl, ?_, ?_⟩ <;> split <;> first | rfl | exact ⟨calm.outages, calm.delays⟩
  | some refusal =>
    dsimp only
    rw [met]
    rw [if_neg Bool.false_ne_true]
    refine ⟨rfl, ?_, ?_⟩ <;> split <;> first | rfl | exact ⟨calm.outages, calm.delays⟩

theorem Calm.delay (calm : session.Calm) (request : Request) : session.delay request = 0 := by
  rw [Session.delay]
  cases request.refusal? with
  | none => rfl
  | some refusal =>
    obtain ⟨target, refuse⟩ := refusal
    change session.delayOf target = 0
    rw [delayOf, calm.delays]
    rfl

/-- A flow that does not pause is carried out at once. -/
theorem Calm.proceed {flow : Flow α} (calm : session.Calm)
    (prompt : Course.Asks (fun request => ∀ ms, request ≠ .pause ms) flow) :
    (session.proceed flow false).1 = .finished (Flow.run flow session.world).1 ∧
      (session.proceed flow false).2.world = (Flow.run flow session.world).2 ∧
      (session.proceed flow false).2.Calm := by
  induction flow generalizing session with
  | done value => exact ⟨rfl, rfl, calm⟩
  | ask request next ih =>
    obtain ⟨same, world, still⟩ := calm.answer request
    obtain ⟨value, last, quiet⟩ := ih (session.answer request).1 still (prompt.2 _)
    have goes : session.proceed (.ask request next) false =
        (session.answer request).2.proceed (next (session.answer request).1) false := by
      rw [Session.proceed]
      · simp only [calm.delay, Bool.false_eq_true, if_false, Nat.lt_irrefl]
      · intro ms _ pauses
        exact absurd pauses (prompt.1 _)
    rw [goes]
    refine ⟨value.trans ?_, last.trans ?_, quiet⟩ <;> rw [same, world] <;> rfl

variable {index : Nat} {listener : Listener}

/-- When the handling of an event has ended, this is entered. -/
theorem Calm.settle (calm : session.Calm) (found : session.listener? index = some listener)
    (result : Except Failure Handled) :
    (session.settle index listener result).world = session.world.counted listener.name
        ((Listener.outcome result).elim .silenced .settled) ∧
      (session.settle index listener result).Calm ∧
      ∃ left, (session.settle index listener result).listener? index = some left ∧
        ((Listener.outcome result).elim Fate.silenced .settled).Leaves listener left := by
  rw [Session.settle]
  cases Listener.outcome result with
  | none => exact ⟨rfl, ⟨calm.outages, calm.delays⟩, _, listener?_setListener found _, .silenced⟩
  | some outcome =>
    exact ⟨rfl, ⟨calm.outages, calm.delays⟩, _, listener?_setListener found _, .settled outcome⟩

/-- A message that is taken up is treated at once. -/
theorem Calm.take (calm : session.Calm) (found : session.listener? index = some listener)
    (free : listener.job = none) (prompt : listener.handler.Prompt) (message : Message) :
    (session.take index listener message).world =
        (listener.handler.treat message session.world).2.counted listener.name
          (listener.handler.treat message session.world).1 ∧
      (session.take index listener message).Calm ∧
      ∃ left, (session.take index listener message).listener? index = some left ∧
        (listener.handler.treat message session.world).1.Leaves listener left := by
  rw [Session.take, Handler.treat]
  by_cases wanted : listener.handler.wants message.topic
  · rw [wanted, if_pos rfl]
    cases Payload.ofBody message.body with
    | error e =>
      have unchanged : { listener with job := none } = listener := by rw [← free]
      exact ⟨rfl, ⟨calm.outages, calm.delays⟩, listener, found, unchanged ▸ .settled .decodeError⟩
    | ok payload =>
      let flow := (listener.handler.handle message.topic payload).run
      obtain ⟨value, world, still⟩ := calm.proceed (prompt message.topic payload)
      have listed : (session.proceed flow false).2.listener? index = some listener :=
        (congrArg (·[index]?) (goes_proceed flow false session).listeners).trans found
      have ended := still.settle listed (Flow.run flow session.world).1
      rw [world] at ended
      have entered : (session.proceed flow false).2.enter index listener
          ((session.proceed flow false).2.clock + listener.timeout)
          (session.proceed flow false).1 =
          (session.proceed flow false).2.settle index listener (Flow.run flow session.world).1 := by
        rw [value, enter]
      rw [← entered] at ended
      exact ended
  · rw [if_neg wanted, if_pos (by simpa using wanted)]
    exact ⟨rfl, calm, listener, found, .ignored⟩

/-- A step in which a listener reads the message at its position. -/
theorem Calm.does {stood size : Nat} {fate : Fate} (calm : session.Calm)
    (found : session.listener? index = some listener) (prompt : listener.handler.Prompt)
    (does : Does index session (.read stood size stood fate) after) :
    ∃ message, stood = listener.position ∧ session.world.bus.messages[stood]? = some message ∧
      after.world = (listener.handler.treat message session.world).2.counted listener.name
        (listener.handler.treat message session.world).1 ∧
      after.Calm ∧
      ∃ left, after.listener? index = some left ∧
        (listener.handler.treat message session.world).1.Leaves
          (listener.movedTo (stood + 1)) left := by
  generalize same : Deed.read stood size stood fate = deed at does
  cases does with
  | @read acting message position listed attends next =>
    obtain rfl : acting = listener := Option.some.inj (listed.symm.trans found)
    obtain ⟨rfl, -, place, -⟩ := Deed.read.inj same
    obtain ⟨beyond, here⟩ := Bus.read?_eq_some next
    obtain rfl : position = acting.position + 1 := by omega
    have moved := listener?_setListener found (acting.movedTo (acting.position + 1))
    have still : (session.setListener index (acting.movedTo (acting.position + 1))).Calm :=
      ⟨calm.outages, calm.delays⟩
    exact ⟨message, rfl, here, still.take moved attends.free prompt message⟩
  | _ => cases same

end Session

end Parley
