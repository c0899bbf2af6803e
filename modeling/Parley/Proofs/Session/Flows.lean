import Parley.Proofs.Flow.Effects
import Parley.Session.Lifecycle

/-!
# Flows of a session

A session answers the requests of a flow one by one until the flow ends or has to wait. Answers
change the world only, and messages are only ever added to the bus. What holds of a flow and its
session and is kept by each answer holds when the flow comes to rest.
-/

namespace Parley

namespace Bus

/-- The bus at some later time: more may have been published, and nothing else has changed. -/
structure Precedes (bus later : Bus) : Prop where
  capacity : later.capacity = bus.capacity
  messages : bus.messages.toList <+: later.messages.toList

variable {bus later last : Bus}

theorem Precedes.refl (bus : Bus) : bus.Precedes bus := ⟨rfl, List.prefix_refl _⟩

theorem Precedes.trans (first : bus.Precedes later) (second : later.Precedes last) :
    bus.Precedes last :=
  ⟨second.capacity.trans first.capacity, first.messages.trans second.messages⟩

theorem precedes_publish (bus : Bus) (message : Message) : bus.Precedes (bus.publish message) := by
  refine ⟨rfl, ?_⟩
  rw [publish, Array.toList_push]
  exact List.prefix_append _ _

theorem Precedes.size_le (h : bus.Precedes later) : bus.size ≤ later.size := by
  have shorter := h.messages.length_le
  rwa [Array.length_toList, Array.length_toList] at shorter

/-- A message keeps its number. -/
theorem Precedes.getElem? (h : bus.Precedes later) {number : Nat} (within : number < bus.size) :
    later.messages[number]? = bus.messages[number]? := by
  obtain ⟨sent, same⟩ := h.messages
  rw [← Array.getElem?_toList, ← Array.getElem?_toList, ← same]
  exact List.getElem?_append_left (by rwa [Array.length_toList])

theorem Precedes.getElem?_eq_some (h : bus.Precedes later) {number : Nat} {message : Message}
    (listed : bus.messages[number]? = some message) : later.messages[number]? = some message :=
  (h.getElem? (Array.getElem?_eq_some_iff.mp listed).1).trans listed

/-- What was published goes on behind the messages before. -/
theorem getElem?_of_append {sent : List Message}
    (published : later.messages.toList = bus.messages.toList ++ sent) {number : Nat}
    (late : bus.size ≤ number) : later.messages[number]? = sent[number - bus.size]? := by
  rw [← Array.getElem?_toList, published]
  exact List.getElem?_append_right (by rwa [Array.length_toList])

theorem size_of_append {sent : List Message}
    (published : later.messages.toList = bus.messages.toList ++ sent) :
    later.size = bus.size + sent.length := by
  have length := congrArg List.length published
  rwa [List.length_append, Array.length_toList, Array.length_toList] at length

end Bus

theorem Request.precedes_perform (request : Request) (world : World) :
    world.bus.Precedes (request.perform world).2.bus := by
  rw [bus_perform]
  cases request.message? with
  | none => exact .refl _
  | some message => exact world.bus.precedes_publish message

namespace Session

variable {α : Type} {session : Session}

theorem meetOutage_snd (session : Session) (target : Target) :
    ∃ outages, (session.meetOutage target).2 = { session with outages } := by
  rw [meetOutage]
  split
  · exact ⟨_, rfl⟩
  · exact ⟨_, rfl⟩

/-- An answer leaves the listeners alone, and either carries the request out or refuses it. -/
theorem answer_cases (session : Session) (request : Request) :
    (session.answer request).2.listeners = session.listeners ∧
    (session.answer request).2.delays = session.delays ∧
    ((session.answer request).1 = (request.perform session.world).1 ∧
        (session.answer request).2.world = (request.perform session.world).2 ∨
      (session.answer request).2.world = session.world ∧ request.refusal?.isSome) := by
  rw [answer]
  cases refusable : request.refusal? with
  | none =>
    dsimp only
    refine ⟨?_, ?_, .inl ⟨rfl, ?_⟩⟩ <;> split <;> rfl
  | some target =>
    obtain ⟨target, refuse⟩ := target
    obtain ⟨outages, met⟩ := session.meetOutage_snd target
    dsimp only
    rw [met]
    cases (session.meetOutage target).1 with
    | true => exact ⟨rfl, rfl, .inr ⟨rfl, rfl⟩⟩
    | false =>
      refine ⟨?_, ?_, .inl ⟨rfl, ?_⟩⟩ <;> simp only [Bool.false_eq_true, if_false] <;> split <;> rfl

@[simp] theorem listeners_answer (session : Session) (request : Request) :
    (session.answer request).2.listeners = session.listeners :=
  (session.answer_cases request).1

theorem precedes_answer (session : Session) (request : Request) :
    session.world.bus.Precedes (session.answer request).2.world.bus := by
  rcases (session.answer_cases request).2.2 with ⟨-, performed⟩ | ⟨refused, -⟩
  · exact performed ▸ request.precedes_perform session.world
  · exact refused ▸ .refl _

/-- Some requests of a flow are answered one after the other. -/
inductive Goes : Flow α → Session → Flow α → Session → Prop
  | stays (flow : Flow α) (session : Session) : Goes flow session flow session
  | answered {request : Request} {next : request.Answer → Flow α} {session after : Session}
    {rest : Flow α} (goes : Goes (next (session.answer request).1) (session.answer request).2 rest after) :
    Goes (.ask request next) session rest after
  | paused {ms : Nat} {next : Unit → Flow α} {session after : Session} {rest : Flow α}
    (goes : Goes (next ()) session rest after) : Goes (.ask (.pause ms) next) session rest after

/-- What is left of a flow. -/
def Progress.left : Progress α → Flow α
  | .finished value => .done value
  | .waiting _ rest _ => rest

theorem goes_proceed (flow : Flow α) (delayed : Bool) (session : Session) :
    Goes flow session (session.proceed flow delayed).1.left (session.proceed flow delayed).2 := by
  induction flow generalizing delayed session with
  | done value => exact .stays _ _
  | ask request next ih =>
    unfold proceed
    dsimp only
    generalize (if delayed = true then 0 else session.delay request) = delay
    by_cases waits : 0 < delay
    · rw [if_pos waits]
      exact .stays _ _
    · rw [if_neg waits]
      split
      · exact .paused (.stays _ _)
      · exact .answered (ih _ _ _)

namespace Goes

variable {flow rest : Flow α} {after : Session}

theorem listeners (goes : Goes flow session rest after) : after.listeners = session.listeners := by
  induction goes with
  | stays flow session => rfl
  | answered goes ih => exact ih.trans (listeners_answer _ _)
  | paused goes ih => exact ih

theorem precedes (goes : Goes flow session rest after) :
    session.world.bus.Precedes after.world.bus := by
  induction goes with
  | stays flow session => exact .refl _
  | answered goes ih => exact (precedes_answer _ _).trans ih
  | paused goes ih => exact ih

/-- The requests that are left are of the same kind. -/
theorem asks {p : Request → Prop} (goes : Goes flow session rest after)
    (asks : Course.Asks p flow) : Course.Asks p rest := by
  induction goes with
  | stays flow session => exact asks
  | answered goes ih => exact ih (asks.2 _)
  | paused goes ih => exact ih (asks.2 ())

theorem ends {p : α → Prop} (goes : Goes flow session rest after) (ends : Course.Ends p flow) :
    Course.Ends p rest := by
  induction goes with
  | stays flow session => exact ends
  | answered goes ih => exact ih (ends _)
  | paused goes ih => exact ih (ends ())

/-- A relation between worlds that all requests of the flow respect. -/
theorem respects {p : Request → Prop} {r : World → World → Prop} (refl : ∀ world, r world world)
    (trans : ∀ {a b c}, r a b → r b c → r a c)
    (step : ∀ request, p request → ∀ world, r world (request.perform world).2)
    (goes : Goes flow session rest after) (asks : Course.Asks p flow) :
    r session.world after.world := by
  induction goes with
  | stays flow session => exact refl _
  | @answered request next session after rest goes ih =>
    refine trans ?_ (ih (asks.2 _))
    rcases (session.answer_cases request).2.2 with ⟨-, performed⟩ | ⟨refused, -⟩
    · exact performed ▸ step request asks.1 session.world
    · exact refused ▸ refl _
  | paused goes ih => exact ih (asks.2 ())

end Goes

end Session

end Parley
