import Parley.Proofs.Session.Flows

/-!
# What a listener does

A listener that has begun reads messages one by one, goes on with the event that it has in hand, is
told to stop and finishes. Each of these is a step of the session, `Session.Does`, and its deed says
what has become of the event: it was ignored, it was settled with an outcome that is counted, it is
still held, or the handler was aborted and the listener has fallen silent. Whatever a step does with
an event, it does by answering requests of the flow that handles it: `Session.Works`.
-/

namespace Parley

/-- What has become of an event at one instant. -/
inductive Fate where
  | ignored
  | settled (outcome : EventOutcome)
  | held
  | silenced
  deriving DecidableEq

/-- The outcome that was counted. -/
def Fate.outcome? : Fate → Option EventOutcome
  | settled outcome => some outcome
  | _ => none

/-- A step of a listener. Messages are told apart by their numbers on the bus; `stood` is the
position of the listener when it read, and `size` is how many messages had been published. -/
inductive Deed where
  | read (stood size number : Nat) (fate : Fate)
  | resumed (number : Nat) (fate : Fate)
  | cancelled
  | finished (size : Nat)
  deriving DecidableEq

/-- How a listener is left by an event. -/
inductive Fate.Leaves (listener : Listener) : Fate → Listener → Prop
  | ignored : Leaves listener .ignored listener
  | settled (outcome : EventOutcome) :
    Leaves listener (.settled outcome) { listener with job := none }
  | held (job : Job) : Leaves listener .held { listener with job := some job }
  | silenced : Leaves listener .silenced { listener with job := none, broken := true }

/-- An event changes neither what a listener listens to nor its place. -/
theorem Fate.Leaves.kept {listener left : Listener} {fate : Fate} (leaves : fate.Leaves listener left) :
    left.handler = listener.handler ∧ left.position = listener.position := by
  cases leaves <;> exact ⟨rfl, rfl⟩

namespace Listener

/-- The listener takes up messages. -/
structure Attends (listener : Listener) : Prop where
  listening : listener.phase = .listening
  sound : listener.broken = false
  free : listener.job = none
  uncancelled : listener.cancelled = false

/-- The listener with everything before a position behind it. -/
def movedTo (listener : Listener) (position : Nat) : Listener := { listener with position }

/-- What is done for a message. -/
def flowFor (listener : Listener) (message : Message) : Flow (Except Failure Handled) :=
  if listener.handler.wants message.topic then
    match Payload.ofBody message.body with
    | .ok payload => (listener.handler.handle message.topic payload).run
    | .error _ => .done (.ok .skipped)
  else .done (.ok .skipped)

variable {listener : Listener}

theorem asks_flowFor {p : Request → Prop}
    (asks : ∀ topic payload, (listener.handler.handle topic payload).Asks p) (message : Message) :
    Course.Asks p (listener.flowFor message) := by
  rw [flowFor]
  split
  · split
    · exact asks _ _
    · trivial
  · trivial

theorem wants_or_skips (listener : Listener) (message : Message) :
    listener.handler.wants message.topic ∨ listener.flowFor message = .done (.ok .skipped) := by
  rw [flowFor]
  split
  · exact .inl ‹_›
  · exact .inr rfl

theorem ends_flowFor {p : Except Failure Handled → Prop} (skips : p (.ok .skipped))
    (ends : ∀ topic payload, Course.Ends p (listener.handler.handle topic payload).run)
    (message : Message) : Course.Ends p (listener.flowFor message) := by
  rw [flowFor]
  split
  · split
    · exact ends _ _
    · exact skips
  · exact skips

end Listener

/-- The world after the outcome of an event was counted. -/
def World.counted (world : World) (name : String) : Fate → World
  | .settled outcome => { world with metrics := world.metrics.add (.events name outcome) }
  | _ => world

/-- A message is read at the position of the reader or, when that has fallen out of the ring, at the
oldest message kept. -/
theorem Bus.read?_eq_some {bus : Bus} {stood position : Nat} {message : Message}
    (h : bus.read? stood = some (message, position)) :
    position = max stood bus.oldest + 1 ∧ bus.messages[position - 1]? = some message := by
  rw [Bus.read?, Option.map_eq_some_iff] at h
  obtain ⟨found, listed, same⟩ := h
  obtain ⟨rfl, rfl⟩ := Prod.mk.inj same
  exact ⟨rfl, listed⟩

theorem World.count_counted (world : World) (name : String) (fate : Fate) (outcome : EventOutcome) :
    (world.counted name fate).metrics.count (.events name outcome) =
      world.metrics.count (.events name outcome) + if fate = .settled outcome then 1 else 0 := by
  cases fate with
  | settled other =>
    refine (Tally.count_add _ _ _).trans (congrArg _ ?_)
    simp
  | _ => rfl

theorem World.count_counted_of_ne (world : World) {name other : String} (apart : name ≠ other)
    (fate : Fate) (outcome : EventOutcome) :
    (world.counted name fate).metrics.count (.events other outcome) =
      world.metrics.count (.events other outcome) := by
  cases fate with
  | settled counted =>
    refine (Tally.count_add _ _ _).trans ?_
    rw [if_neg fun same => apart (Metric.events.inj same).1, Nat.add_zero]
  | _ => rfl

namespace Session

/-- What has become of an event whose handling got so far. -/
def fateOf (session : Session) (deadline : Nat) : Progress (Except Failure Handled) → Fate
  | .finished result => (Listener.outcome result).elim .silenced .settled
  | .waiting .. => if deadline ≤ session.clock then .settled .timeout else .held

/-- What becomes of a message that is taken up. -/
def fateOfMessage (session : Session) (listener : Listener) (message : Message) : Fate :=
  if listener.handler.wants message.topic then
    match Payload.ofBody message.body with
    | .error _ => .settled .decodeError
    | .ok payload =>
      let (progress, after) :=
        session.proceed (listener.handler.handle message.topic payload).run false
      after.fateOf (after.clock + listener.timeout) progress
  else .ignored

/-- The steps of the listener with this number. -/
inductive Does (index : Nat) (session : Session) : Deed → Session → Prop
  | read {listener : Listener} {message : Message} {position : Nat}
    (found : session.listener? index = some listener) (attends : listener.Attends)
    (next : session.world.bus.read? listener.position = some (message, position)) :
    Does index session
      (.read listener.position session.world.bus.size (position - 1)
        ((session.setListener index (listener.movedTo position)).fateOfMessage
          (listener.movedTo position) message))
      ((session.setListener index (listener.movedTo position)).take index
        (listener.movedTo position) message)
  | resume {listener : Listener} {job : Job} (found : session.listener? index = some listener)
    (inHand : listener.job = some job) (due : job.wake ≤ session.clock) :
    Does index session
      (.resumed (listener.position - 1)
        ((session.proceed job.rest job.delayed).2.fateOf job.deadline
          (session.proceed job.rest job.delayed).1))
      ((session.proceed job.rest job.delayed).2.enter index listener job.deadline
        (session.proceed job.rest job.delayed).1)
  | await {listener : Listener} {job : Job} (found : session.listener? index = some listener)
    (inHand : listener.job = some job) (early : session.clock < job.wake) :
    Does index session
      (.resumed (listener.position - 1)
        (session.fateOf job.deadline (.waiting job.wake job.rest job.delayed)))
      (session.enter index listener job.deadline (.waiting job.wake job.rest job.delayed))
  | cancel {listener : Listener} (found : session.listener? index = some listener) :
    Does index session .cancelled (session.setListener index { listener with cancelled := true })
  | finish {listener : Listener} (found : session.listener? index = some listener)
    (free : listener.job = none) :
    Does index session (.finished session.world.bus.size)
      (session.setListener index listener.finish)

/-- A step on an event: requests of a flow are answered, and the listener is left as the fate of the
event says, with the rest of the flow in hand if there is one. -/
structure Works (index : Nat) (listener : Listener) (flow : Flow (Except Failure Handled))
    (session : Session) (fate : Fate) (after : Session) : Prop where
  works : ∃ (rest : Flow (Except Failure Handled)) (gone : Session) (left : Listener),
    Goes flow session rest gone ∧ fate.Leaves listener left ∧
    (fate = .held → ∃ job, left.job = some job ∧ job.rest = rest) ∧
    (fate = .silenced → rest = .done (.error .aborted)) ∧
    after = { gone with
      listeners := gone.listeners.set index left
      world := gone.world.counted listener.name fate }

variable {session after : Session} {index : Nat} {listener : Listener} {deed : Deed}

theorem listener?_setListener {found : Listener} (h : session.listener? index = some found)
    (listener : Listener) : (session.setListener index listener).listener? index = some listener :=
  List.getElem?_set_self (List.getElem?_eq_some_iff.mp h).1

theorem listener?_setListener_of_ne {other : Nat} (apart : index ≠ other) (listener : Listener) :
    (session.setListener index listener).listener? other = session.listener? other :=
  List.getElem?_set_ne apart

theorem setListener_self (h : session.listener? index = some listener) :
    session.listeners.set index listener = session.listeners := by
  obtain ⟨within, rfl⟩ := List.getElem?_eq_some_iff.mp h
  exact List.set_getElem_self within

/-- An event that is settled leaves nothing in hand. -/
theorem Goes.settles {flow rest : Flow (Except Failure Handled)} {gone : Session}
    (goes : Goes flow session rest gone) (index : Nat) (listener : Listener) (outcome : EventOutcome) :
    Works index listener flow session (.settled outcome)
      { gone with
        listeners := gone.listeners.set index { listener with job := none }
        world := gone.world.counted listener.name (.settled outcome) } :=
  ⟨rest, gone, _, goes, .settled outcome, nofun, nofun, rfl⟩

/-- An event that is ignored leaves everything as it is. -/
theorem works_ignored (found : session.listener? index = some listener)
    (flow : Flow (Except Failure Handled)) :
    Works index listener flow session .ignored session :=
  ⟨flow, session, listener, .stays flow session, .ignored, nofun, nofun,
    congrArg (fun listeners => { session with listeners }) (setListener_self found).symm⟩

/-- What is entered is what has become of the event. -/
theorem works_enter (index : Nat) (listener : Listener) {flow : Flow (Except Failure Handled)}
    {gone : Session} {progress : Progress (Except Failure Handled)}
    (goes : Goes flow session progress.left gone) (deadline : Nat) :
    Works index listener flow session (gone.fateOf deadline progress)
      (gone.enter index listener deadline progress) := by
  cases progress with
  | finished result =>
    rw [enter, settle, fateOf]
    cases ended : Listener.outcome result with
    | some outcome => exact goes.settles index listener outcome
    | none =>
      have aborted : result = .error .aborted := by
        rcases result with ⟨_ | _⟩ | ⟨_ | _⟩ <;> first | rfl | cases ended
      subst aborted
      exact ⟨_, gone, _, goes, .silenced, Fate.noConfusion, fun _ => rfl, rfl⟩
  | waiting wake rest delayed =>
    rw [enter, fateOf]
    by_cases expired : deadline ≤ gone.clock
    · rw [if_pos expired, if_pos expired]
      exact goes.settles index listener .timeout
    · rw [if_neg expired, if_neg expired]
      exact ⟨_, gone, _, goes, .held _, fun _ => ⟨_, rfl, rfl⟩, Fate.noConfusion, rfl⟩

/-- An event in hand goes on. -/
theorem works_resume (index : Nat) (listener : Listener) (job : Job) (session : Session) :
    Works index listener job.rest session
      ((session.proceed job.rest job.delayed).2.fateOf job.deadline
        (session.proceed job.rest job.delayed).1)
      ((session.proceed job.rest job.delayed).2.enter index listener job.deadline
        (session.proceed job.rest job.delayed).1) :=
  works_enter index listener (goes_proceed job.rest job.delayed session) job.deadline

/-- An event in hand waits or is given up. -/
theorem works_await (index : Nat) (listener : Listener) (job : Job) (session : Session) :
    Works index listener job.rest session
      (session.fateOf job.deadline (.waiting job.wake job.rest job.delayed))
      (session.enter index listener job.deadline (.waiting job.wake job.rest job.delayed)) :=
  works_enter index listener (.stays (Progress.waiting job.wake job.rest job.delayed).left session)
    job.deadline

/-- A message that is taken up is ignored, or worked on by the flow for it. -/
theorem works_take (found : session.listener? index = some listener) (free : listener.job = none)
    (message : Message) :
    Works index listener (listener.flowFor message) session (session.fateOfMessage listener message)
      (session.take index listener message) := by
  rw [take, Listener.flowFor, fateOfMessage]
  by_cases wanted : listener.handler.wants message.topic
  · rw [wanted, if_pos rfl, if_pos rfl]
    cases Payload.ofBody message.body with
    | ok payload => exact works_enter _ _ (goes_proceed _ _ _) _
    | error e =>
      have unchanged : session.listeners.set index { listener with job := none }
          = session.listeners := by
        rw [← free]
        exact setListener_self found
      have works := (Goes.stays (.done (.ok .skipped)) session).settles index listener .decodeError
      rw [unchanged] at works
      exact works
  · rw [if_neg wanted, if_neg wanted, if_pos (by simpa using wanted)]
    exact works_ignored found _

theorem fateOf_ne_ignored (session : Session) (deadline : Nat)
    (progress : Progress (Except Failure Handled)) : session.fateOf deadline progress ≠ .ignored := by
  cases progress with
  | finished result =>
    rw [fateOf]
    cases Listener.outcome result <;> exact Fate.noConfusion
  | waiting wake rest delayed =>
    rw [fateOf]
    split <;> exact Fate.noConfusion

theorem fateOfMessage_eq_ignored (session : Session) (listener : Listener) (message : Message) :
    session.fateOfMessage listener message = .ignored ↔
      listener.handler.wants message.topic = false := by
  rw [fateOfMessage]
  split
  · next wanted =>
    refine iff_of_false ?_ (ne_false_of_eq_true wanted)
    split
    · exact Fate.noConfusion
    · exact fateOf_ne_ignored _ _ _
  · next unwanted => exact iff_of_true rfl (Bool.not_eq_true _ ▸ unwanted)

namespace Works

variable {flow : Flow (Except Failure Handled)} {fate : Fate}

theorem precedes (works : Works index listener flow session fate after) :
    session.world.bus.Precedes after.world.bus := by
  obtain ⟨rest, gone, left, goes, -, -, -, rfl⟩ := works
  have same : (gone.world.counted listener.name fate).bus = gone.world.bus := by
    cases fate <;> rfl
  exact same ▸ goes.precedes

/-- A relation between worlds that the requests of the flow respect, up to the counting. -/
theorem respects (works : Works index listener flow session fate after) {p : Request → Prop}
    {r : World → World → Prop} (refl : ∀ world, r world world)
    (trans : ∀ {a b c}, r a b → r b c → r a c)
    (step : ∀ request, p request → ∀ world, r world (request.perform world).2)
    (asks : Course.Asks p flow) :
    ∃ gone, r session.world gone ∧ after.world = gone.counted listener.name fate := by
  obtain ⟨rest, gone, left, goes, -, -, -, rfl⟩ := works
  exact ⟨gone.world, goes.respects refl trans step asks, rfl⟩

theorem listener?_of_ne (works : Works index listener flow session fate after) {other : Nat}
    (apart : index ≠ other) : after.listener? other = session.listener? other := by
  obtain ⟨rest, gone, left, goes, -, -, -, rfl⟩ := works
  exact (List.getElem?_set_ne apart).trans (congrArg (·[other]?) goes.listeners)

/-- What is then in hand was in hand before or is the rest of the flow. -/
theorem listener? (works : Works index listener flow session fate after)
    (found : session.listener? index = some listener) :
    ∃ left, after.listener? index = some left ∧ fate.Leaves listener left ∧
      (∀ job ∈ left.job, job ∈ listener.job ∨ ∃ gone, Goes flow session job.rest gone) ∧
      (fate = .silenced → ∃ gone, Goes flow session (.done (.error .aborted)) gone) := by
  obtain ⟨rest, gone, left, goes, leaves, holding, aborted, rfl⟩ := works
  have listed : gone.listener? index = some listener :=
    (congrArg (·[index]?) goes.listeners).trans found
  refine ⟨left, listener?_setListener listed left, leaves, ?_, fun silenced => ?_⟩
  · cases leaves with
    | ignored => exact fun job inHand => .inl inHand
    | held job =>
      obtain ⟨_, same, rfl⟩ := holding rfl
      exact fun other inHand => .inr ⟨gone, Option.some.inj (same.symm.trans inHand) ▸ goes⟩
    | _ => exact fun _ inHand => absurd inHand (Option.not_mem_none _)
  · exact ⟨gone, aborted silenced ▸ goes⟩

/-- An outcome is counted once if the event is settled with it, and else not at all. -/
theorem count (works : Works index listener flow session fate after) {outcome : EventOutcome}
    (quiet : Course.Asks (· ≠ .tally (.events listener.name outcome)) flow) :
    after.world.metrics.count (.events listener.name outcome) =
      session.world.metrics.count (.events listener.name outcome) +
        if fate = .settled outcome then 1 else 0 := by
  obtain ⟨gone, kept, same⟩ := works.respects
    (r := fun world later => later.metrics.count (.events listener.name outcome) =
      world.metrics.count (.events listener.name outcome))
    (fun _ => rfl) (fun first second => second.trans first)
    (fun request other world => Request.count_perform other world) quiet
  rw [same, World.count_counted, kept]

end Works

/-- A step of a listener leaves the others alone. -/
theorem Does.listener?_of_ne (does : Does index session deed after) {other : Nat}
    (apart : index ≠ other) : after.listener? other = session.listener? other := by
  cases does with
  | @read listener message position found attends next =>
    have moved := listener?_setListener found (listener.movedTo position)
    exact ((works_take moved attends.free message).listener?_of_ne apart).trans
      (listener?_setListener_of_ne apart _)
  | resume found inHand due => exact (works_resume _ _ _ _).listener?_of_ne apart
  | await found inHand early => exact (works_await _ _ _ _).listener?_of_ne apart
  | cancel found => exact listener?_setListener_of_ne apart _
  | finish found free => exact listener?_setListener_of_ne apart _

/-- A step of a listener removes nothing from the bus. -/
theorem Does.precedes (does : Does index session deed after) :
    session.world.bus.Precedes after.world.bus := by
  cases does with
  | @read listener message position found attends next =>
    have moved := listener?_setListener found (listener.movedTo position)
    exact (works_take moved attends.free message).precedes
  | @resume listener job found inHand due => exact (works_resume index listener job session).precedes
  | @await listener job found inHand early => exact (works_await index listener job session).precedes
  | cancel found => exact .refl _
  | finish found free => exact .refl _

/-- Listeners take steps one after the other. Between them the clock is set, and listeners take their
places among those that wait or are ready. -/
inductive Unfolds (session : Session) : List (Nat × Deed) → Session → Prop
  | start : Unfolds session [] session
  | did {deeds : List (Nat × Deed)} {index : Nat} {deed : Deed} {here after : Session}
    (unfolds : Unfolds session deeds here) (does : Does index here deed after) :
    Unfolds session (deeds ++ [(index, deed)]) after
  | passed {deeds : List (Nat × Deed)} {here : Session} (unfolds : Unfolds session deeds here)
    (clock : Nat) (waiting ready : List Nat) :
    Unfolds session deeds { here with world := { here.world with clock }, waiting, ready }

theorem Unfolds.append {deeds more : List (Nat × Deed)} {here : Session}
    (first : Unfolds session deeds here)
    (second : Unfolds here more after) : Unfolds session (deeds ++ more) after := by
  induction second with
  | start => rwa [List.append_nil]
  | did unfolds does ih => exact List.append_assoc .. ▸ ih.did does
  | passed unfolds clock waiting ready ih => exact ih.passed clock waiting ready

/-- The session that steps of its listeners lead to. -/
def Reaches (session after : Session) : Prop := ∃ deeds, Unfolds session deeds after

namespace Reaches

variable {here : Session}

theorem refl (session : Session) : Reaches session session := ⟨[], .start⟩

theorem trans (first : Reaches session here) (second : Reaches here after) :
    Reaches session after := by
  obtain ⟨deeds, first⟩ := first
  obtain ⟨more, second⟩ := second
  exact ⟨deeds ++ more, first.append second⟩

theorem does (does : Does index session deed after) : Reaches session after := ⟨_, .did .start does⟩

theorem queued (session : Session) (waiting ready : List Nat) :
    Reaches session { session with waiting, ready } :=
  ⟨_, Unfolds.start.passed session.clock waiting ready⟩

theorem setClock (session : Session) (time : Nat) : Reaches session (session.setClock time) :=
  ⟨_, Unfolds.start.passed time session.waiting session.ready⟩

end Reaches

/-- In its turn a listener reads message after message, or finishes when it was told to stop. -/
theorem reaches_turn (index bound : Nat) (session : Session) :
    Reaches session (turn index bound session) := by
  induction bound generalizing session with
  | zero => exact .queued session _ _
  | succ bound ih =>
    rw [turn]
    cases found : session.listener? index with
    | none => exact .refl session
    | some listener =>
      dsimp only
      split
      · exact .refl session
      · next able =>
        push Not at able
        obtain ⟨listening, sound, free⟩ := able
        have sound : listener.broken = false := by simpa using sound
        have free : listener.job = none := by simpa using free
        by_cases told : listener.cancelled
        · rw [if_pos told]
          exact .does (.finish found free)
        · rw [if_neg told]
          split
          · exact .queued session _ _
          · next message position next =>
            have attends : listener.Attends := ⟨listening, sound, free, by simpa using told⟩
            exact (Reaches.does (.read found attends next)).trans (ih _)

theorem reaches_settleReady (bound : Nat) (session : Session) :
    Reaches session (settleReady bound session) := by
  induction bound generalizing session with
  | zero => exact .refl session
  | succ bound ih =>
    rw [settleReady]
    split
    · exact .refl session
    · next index ready _ =>
      exact ((Reaches.queued session _ ready).trans (reaches_turn _ _ _)).trans (ih _)

theorem reaches_drain (session : Session) : Reaches session session.drain :=
  reaches_settleReady _ session

/-- When the event in hand goes on or is given up, the listener has its turn at once. -/
theorem reaches_resume (session : Session) (index : Nat) :
    Reaches session (session.resume index) := by
  rw [resume]
  cases found : session.listener? index with
  | none => exact .refl session
  | some listener =>
    cases inHand : listener.job with
    | none =>
      dsimp only
      rw [inHand]
      exact .refl session
    | some job =>
      dsimp only
      rw [inHand]
      dsimp only
      split
      · next due => exact (Reaches.does (.resume found inHand due)).trans (reaches_turn _ _ _)
      · next early =>
        have awaits := Does.await found inHand (Nat.lt_of_not_le early)
        exact (Reaches.does awaits).trans (reaches_turn _ _ _)

theorem reaches_moveTo (time bound : Nat) (session : Session) :
    Reaches session (moveTo time bound session) := by
  induction bound generalizing session with
  | zero => exact .setClock session time
  | succ bound ih =>
    rw [moveTo]
    split
    · exact .setClock session time
    · next due index _ =>
      split
      · exact (((Reaches.setClock session _).trans (reaches_resume _ index)).trans
          (reaches_drain _)).trans (ih _)
      · exact .setClock session time

theorem reaches_pass (ms : Nat) (session : Session) : Reaches session (session.pass ms) :=
  reaches_moveTo _ _ session

theorem reaches_awaitJob (index bound : Nat) (session : Session) :
    Reaches session (awaitJob index bound session) := by
  induction bound generalizing session with
  | zero => exact .refl session
  | succ bound ih =>
    rw [awaitJob]
    split
    · exact .refl session
    · split
      · exact .refl session
      · next due next _ =>
        exact (((Reaches.setClock session _).trans (reaches_resume _ next)).trans
          (reaches_drain _)).trans (ih _)

end Session

end Parley
