import Mathlib.Data.List.Permutation
import Parley.Listener.Recorder
import Parley.Proofs.Guild.Advancing
import Parley.Proofs.Listener.Reading
import Parley.Proofs.Notice.Fanning

/-!
# What a listener hears

A run of a listener is any sequence of its steps, between which others publish messages, let time
pass and go on with theirs. Along every run it reads in order, each event that was taken up is
settled with one outcome, and that is counted once.
-/

namespace Parley

namespace Handler

/-- The outcomes of the events are counted for the handler, and not by it. -/
def Quiet (handler : Handler) : Prop := ∀ outcome topic payload,
  (handler.handle topic payload).Asks (· ≠ .tally (.events handler.name outcome))

/-- Whatever it is answered, the handler is not aborted. -/
def Steady (handler : Handler) : Prop := ∀ topic payload,
  Course.Ends (· ≠ .error .aborted) (handler.handle topic payload).run

end Handler

/-- The handlers of the service count nothing themselves. -/
theorem Fanout.quiet_handler : handler.Quiet := fun _ =>
  asks_handle nofun nofun (fun _ => nofun) (fun _ => nofun) fun _ => nofun

/-- Neither are they ever aborted. -/
theorem Fanout.steady_handler : handler.Steady := steady_handle

theorem Advancement.quiet_handler (config : Config.GuildProgression) :
    (handler config).Quiet := fun _ =>
  asks_handle config (asks_guildOf nofun (fun _ _ => nofun) fun _ _ => nofun) nofun
    (fun _ _ _ => nofun) fun _ => nofun

theorem Advancement.steady_handler (config : Config.GuildProgression) :
    (handler config).Steady := steady_handle config

namespace Listener

/-- The number of the event that was taken up and is not settled, if there is one: it is still in
hand, or its handler was aborted. -/
def unsettled (listener : Listener) : List Nat :=
  if listener.job.isSome || listener.broken then [listener.position - 1] else []

/-- What is in hand is the rest of what the handler does for an event. -/
structure Carries (listener : Listener) (handler : Handler) : Prop where
  serves : listener.handler = handler
  sound : listener.job.isSome → listener.broken = false
  quiet : handler.Quiet → ∀ job ∈ listener.job, ∀ outcome,
    Course.Asks (· ≠ .tally (.events handler.name outcome)) job.rest
  steady : handler.Steady → listener.broken = false ∧
    ∀ job ∈ listener.job, Course.Ends (· ≠ .error .aborted) job.rest

theorem Carries.of_free {listener : Listener} {handler : Handler}
    (serves : listener.handler = handler) (free : listener.job = none)
    (sound : handler.Steady → listener.broken = false) : listener.Carries handler where
  serves := serves
  sound := fun busy => absurd busy (by simp [free])
  quiet := by simp [free]
  steady := fun steady => ⟨sound steady, by simp [free]⟩

/-- The events of a listener are counted under other names than this one. -/
structure Apart (listener : Listener) (name : String) : Prop where
  named : listener.name ≠ name
  handles : ∀ outcome topic payload,
    (listener.handler.handle topic payload).Asks (· ≠ .tally (.events name outcome))
  inHand : ∀ outcome, ∀ job ∈ listener.job,
    Course.Asks (· ≠ .tally (.events name outcome)) job.rest

end Listener

namespace Session

variable {session after : Session} {index : Nat} {listener : Listener} {handler : Handler}
  {flow : Flow (Except Failure Handled)} {fate : Fate}

namespace Works

theorem left (works : Works index listener flow session fate after)
    (found : session.listener? index = some listener) (carries : listener.Carries handler)
    (quiet : handler.Quiet → ∀ outcome,
      Course.Asks (· ≠ .tally (.events handler.name outcome)) flow)
    (steady : handler.Steady → Course.Ends (· ≠ .error .aborted) flow)
    (sound : listener.broken = false) :
    ∃ left, after.listener? index = some left ∧ fate.Leaves listener left ∧
      left.Carries handler := by
  obtain ⟨left, listed, leaves, inHand, aborted⟩ := works.listener? found
  refine ⟨left, listed, leaves, ?_⟩
  have served : left.handler = handler := by cases leaves <;> exact carries.serves
  refine ⟨served, fun busy => ?_, fun calm job held outcome => ?_, fun calm => ⟨?_, fun job held => ?_⟩⟩
  · cases leaves with
    | silenced => exact absurd busy Bool.false_ne_true
    | _ => exact sound
  · rcases inHand job held with before | ⟨gone, goes⟩
    · exact carries.quiet calm job before outcome
    · exact goes.asks (quiet calm outcome)
  · cases leaves with
    | silenced =>
      obtain ⟨gone, goes⟩ := aborted rfl
      exact absurd rfl (goes.ends (steady calm))
    | _ => exact sound
  · rcases inHand job held with before | ⟨gone, goes⟩
    · exact (carries.steady calm).2 job before
    · exact goes.ends (steady calm)

end Works

/-- What others do: they publish, let time pass and go on with theirs. Nobody else counts the events
of this consumer. -/
structure Elsewhere (index : Nat) (name : String) (session after : Session) : Prop where
  kept : after.listener? index = session.listener? index
  precedes : session.world.bus.Precedes after.world.bus
  uncounted : ∀ outcome, after.world.metrics.count (.events name outcome) =
    session.world.metrics.count (.events name outcome)

/-- The listener with this number goes on step by step while others do what they do. -/
inductive Runs (index : Nat) (name : String) (session : Session) : List Deed → Session → Prop
  | start : Runs index name session [] session
  | did {deeds : List Deed} {deed : Deed} {here after : Session}
    (runs : Runs index name session deeds here) (does : Does index here deed after) :
    Runs index name session (deeds ++ [deed]) after
  | elsewhere {deeds : List Deed} {here after : Session}
    (runs : Runs index name session deeds here) (others : Elsewhere index name here after) :
    Runs index name session deeds after

/-- The events of all other listeners are counted under other names. -/
def OthersApart (session : Session) (index : Nat) (name : String) : Prop :=
  ∀ other listener, index ≠ other → session.listener? other = some listener → listener.Apart name

section Others

variable {name : String} {here : Session} {other : Nat}

theorem Elsewhere.trans (first : Elsewhere index name session here)
    (second : Elsewhere index name here after) : Elsewhere index name session after :=
  ⟨second.kept.trans first.kept, first.precedes.trans second.precedes,
    fun outcome => (second.uncounted outcome).trans (first.uncounted outcome)⟩

theorem Works.elsewhere (works : Works other listener flow session fate after)
    (different : other ≠ index) (named : listener.name ≠ name)
    (asks : ∀ outcome, Course.Asks (· ≠ .tally (.events name outcome)) flow) :
    Elsewhere index name session after := by
  refine ⟨works.listener?_of_ne different, works.precedes, fun outcome => ?_⟩
  obtain ⟨gone, kept, same⟩ := works.respects
    (r := fun world later => later.metrics.count (.events name outcome) =
      world.metrics.count (.events name outcome))
    (fun _ => rfl) (fun first second => second.trans first)
    (fun request other world => Request.count_perform other world) (asks outcome)
  rw [same, World.count_counted_of_ne _ named, kept]

theorem Works.apart (works : Works other listener flow session fate after)
    (found : session.listener? other = some listener) (apart : listener.Apart name)
    (asks : ∀ outcome, Course.Asks (· ≠ .tally (.events name outcome)) flow) :
    ∃ left, after.listener? other = some left ∧ left.Apart name := by
  obtain ⟨left, listed, leaves, inHand, -⟩ := works.listener? found
  have served : left.handler = listener.handler := by cases leaves <;> rfl
  refine ⟨left, listed, ?_, served ▸ apart.handles, fun outcome job held => ?_⟩
  · rw [Listener.name, served]
    exact apart.named
  · rcases inHand job held with before | ⟨gone, goes⟩
    · exact apart.inHand outcome job before
    · exact goes.asks (asks outcome)

/-- What another listener does is done elsewhere. -/
theorem Does.elsewhere {deed : Deed} (does : Does other session deed after)
    (different : other ≠ index) (others : session.OthersApart index name) :
    Elsewhere index name session after ∧
      ∃ left, after.listener? other = some left ∧ left.Apart name := by
  cases does with
  | @read listener message position found attends next =>
    have apart := others other listener different.symm found
    have moved := listener?_setListener found (listener.movedTo position)
    have works := works_take moved attends.free message
    have asks : ∀ outcome, Course.Asks (· ≠ .tally (.events name outcome))
        ((listener.movedTo position).flowFor message) :=
      fun outcome => Listener.asks_flowFor (apart.handles outcome) message
    have step : Elsewhere index name session
        (session.setListener other (listener.movedTo position)) :=
      ⟨listener?_setListener_of_ne different _, .refl _, fun _ => rfl⟩
    exact ⟨step.trans (works.elsewhere different apart.named asks),
      works.apart moved ⟨apart.named, apart.handles, apart.inHand⟩ asks⟩
  | @resume listener job found inHand due =>
    have apart := others other listener different.symm found
    have works := works_resume other listener job session
    have asks := fun outcome => apart.inHand outcome job inHand
    exact ⟨works.elsewhere different apart.named asks, works.apart found apart asks⟩
  | @await listener job found inHand early =>
    have apart := others other listener different.symm found
    have works := works_await other listener job session
    have asks := fun outcome => apart.inHand outcome job inHand
    exact ⟨works.elsewhere different apart.named asks, works.apart found apart asks⟩
  | @cancel listener found =>
    have apart := others other listener different.symm found
    exact ⟨⟨listener?_setListener_of_ne different _, .refl _, fun _ => rfl⟩, _,
      listener?_setListener found _, apart.named, apart.handles, apart.inHand⟩
  | @finish listener found free =>
    have apart := others other listener different.symm found
    exact ⟨⟨listener?_setListener_of_ne different _, .refl _, fun _ => rfl⟩, _,
      listener?_setListener found _, apart.named, apart.handles, fun _ _ inHand =>
        absurd inHand (Option.not_mem_none _)⟩

/-- However the listeners of a session take turns, each of them runs. -/
theorem runs_of_unfolds (others : session.OthersApart index name)
    {deeds : List (Nat × Deed)} (unfolds : Unfolds session deeds after) :
    Runs index name session ((deeds.filter (·.1 = index)).map Prod.snd) after ∧
      after.OthersApart index name := by
  induction unfolds with
  | start => exact ⟨.start, others⟩
  | @did deeds acting deed here after unfolds does ih =>
    obtain ⟨runs, apart⟩ := ih
    rw [List.filter_append, List.map_append]
    by_cases own : acting = index
    · subst own
      refine ⟨?_, fun other listener different found => ?_⟩
      · rw [List.filter_singleton, decide_eq_true rfl]
        exact runs.did does
      · exact apart other listener different ((does.listener?_of_ne different).symm.trans found)
    · obtain ⟨elsewhere, left, listed, still⟩ := does.elsewhere own apart
      refine ⟨?_, fun other listener different found => ?_⟩
      · rw [List.filter_singleton, decide_eq_false own]
        exact (List.append_nil _).symm ▸ runs.elsewhere elsewhere
      · by_cases same : acting = other
        · subst same
          exact Option.some.inj (listed.symm.trans found) ▸ still
        · exact apart other listener different ((does.listener?_of_ne same).symm.trans found)
  | passed unfolds clock waiting ready ih =>
    obtain ⟨runs, apart⟩ := ih
    exact ⟨runs.elsewhere ⟨rfl, .refl _, fun _ => rfl⟩, apart⟩

end Others

/-- What a listener that has just begun in `before` has heard when its deeds have led to `after`. -/
structure Hears (handler : Handler) (before : Session) (deeds : List Deed) (after : Session)
    (listener : Listener) : Prop where
  published : before.world.bus.Precedes after.world.bus
  begun : listener.phase ≠ .idle
  reads : Reads handler before.world.bus.size deeds after.world.bus listener.position
  /-- Each event that was taken up is settled once, the last one perhaps not yet. -/
  once : Deed.takenUp deeds = (Deed.settled deeds).map Prod.fst ++ listener.unsettled
  /-- Each event that was settled is counted once, by its outcome. -/
  counted : handler.Quiet → ∀ outcome,
    after.world.metrics.count (.events handler.name outcome) =
      before.world.metrics.count (.events handler.name outcome) +
        (Deed.settled deeds).countP (·.2 = outcome)
  /-- What was published before the listener finished and not taken up by then never is. -/
  stopped : ∀ size, .finished size ∈ deeds →
    listener.phase = .stopped ∧ listener.job = none ∧ listener.position ≤ size
  /-- Nothing is done on an event after the listener finished. -/
  silent : deeds.Pairwise fun earlier later => earlier.isFinish → later.isOnEvent = false

namespace Hears

variable {before : Session} {deeds : List Deed}

theorem start {timeout : Nat} :
    Hears handler before [] before (Listener.begin { handler, timeout } before.world.bus) where
  published := .refl _
  begun := nofun
  reads := .nothing (Nat.le_refl _)
  once := rfl
  counted := fun _ _ => rfl
  stopped := nofun
  silent := .nil

theorem elsewhere (hears : Hears handler before deeds session listener)
    (others : Elsewhere index handler.name session after) :
    Hears handler before deeds after listener where
  published := hears.published.trans others.precedes
  begun := hears.begun
  reads := hears.reads.later others.precedes
  once := hears.once
  counted := fun quiet outcome => (others.uncounted outcome).trans (hears.counted quiet outcome)
  stopped := hears.stopped
  silent := hears.silent

theorem silent_concat (hears : Hears handler before deeds session listener) {deed : Deed}
    (still : listener.phase = .stopped → listener.job = none → deed.isOnEvent = false) :
    (deeds ++ [deed]).Pairwise fun earlier later => earlier.isFinish → later.isOnEvent = false := by
  refine List.pairwise_append.mpr ⟨hears.silent, List.pairwise_singleton _ _, ?_⟩
  intro earlier listed later last finish
  obtain rfl := List.mem_singleton.mp last
  cases earlier with
  | finished size =>
    obtain ⟨stopped, free, -⟩ := hears.stopped size listed
    exact still stopped free
  | _ => exact absurd finish Bool.false_ne_true

/-- A step on an event is counted as its fate says. -/
theorem counted_concat (hears : Hears handler before deeds session listener) (number : Nat)
    {deed : Deed} {acting : Listener} {here : Session}
    (works : Works index acting flow here fate after) (serves : acting.handler = handler)
    (world : here.world = session.world)
    (settles : deed.settles? = fate.outcome?.map (number, ·))
    (asks : handler.Quiet → ∀ outcome,
      Course.Asks (· ≠ .tally (.events handler.name outcome)) flow) (quiet : handler.Quiet)
    (outcome : EventOutcome) :
    after.world.metrics.count (.events handler.name outcome) =
      before.world.metrics.count (.events handler.name outcome) +
        (Deed.settled (deeds ++ [deed])).countP (·.2 = outcome) := by
  subst serves
  refine (works.count (asks quiet outcome)).trans ?_
  rw [Listener.name, world, hears.counted quiet outcome, Deed.settled_concat, settles, List.countP_append,
    Nat.add_assoc]
  cases fate <;> simp [Fate.outcome?, List.countP_cons]

/-- Work on an event in hand settles it, keeps it in hand or silences the listener. -/
theorem resumed (hears : Hears handler before deeds session listener)
    (carries : listener.Carries handler) {job : Job} (inHand : listener.job = some job)
    (works : Works index listener job.rest session fate after) {left : Listener}
    (leaves : fate.Leaves listener left) (taken : fate ≠ .ignored) :
    Hears handler before (deeds ++ [.resumed (listener.position - 1) fate]) after left := by
  have place : left.position = listener.position := by cases leaves <;> rfl
  have unsettled : listener.unsettled = [listener.position - 1] := by
    rw [Listener.unsettled, inHand, Option.isSome_some, Bool.true_or, if_pos rfl]
  constructor
  · exact hears.published.trans works.precedes
  · cases leaves <;> exact hears.begun
  · rw [place]
    exact (hears.reads.later works.precedes).other fun _ _ _ _ => Deed.noConfusion
  · rw [Deed.takenUp_concat, Deed.settled_concat, hears.once, unsettled]
    cases leaves with
    | ignored => exact absurd rfl taken
    | _ => simp [Deed.takesUp?, Deed.settles?, Fate.outcome?, Listener.unsettled, carries.sound, inHand]
  · exact hears.counted_concat (listener.position - 1) works carries.serves rfl rfl
      fun quiet => carries.quiet quiet job inHand
  · intro size listed
    rcases List.mem_append.mp listed with early | last
    · obtain ⟨-, free, -⟩ := hears.stopped size early
      cases inHand.symm.trans free
    · cases List.mem_singleton.mp last
  · exact hears.silent_concat fun _ free =>
      absurd (inHand.symm.trans free) (Option.some_ne_none _)

theorem read (hears : Hears handler before deeds session listener)
    (carries : listener.Carries handler) (attends : listener.Attends) {message : Message}
    {position : Nat} (next : session.world.bus.read? listener.position = some (message, position))
    (works : Works index (listener.movedTo position)
      ((listener.movedTo position).flowFor message)
      (session.setListener index (listener.movedTo position)) fate after) {left : Listener}
    (leaves : fate.Leaves (listener.movedTo position) left)
    (taken : fate = .ignored ↔ listener.handler.wants message.topic = false) :
    Hears handler before
      (deeds ++ [.read listener.position session.world.bus.size (position - 1) fate]) after left := by
  have place : left.position = position := by cases leaves <;> rfl
  have unsettled : listener.unsettled = [] := by
    rw [Listener.unsettled, attends.free, attends.sound]
    rfl
  have free := attends.free
  have sound := attends.sound
  constructor
  · exact hears.published.trans works.precedes
  · cases leaves <;> exact hears.begun
  · rw [place]
    exact (hears.reads.read next (carries.serves ▸ taken)).later works.precedes
  · rw [Deed.takenUp_concat, Deed.settled_concat, hears.once, unsettled]
    cases leaves <;>
      simp [Deed.takesUp?, Deed.settles?, Fate.outcome?, Listener.unsettled, Listener.movedTo, free, sound]
  · refine hears.counted_concat (position - 1) works carries.serves rfl rfl
      fun quiet outcome => ?_
    exact Listener.asks_flowFor (carries.serves ▸ quiet outcome) message
  · intro size listed
    rcases List.mem_append.mp listed with early | last
    · obtain ⟨stopped, -⟩ := hears.stopped size early
      cases attends.listening.symm.trans stopped
    · cases List.mem_singleton.mp last
  · exact hears.silent_concat fun stopped _ =>
      Phase.noConfusion (attends.listening.symm.trans stopped)

/-- A step that is not on an event. -/
theorem aside (hears : Hears handler before deeds session listener) {deed : Deed} {left : Listener}
    (idle : deed.isOnEvent = false) (world : after.world = session.world)
    (begun : left.phase ≠ .idle) (place : left.position = listener.position)
    (same : left.unsettled = listener.unsettled)
    (stopped : ∀ size, .finished size ∈ deeds ++ [deed] →
      left.phase = .stopped ∧ left.job = none ∧ left.position ≤ size) :
    Hears handler before (deeds ++ [deed]) after left := by
  have untaken : deed.takesUp? = none ∧ deed.settles? = none := by
    cases deed with
    | read _ _ _ _ | resumed _ _ => exact absurd idle Bool.noConfusion
    | _ => exact ⟨rfl, rfl⟩
  have settled : Deed.settled (deeds ++ [deed]) = Deed.settled deeds := by
    rw [Deed.settled_concat, untaken.2]
    exact List.append_nil _
  constructor
  · exact world ▸ hears.published
  · exact begun
  · rw [world, place]
    exact hears.reads.other fun _ _ _ _ reading => by simp [reading, Deed.isOnEvent] at idle
  · rw [Deed.takenUp_concat, settled, same, untaken.1]
    exact (List.append_nil _).trans hears.once
  · rw [settled, world]
    exact hears.counted
  · exact stopped
  · exact hears.silent_concat fun _ _ => idle

theorem cancelled (hears : Hears handler before deeds session listener) :
    Hears handler before (deeds ++ [.cancelled])
      (session.setListener index { listener with cancelled := true })
      { listener with cancelled := true } := by
  refine hears.aside rfl rfl hears.begun rfl rfl fun size listed => ?_
  rcases List.mem_append.mp listed with early | last
  · exact hears.stopped size early
  · cases List.mem_singleton.mp last

theorem finished (hears : Hears handler before deeds session listener)
    (free : listener.job = none) :
    Hears handler before (deeds ++ [.finished session.world.bus.size])
      (session.setListener index listener.finish) listener.finish := by
  have same : listener.finish.unsettled = listener.unsettled := by
    rw [Listener.unsettled, Listener.unsettled, free]
    rfl
  refine hears.aside rfl rfl Phase.noConfusion rfl same fun size listed => ?_
  rcases List.mem_append.mp listed with early | last
  · exact ⟨rfl, rfl, (hears.stopped size early).2.2⟩
  · obtain rfl := Deed.finished.inj (List.mem_singleton.mp last)
    exact ⟨rfl, rfl, hears.reads.within⟩

end Hears

/-- A listener that has neither been told to stop nor fallen silent can go on as long as messages
lie ahead. -/
theorem exists_does (found : session.listener? index = some listener)
    (listening : listener.phase = .listening) (uncancelled : listener.cancelled = false)
    (sound : listener.broken = false) (ahead : listener.position < session.world.bus.size)
    (keeps : 0 < session.world.bus.capacity) :
    ∃ deed after, deed.isOnEvent ∧ Does index session deed after := by
  cases inHand : listener.job with
  | some job =>
    rcases Nat.lt_or_ge session.clock job.wake with early | due
    · exact ⟨_, _, rfl, .await found inHand early⟩
    · exact ⟨_, _, rfl, .resume found inHand due⟩
  | none =>
    have kept : max listener.position session.world.bus.oldest < session.world.bus.size := by
      rw [Bus.oldest]
      omega
    have next : ∃ taken, session.world.bus.read? listener.position = some taken := by
      rw [Bus.read?, Array.getElem?_eq_getElem kept]
      exact ⟨_, rfl⟩
    obtain ⟨⟨message, position⟩, next⟩ := next
    exact ⟨_, _, rfl, .read found ⟨listening, sound, inHand, uncancelled⟩ next⟩

theorem Hears.does {before : Session} {deeds : List Deed} {deed : Deed}
    (hears : Hears handler before deeds session listener) (carries : listener.Carries handler)
    (found : session.listener? index = some listener) (does : Does index session deed after) :
    ∃ left, after.listener? index = some left ∧ left.Carries handler ∧
      Hears handler before (deeds ++ [deed]) after left := by
  cases does with
  | @read acting message position listed attends next =>
    obtain rfl : acting = listener := Option.some.inj (listed.symm.trans found)
    have moved := listener?_setListener found (acting.movedTo position)
    have works := works_take moved attends.free message
    have carriesOn : (acting.movedTo position).Carries handler :=
      ⟨carries.serves, fun _ => attends.sound, carries.quiet, carries.steady⟩
    obtain ⟨left, here, leaves, still⟩ := works.left moved carriesOn
      (fun quiet outcome => Listener.asks_flowFor (carries.serves ▸ quiet outcome) message)
      (fun steady => Listener.ends_flowFor (by simp) (carries.serves ▸ steady) message) attends.sound
    exact ⟨left, here, still, hears.read carries attends next works leaves
      (fateOfMessage_eq_ignored _ _ _)⟩
  | @resume acting job listed inHand due =>
    obtain rfl : acting = listener := Option.some.inj (listed.symm.trans found)
    have works := works_resume index acting job session
    obtain ⟨left, here, leaves, still⟩ := works.left found carries
      (fun quiet => carries.quiet quiet job inHand) (fun steady => (carries.steady steady).2 job inHand)
      (carries.sound (Option.isSome_of_eq_some inHand))
    exact ⟨left, here, still, hears.resumed carries inHand works leaves (fateOf_ne_ignored _ _ _)⟩
  | @await acting job listed inHand early =>
    obtain rfl : acting = listener := Option.some.inj (listed.symm.trans found)
    have works := works_await index acting job session
    obtain ⟨left, here, leaves, still⟩ := works.left found carries
      (fun quiet => carries.quiet quiet job inHand) (fun steady => (carries.steady steady).2 job inHand)
      (carries.sound (Option.isSome_of_eq_some inHand))
    exact ⟨left, here, still, hears.resumed carries inHand works leaves (fateOf_ne_ignored _ _ _)⟩
  | @cancel acting listed =>
    obtain rfl : acting = listener := Option.some.inj (listed.symm.trans found)
    exact ⟨_, listener?_setListener found _,
      ⟨carries.serves, carries.sound, carries.quiet, carries.steady⟩, hears.cancelled⟩
  | @finish acting listed free =>
    obtain rfl : acting = listener := Option.some.inj (listed.symm.trans found)
    exact ⟨_, listener?_setListener found _,
      .of_free carries.serves rfl fun steady => (carries.steady steady).1, hears.finished free⟩

/-- The fuller form of `hears_of_runs`, which the induction carries. -/
theorem carries_of_runs {timeout : Nat} {before : Session} {deeds : List Deed}
    (began : before.listener? index = some (Listener.begin { handler, timeout } before.world.bus))
    (runs : Runs index handler.name before deeds after) :
    ∃ listener, after.listener? index = some listener ∧ listener.Carries handler ∧
      Hears handler before deeds after listener := by
  induction runs with
  | start => exact ⟨_, began, .of_free rfl rfl fun _ => rfl, .start⟩
  | did runs does ih =>
    obtain ⟨listener, found, carries, hears⟩ := ih
    exact hears.does carries found does
  | elsewhere runs others ih =>
    obtain ⟨listener, found, carries, hears⟩ := ih
    exact ⟨listener, others.kept.trans found, carries, hears.elsewhere others⟩

/-- A listener that has begun hears what it wants, in order and each once. It misses a message only
when more messages than the ring holds lay ahead as it read, so that it went on with the oldest one
kept, or when it had not taken the message up as it was told to stop or its handler was aborted;
otherwise it can still go on. -/
theorem hears_of_runs {timeout : Nat} {before : Session} {deeds : List Deed}
    (keeps : 0 < before.world.bus.capacity)
    (began : before.listener? index = some (Listener.begin { handler, timeout } before.world.bus))
    (runs : Runs index handler.name before deeds after) :
    ∃ listener, after.listener? index = some listener ∧
      Hears handler before deeds after listener ∧
      (handler.Steady → listener.broken = false) ∧
      ∀ number, before.world.bus.size ≤ number → after.world.bus.isWanted handler number →
        number ∉ Deed.takenUp deeds →
        (∃ stood size next fate, .read stood size next fate ∈ deeds ∧
          before.world.bus.capacity < size - stood ∧ stood ≤ number ∧ number < next) ∨
        listener.position ≤ number ∧ (listener.phase = .stopped ∨ listener.cancelled ∨
          listener.broken ∨ ∃ deed next, deed.isOnEvent ∧ Does index after deed next) := by
  obtain ⟨listener, found, carries, hears⟩ := carries_of_runs began runs
  refine ⟨listener, found, hears, fun steady => (carries.steady steady).1, ?_⟩
  intro number since wanted absent
  rw [← hears.published.capacity] at keeps ⊢
  refine (hears.reads.missing since wanted absent).imp_right fun ahead => ⟨ahead, ?_⟩
  have known : number < after.world.bus.size := by
    by_contra beyond
    rw [Bus.isWanted, Array.getElem?_eq_none (Nat.le_of_not_lt beyond)] at wanted
    exact Bool.false_ne_true wanted
  cases phase : listener.phase with
  | idle => exact absurd phase hears.begun
  | stopped => exact .inl rfl
  | listening =>
    cases cancelled : listener.cancelled with
    | true => exact .inr (.inl rfl)
    | false =>
      cases broken : listener.broken with
      | true => exact .inr (.inr (.inl rfl))
      | false =>
        exact .inr (.inr (.inr
          (exists_does found phase cancelled broken (Nat.lt_of_le_of_lt ahead known) keeps)))

/-- A recorder that takes so many milliseconds for an event. -/
def recorder (delay : Nat) : Handler := Recorder.handler {
  name := "test"
  patterns := ["events:test:*"]
  key := "seen"
  delay
  ending := .handled .processed }

/-- The session in which the recorder has begun to listen. -/
def recording (delay : Nat) : Session := ((({} : Session).add (recorder delay) 5000).2.start 0).2

/-- The session after an empty event of a topic was published. -/
def published (session : Session) (topic : String) : Session :=
  (session.answer (.publish ⟨topic, .text "\x7b\x7d"⟩)).2

/-- The first event is taken up, and is in hand for a while. -/
theorem hears_of_runs_first : ∃ after listener deeds, Deed.takenUp deeds = [0] ∧
    Hears (recorder 50) (recording 50) deeds after listener := by
  have begun : (recording 50).listener? 0 =
      some (Listener.begin ⟨recorder 50, 5000, .idle, 0, none, false, false⟩
        (recording 50).world.bus) := rfl
  have others : Elsewhere 0 "test" (recording 50) ((recording 50).published "events:test:a") :=
    ⟨rfl, precedes_answer _ _, fun _ => rfl⟩
  have next : ((recording 50).published "events:test:a").world.bus.read? 0 =
      some (⟨"events:test:a", .text "\x7b\x7d"⟩, 1) := by cbv
  have taken := @Does.read 0 ((recording 50).published "events:test:a") _ _ _ rfl
    ⟨rfl, rfl, rfl, rfl⟩ next
  obtain ⟨listener, -, hears, -⟩ :=
    hears_of_runs (by cbv) begun ((Runs.start.elsewhere others).did taken)
  exact ⟨_, listener, _, by cbv, hears⟩

/-- What was published is not handled when the listener is told to stop during the event before. -/
theorem pending_at_stop :
    let session := ((recording 50).published "events:test:a").drain.published "events:test:b"
    session.isListening 0 ∧ session.world.bus.size = 2 ∧ 2 ≤ session.world.bus.capacity ∧
      session.world.bus.isWanted (recorder 50) 1 ∧
      (session.stop 0).noted "seen" = ["events:test:a"] ∧
      ((session.stop 0).pass 1000).noted "seen" = ["events:test:a"] := by
  cbv

end Session

end Parley
