import Parley.Proofs.Session.Stopping

/-!
# The phases of a listener

A listener is idle until it starts, and listens until it stops for good. Only while it listens does
it take up events and have one in hand. Starting needs an idle listener and changes nothing else;
with nothing in the way of subscribing, an idle listener starts. Stopping ends in the last phase
whatever the phase was.
-/

namespace Parley

/-- The listener is in this phase. It has an event in hand only while it listens, and it was not
told to stop before it has. -/
structure Listener.In (listener : Listener) (phase : Phase) : Prop where
  is : listener.phase = phase
  free : phase ≠ .listening → listener.job = none
  untold : phase ≠ .stopped → listener.cancelled = false

theorem Fate.Leaves.listens {listener left : Listener} {fate : Fate}
    (leaves : fate.Leaves listener left) (stands : listener.In .listening) :
    left.In .listening := by
  cases leaves <;> exact ⟨stands.is, fun other => absurd rfl other, stands.untold⟩

namespace Session

variable {session here after : Session} {index : Nat} {listener left : Listener} {phase : Phase}
  {deed : Deed} {deeds : List (Nat × Deed)}

/-- The listener of this number is in the phase. -/
def Stays (session : Session) (index : Nat) (phase : Phase) : Prop :=
  ∃ listener, session.listener? index = some listener ∧ listener.In phase

/-- The listener of this number does not listen and has nothing in hand. -/
def Silent (session : Session) (index : Nat) : Prop :=
  ∃ listener, session.listener? index = some listener ∧ listener.phase ≠ .listening ∧
    listener.job = none

theorem Stays.silent (stays : session.Stays index phase) (other : phase ≠ .listening) :
    session.Silent index := by
  obtain ⟨listener, found, stands⟩ := stays
  exact ⟨listener, found, stands.is ▸ other, stands.free other⟩

theorem Works.listens {flow : Flow (Except Failure Handled)} {fate : Fate}
    (works : Works index listener flow session fate after)
    (found : session.listener? index = some listener) (stands : listener.In .listening) :
    after.Stays index .listening := by
  obtain ⟨left, listed, leaves, -, -⟩ := works.listener? found
  exact ⟨left, listed, leaves.listens stands⟩

/-- A listener that does not listen has no events, and it does not begin to listen. -/
theorem Does.rests (does : Does index session deed after) (silent : session.Silent index) :
    deed.isOnEvent = false ∧ after.Silent index := by
  obtain ⟨listener, found, other, free⟩ := silent
  cases does with
  | read heard attends next =>
    obtain rfl := Option.some.inj (heard.symm.trans found)
    exact absurd attends.listening other
  | resume heard inHand due =>
    obtain rfl := Option.some.inj (heard.symm.trans found)
    exact absurd (inHand.symm.trans free) (Option.some_ne_none _)
  | await heard inHand early =>
    obtain rfl := Option.some.inj (heard.symm.trans found)
    exact absurd (inHand.symm.trans free) (Option.some_ne_none _)
  | cancel heard =>
    obtain rfl := Option.some.inj (heard.symm.trans found)
    exact ⟨rfl, _, listener?_setListener found _, other, free⟩
  | finish heard free =>
    exact ⟨rfl, _, listener?_setListener heard _, Phase.noConfusion, rfl⟩

/-- Events are for listeners that listen, and leave them so. -/
theorem Does.listens (does : Does index session deed after) (stays : session.Stays index phase)
    (onEvent : deed.isOnEvent) : phase = .listening ∧ after.Stays index .listening := by
  have listens : phase = .listening := by
    by_contra other
    exact absurd ((does.rests (stays.silent other)).1.symm.trans onEvent) Bool.false_ne_true
  subst listens
  obtain ⟨listener, found, stands⟩ := stays
  refine ⟨rfl, ?_⟩
  cases does with
  | @read reader message position heard attends next =>
    obtain rfl := Option.some.inj (heard.symm.trans found)
    have moved := listener?_setListener heard (reader.movedTo position)
    exact (works_take moved attends.free message).listens moved
      ⟨stands.is, fun other => absurd rfl other, stands.untold⟩
  | @resume reader job heard inHand due =>
    obtain rfl := Option.some.inj (heard.symm.trans found)
    exact (works_resume index reader job session).listens found stands
  | @await reader job heard inHand early =>
    obtain rfl := Option.some.inj (heard.symm.trans found)
    exact (works_await index reader job session).listens found stands
  | cancel heard => exact absurd onEvent Bool.false_ne_true
  | finish heard free => exact absurd onEvent Bool.false_ne_true

/-- A listener that has finished is stopped. -/
theorem Does.finishes {size : Nat} (does : Does index session (.finished size) after) :
    after.Stays index .stopped := by
  cases does with
  | finish found free =>
    exact ⟨_, listener?_setListener found _, rfl, fun _ => rfl, fun other => absurd rfl other⟩

theorem Does.stopped (does : Does index session deed after) (stays : session.Stays index .stopped) :
    after.Stays index .stopped := by
  cases deed with
  | read stood size number fate => exact absurd (does.listens stays rfl).1 Phase.noConfusion
  | resumed number fate => exact absurd (does.listens stays rfl).1 Phase.noConfusion
  | finished size => exact does.finishes
  | cancelled =>
    obtain ⟨listener, found, stands⟩ := stays
    cases does with
    | cancel heard =>
      obtain rfl := Option.some.inj (heard.symm.trans found)
      refine ⟨_, listener?_setListener found _, stands.is, stands.free, ?_⟩
      exact fun other => absurd rfl other

theorem Does.stays_of_ne {other : Nat} (does : Does other session deed after)
    (apart : other ≠ index) (stays : session.Stays index phase) : after.Stays index phase := by
  obtain ⟨listener, found, stands⟩ := stays
  exact ⟨listener, (does.listener?_of_ne apart).trans found, stands⟩

/-- Whatever the listeners do, one that does not listen has no events. -/
theorem Unfolds.rests (unfolds : Unfolds session deeds after) (silent : session.Silent index) :
    after.Silent index ∧ ∀ deed, (index, deed) ∈ deeds → deed.isOnEvent = false := by
  induction unfolds with
  | start => exact ⟨silent, nofun⟩
  | @did deeds actor deed here after unfolds does ih =>
    obtain ⟨still, quiet⟩ := ih
    by_cases own : actor = index
    · subst own
      obtain ⟨calm, still⟩ := does.rests still
      refine ⟨still, fun other listed => ?_⟩
      rcases List.mem_append.mp listed with early | late
      · exact quiet other early
      · obtain ⟨-, rfl⟩ := Prod.mk.inj (List.mem_singleton.mp late)
        exact calm
    · obtain ⟨listener, found, rest⟩ := still
      refine ⟨⟨listener, (does.listener?_of_ne own).trans found, rest⟩, fun other listed => ?_⟩
      rcases List.mem_append.mp listed with early | late
      · exact quiet other early
      · exact absurd (Prod.mk.inj (List.mem_singleton.mp late)).1.symm own
  | passed unfolds clock waiting ready ih => exact ih

/-- A listener that has finished stays stopped. -/
theorem Unfolds.stopped {size : Nat} (unfolds : Unfolds session deeds after)
    (finished : (index, .finished size) ∈ deeds) : after.Stays index .stopped := by
  induction unfolds with
  | start => exact absurd finished List.not_mem_nil
  | @did deeds actor deed here after unfolds does ih =>
    rcases List.mem_append.mp finished with early | late
    · by_cases own : actor = index
      · subst own
        exact does.stopped (ih early)
      · exact does.stays_of_ne own (ih early)
    · obtain ⟨rfl, rfl⟩ := Prod.mk.inj (List.mem_singleton.mp late)
      exact does.finishes
  | passed unfolds clock waiting ready ih => exact ih finished

/-- A listener that was told to stop does not forget it. -/
theorem Unfolds.cancelled (unfolds : Unfolds session deeds after)
    (listed : (index, .cancelled) ∈ deeds) :
    ∃ left, after.listener? index = some left ∧ left.cancelled := by
  induction unfolds with
  | start => exact absurd listed List.not_mem_nil
  | @did deeds actor deed here after unfolds does ih =>
    rcases List.mem_append.mp listed with early | late
    · obtain ⟨left, found, told⟩ := ih early
      obtain ⟨later, found, winds⟩ := does.windsUp found told
      exact ⟨later, found, winds.told⟩
    · obtain ⟨rfl, rfl⟩ := Prod.mk.inj (List.mem_singleton.mp late)
      cases does with
      | cancel found => exact ⟨_, listener?_setListener found _, rfl⟩
  | passed unfolds clock waiting ready ih => exact ih listed

/-- The listeners that were not told to stop are in the phases that they were in, and those with
nothing to do are as they were. -/
structure Keeps (session after : Session) : Prop where
  running : ∀ index listener, session.listener? index = some listener →
    listener.cancelled = false → ∃ left, after.listener? index = some left ∧
      left.phase = listener.phase ∧ left.cancelled = false
  resting : ∀ index, session.Silent index → after.listener? index = session.listener? index

namespace Keeps

theorem of_eq (same : after.listeners = session.listeners) : Keeps session after where
  running index listener found untold :=
    ⟨listener, (congrArg (·[index]?) same).trans found, rfl, untold⟩
  resting index _ := congrArg (·[index]?) same

theorem refl (session : Session) : Keeps session session := of_eq rfl

theorem trans (first : Keeps session here) (second : Keeps here after) : Keeps session after where
  running index listener found untold := by
    obtain ⟨between, found, phase, untold⟩ := first.running index listener found untold
    obtain ⟨left, found, later, untold⟩ := second.running index between found untold
    exact ⟨left, found, later.trans phase, untold⟩
  resting index silent := by
    have same := first.resting index silent
    obtain ⟨listener, found, rest⟩ := silent
    exact (second.resting index ⟨listener, same.trans found, rest⟩).trans same

/-- A listener that listens or has an event in hand does something. -/
theorem set (found : session.listener? index = some listener)
    (busy : listener.phase = .listening ∨ listener.job ≠ none)
    (same : after.listeners = session.listeners.set index left)
    (phase : listener.cancelled = false → left.phase = listener.phase)
    (cancelled : left.cancelled = listener.cancelled) : Keeps session after where
  running other now heard untold := by
    by_cases own : index = other
    · subst own
      obtain rfl := Option.some.inj (heard.symm.trans found)
      refine ⟨left, ?_, phase untold, cancelled.trans untold⟩
      exact (congrArg (·[index]?) same).trans (listener?_setListener found left)
    · refine ⟨now, ?_, rfl, untold⟩
      exact (congrArg (·[other]?) same).trans ((List.getElem?_set_ne own).trans heard)
  resting other silent := by
    by_cases own : index = other
    · subst own
      obtain ⟨now, heard, silent, free⟩ := silent
      obtain rfl := Option.some.inj (heard.symm.trans found)
      exact absurd busy (not_or.mpr ⟨silent, not_not.mpr free⟩)
    · exact (congrArg (·[other]?) same).trans (List.getElem?_set_ne own)

end Keeps

theorem keeps_enter (found : session.listener? index = some listener)
    (busy : listener.phase = .listening ∨ listener.job ≠ none) (deadline : Nat)
    (progress : Progress (Except Failure Handled)) :
    Keeps session (session.enter index listener deadline progress) := by
  obtain ⟨left, listeners, -, phase, cancelled, -⟩ :=
    session.enter_spec index listener deadline progress
  exact .set found busy listeners (fun _ => phase) cancelled

theorem keeps_proceed_enter (found : session.listener? index = some listener)
    (busy : listener.phase = .listening ∨ listener.job ≠ none)
    (flow : Flow (Except Failure Handled)) (delayed : Bool) (deadline : Nat) :
    Keeps session ((session.proceed flow delayed).2.enter index listener deadline
      (session.proceed flow delayed).1) := by
  have same := (goes_proceed flow delayed session).listeners
  exact (Keeps.of_eq same).trans
    (keeps_enter ((congrArg (·[index]?) same).trans found) busy deadline _)

theorem keeps_take (found : session.listener? index = some listener)
    (listens : listener.phase = .listening) (message : Message) :
    Keeps session (session.take index listener message) := by
  rw [take]
  split
  · exact .refl session
  · split
    · exact .of_eq rfl
    · exact keeps_proceed_enter found (.inl listens) _ false _

theorem keeps_turn (index bound : Nat) (session : Session) :
    Keeps session (turn index bound session) := by
  induction bound generalizing session with
  | zero => exact .of_eq rfl
  | succ bound ih =>
    rw [turn]
    cases found : session.listener? index with
    | none => exact .refl session
    | some listener =>
      dsimp only
      split
      · exact .refl session
      · next able =>
        have listens : listener.phase = .listening := not_not.mp (not_or.mp able).1
        split
        · next told =>
          exact .set found (.inl listens) rfl
            (fun untold => absurd (untold.symm.trans told) Bool.false_ne_true) rfl
        · split
          · exact .of_eq rfl
          · next message position _ =>
            have moved : Keeps session (session.setListener index (listener.movedTo position)) :=
              .set found (.inl listens) rfl (fun _ => rfl) rfl
            have taken := keeps_take (listener?_setListener found (listener.movedTo position))
              listens message
            exact (moved.trans taken).trans (ih _)

theorem keeps_settleReady (bound : Nat) (session : Session) :
    Keeps session (settleReady bound session) := by
  induction bound generalizing session with
  | zero => exact .refl session
  | succ bound ih =>
    rw [settleReady]
    split
    · exact .refl session
    · next index ready _ =>
      have queued : Keeps session { session with ready } := .of_eq rfl
      exact (queued.trans (keeps_turn _ _ _)).trans (ih _)

theorem keeps_drain (session : Session) : Keeps session session.drain :=
  keeps_settleReady _ session

theorem keeps_resume (session : Session) (index : Nat) : Keeps session (session.resume index) := by
  rw [resume]
  cases found : session.listener? index with
  | none => exact .refl session
  | some listener =>
    dsimp only
    split
    · exact .refl session
    · next job inHand =>
      have busy : listener.job ≠ none := inHand ▸ Option.some_ne_none job
      refine Keeps.trans ?_ (keeps_turn _ _ _)
      split
      · exact keeps_proceed_enter found (.inr busy) job.rest job.delayed job.deadline
      · exact keeps_enter found (.inr busy) job.deadline _

theorem keeps_moveTo (time bound : Nat) (session : Session) :
    Keeps session (moveTo time bound session) := by
  induction bound generalizing session with
  | zero => exact .of_eq rfl
  | succ bound ih =>
    rw [moveTo]
    split
    · exact .of_eq rfl
    · next due index _ =>
      split
      · have moved : Keeps session (session.setClock (max due session.clock)) := .of_eq rfl
        exact ((moved.trans (keeps_resume _ index)).trans (keeps_drain _)).trans (ih _)
      · exact .of_eq rfl

/-- A listener that is neither stopped nor told to stop has done nothing but work on events. -/
theorem Unfolds.onEvent (unfolds : Unfolds session deeds after)
    (found : after.listener? index = some left) (running : left.phase ≠ .stopped)
    (untold : left.cancelled = false) : ∀ deed, (index, deed) ∈ deeds → deed.isOnEvent := by
  intro deed listed
  cases deed with
  | read stood size number fate => rfl
  | resumed number fate => rfl
  | cancelled =>
    obtain ⟨now, heard, told⟩ := unfolds.cancelled listed
    obtain rfl := Option.some.inj (heard.symm.trans found)
    exact absurd (untold.symm.trans told) Bool.false_ne_true
  | finished size =>
    obtain ⟨now, heard, stands⟩ := unfolds.stopped listed
    obtain rfl := Option.some.inj (heard.symm.trans found)
    exact absurd stands.is running

/-- Nothing is in the way of subscribing. -/
structure Unhindered (session : Session) : Prop where
  met : session.outages.find? (·.1 == .busSubscribe) = none
  prompt : session.delayOf .busSubscribe = 0

/-- Listeners start from idle only; a refusal changes nothing. -/
theorem start_of_begun (found : session.listener? index = some listener)
    (begun : listener.phase ≠ .idle) : ∃ e, session.start index = (.error e, session) := by
  rw [start, found]
  dsimp only
  cases stands : listener.phase with
  | idle => exact absurd stands begun
  | listening => exact ⟨_, rfl⟩
  | stopped => exact ⟨_, rfl⟩

/-- An idle listener starts, and the others are left as they are. -/
theorem start_of_idle (stays : session.Stays index .idle) (unhindered : session.Unhindered) :
    ∃ begun, session.start index = (.ok (), begun) ∧ begun.Unhindered ∧
      begun.Stays index .listening ∧
      ∀ other, index ≠ other → begun.listener? other = session.listener? other := by
  obtain ⟨listener, found, idle⟩ := stays
  refine ⟨{ session.setListener index (listener.begin session.world.bus) with
    ready := session.ready ++ [index] }, ?_, ⟨unhindered.met, unhindered.prompt⟩, ?_, ?_⟩
  · rw [start, found]
    dsimp only
    rw [idle.is, unhindered.prompt, if_neg (Nat.lt_irrefl 0), meetOutage, unhindered.met]
    rfl
  · exact ⟨_, listener?_setListener found _, rfl, fun other => absurd rfl other,
      fun _ => idle.untold Phase.noConfusion⟩
  · exact fun other apart => listener?_setListener_of_ne apart _

theorem meetOutage_of_none {target : Target}
    (none_met : session.outages.find? (·.1 == target) = none) :
    session.meetOutage target = (false, session) := by
  rw [meetOutage, none_met]

theorem Unhindered.meetOutage (unhindered : session.Unhindered) (target : Target) :
    (session.meetOutage target).2.Unhindered := by
  cases found : session.outages.find? (·.1 == target) with
  | none => rwa [meetOutage_of_none found]
  | some entry =>
    obtain ⟨named, outage⟩ := entry
    rw [Session.meetOutage, found]
    refine ⟨?_, unhindered.prompt⟩
    have apart : target ≠ .busSubscribe := by
      rintro rfl
      exact absurd (found.symm.trans unhindered.met) (Option.some_ne_none _)
    change ((target, outage.meet.2) :: session.outages.filter (·.1 != target)).find?
      (·.1 == .busSubscribe) = none
    rw [List.find?_cons_of_neg (by simpa using apart), List.find?_eq_none]
    intro other listed
    exact List.find?_eq_none.mp unhindered.met other (List.mem_of_mem_filter listed)

theorem Unhindered.answer (unhindered : session.Unhindered) (request : Request) :
    (session.answer request).2.Unhindered := by
  rw [Session.answer]
  cases request.refusal? with
  | none =>
    dsimp only
    split <;> exact ⟨unhindered.met, unhindered.prompt⟩
  | some refusal =>
    have met := unhindered.meetOutage refusal.1
    dsimp only
    split
    · exact met
    · split <;> exact ⟨met.met, met.prompt⟩

theorem Unhindered.goes {α : Type} {flow rest : Flow α} (unhindered : session.Unhindered)
    (goes : Goes flow session rest after) : after.Unhindered := by
  induction goes with
  | stays flow session => exact unhindered
  | answered goes ih => exact ih (unhindered.answer _)
  | paused goes ih => exact ih unhindered

theorem Unhindered.works {flow : Flow (Except Failure Handled)} {fate : Fate}
    (unhindered : session.Unhindered) (works : Works index listener flow session fate after) :
    after.Unhindered := by
  obtain ⟨rest, gone, left, goes, -, -, -, rfl⟩ := works
  have still := unhindered.goes goes
  exact ⟨still.met, still.prompt⟩

theorem Unhindered.setListener (unhindered : session.Unhindered) (index : Nat) (left : Listener) :
    (session.setListener index left).Unhindered :=
  ⟨unhindered.met, unhindered.prompt⟩

theorem Unhindered.does (unhindered : session.Unhindered)
    (does : Does index session deed after) : after.Unhindered := by
  cases does with
  | @read reader message position found attends next =>
    have moved := listener?_setListener found (reader.movedTo position)
    exact (unhindered.setListener index _).works (works_take moved attends.free message)
  | resume found inHand due => exact unhindered.works (works_resume _ _ _ _)
  | await found inHand early => exact unhindered.works (works_await _ _ _ _)
  | cancel found => exact unhindered.setListener index _
  | finish found free => exact unhindered.setListener index _

theorem Unhindered.unfolds (unhindered : session.Unhindered)
    (unfolds : Unfolds session deeds after) : after.Unhindered := by
  induction unfolds with
  | start => exact unhindered
  | did unfolds does ih => exact ih.does does
  | passed unfolds clock waiting ready ih => exact ⟨ih.met, ih.prompt⟩

end Session

end Parley
