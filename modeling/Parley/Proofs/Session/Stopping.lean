import Mathlib.Data.Finset.Card
import Parley.Proofs.Listener.Reading

/-!
# Stopping a listener

What listeners do until all of them wait happens at one instant, and after it nothing that they have
taken up is due before the clock moves on. So each time something falls due, either the clock moves
or fewer listeners are left with something due. A listener that was told to stop takes nothing up,
and its event is over at its deadline at the latest: stopping waits for it and always ends.
-/

namespace Parley

/-- The event in hand should have gone on or been given up by this time. -/
def Listener.overdue (listener : Listener) (time : Nat) : Bool := listener.due?.any (· ≤ time)

theorem Listener.overdue_of_free {listener : Listener} (free : listener.job = none) (time : Nat) :
    listener.overdue time = false := by
  rw [overdue, due?, free]
  rfl

theorem Listener.overdue_of_job {listener : Listener} {time : Nat}
    (later : ∀ job ∈ listener.job, time < job.wake ∧ time < job.deadline) :
    listener.overdue time = false := by
  rw [overdue, due?]
  cases inHand : listener.job with
  | none => rfl
  | some job =>
    obtain ⟨wakes, ends⟩ := later job inHand
    simp only [Option.map_some, Option.any_some, decide_eq_false_iff_not]
    omega

/-- The listener after it was told to stop. -/
def Listener.told (listener : Listener) : Listener := { listener with cancelled := true }

/-- A listener that was told to stop has taken nothing more up: what it has in hand now it had in
hand before, and with the same deadline. -/
structure Listener.WindsUp (listener left : Listener) : Prop where
  told : left.cancelled
  kept : ∀ job ∈ left.job, ∃ held ∈ listener.job, held.deadline = job.deadline

namespace Listener.WindsUp

variable {listener between left : Listener}

theorem refl (told : listener.cancelled) : listener.WindsUp listener where
  told := told
  kept job inHand := ⟨job, inHand, rfl⟩

theorem trans (first : listener.WindsUp between) (second : between.WindsUp left) :
    listener.WindsUp left where
  told := second.told
  kept job inHand := by
    obtain ⟨held, inHand, same⟩ := second.kept job inHand
    obtain ⟨first, inHand, before⟩ := first.kept held inHand
    exact ⟨first, inHand, before.trans same⟩

/-- A deadline for what is in hand stays one. -/
theorem deadline {time : Nat} (winds : listener.WindsUp left)
    (limit : ∀ job ∈ listener.job, job.deadline = time) :
    ∀ job ∈ left.job, job.deadline = time := by
  intro job inHand
  obtain ⟨held, inHand, same⟩ := winds.kept job inHand
  exact same.symm.trans (limit held inHand)

end Listener.WindsUp

namespace Session

variable {α : Type} {session here after : Session} {index : Nat} {listener left : Listener}

theorem clock_answer (session : Session) (request : Request)
    (prompt : ∀ ms, request ≠ .pause (ms + 1)) :
    (session.answer request).2.clock = session.clock := by
  unfold clock
  rcases (session.answer_cases request).2.2 with ⟨-, performed⟩ | ⟨refused, -⟩
  · rw [performed]
    exact request.clock_perform prompt session.world
  · rw [refused]

/-- A flow goes on at one instant, and then ends or waits for a later one. -/
theorem proceed_prompt (flow : Flow α) (delayed : Bool) (session : Session) :
    (session.proceed flow delayed).2.clock = session.clock ∧
      ∀ wake rest again, (session.proceed flow delayed).1 = .waiting wake rest again →
        session.clock < wake := by
  induction flow generalizing delayed session with
  | done value => exact ⟨rfl, nofun⟩
  | ask request next ih =>
    unfold proceed
    dsimp only
    generalize (if delayed = true then 0 else session.delay request) = delay
    by_cases waits : 0 < delay
    · rw [if_pos waits]
      refine ⟨rfl, fun wake rest again same => ?_⟩
      obtain ⟨rfl, -, -⟩ := Progress.waiting.inj same
      omega
    · rw [if_neg waits]
      split
      · refine ⟨rfl, fun wake rest again same => ?_⟩
        obtain ⟨rfl, -, -⟩ := Progress.waiting.inj same
        omega
      · next prompt =>
        have instant := session.clock_answer request fun ms same => by
          subst same
          exact prompt ms next rfl HEq.rfl
        rw [← instant]
        exact ih _ _ _

/-- What is entered for a listener: its event is over, or waits before the deadline. -/
theorem enter_spec (session : Session) (index : Nat) (listener : Listener) (deadline : Nat)
    (progress : Progress (Except Failure Handled)) :
    ∃ left, (session.enter index listener deadline progress).listeners =
        session.listeners.set index left ∧
      (session.enter index listener deadline progress).clock = session.clock ∧
      left.phase = listener.phase ∧ left.cancelled = listener.cancelled ∧
      ∀ job ∈ left.job, job.deadline = deadline ∧ session.clock < deadline ∧
        progress = .waiting job.wake job.rest job.delayed := by
  cases progress with
  | finished result =>
    rw [enter, settle]
    split
    · exact ⟨_, rfl, rfl, rfl, rfl, fun job held => absurd held (Option.not_mem_none job)⟩
    · exact ⟨_, rfl, rfl, rfl, rfl, fun job held => absurd held (Option.not_mem_none job)⟩
  | waiting wake rest delayed =>
    rw [enter]
    split
    · exact ⟨_, rfl, rfl, rfl, rfl, fun job held => absurd held (Option.not_mem_none job)⟩
    · next early =>
      refine ⟨_, rfl, rfl, rfl, rfl, fun job inHand => ?_⟩
      obtain rfl := Option.some.inj inHand
      exact ⟨rfl, Nat.lt_of_not_le early, rfl⟩

/-- What happens at one instant: the clock stands, no listener comes or goes, and each is as it was
or has nothing that is overdue. -/
structure AtOnce (session after : Session) : Prop where
  clock : after.clock = session.clock
  length : after.listeners.length = session.listeners.length
  listeners : ∀ index left, after.listener? index = some left →
    session.listener? index = some left ∨ left.overdue session.clock = false

namespace AtOnce

theorem of_eq (clock : after.clock = session.clock) (same : after.listeners = session.listeners) :
    AtOnce session after where
  clock := clock
  length := congrArg List.length same
  listeners index left found := by
    rw [listener?, same] at found
    exact .inl found

theorem refl (session : Session) : AtOnce session session := of_eq rfl rfl

theorem trans (first : AtOnce session here) (second : AtOnce here after) :
    AtOnce session after where
  clock := second.clock.trans first.clock
  length := second.length.trans first.length
  listeners index left found := by
    rcases second.listeners index left found with same | idles
    · exact first.listeners index left same
    · rw [first.clock] at idles
      exact .inr idles

theorem set (clock : after.clock = session.clock)
    (same : after.listeners = session.listeners.set index left)
    (idles : left.overdue session.clock = false) : AtOnce session after where
  clock := clock
  length := by rw [same, List.length_set]
  listeners other now found := by
    rw [listener?, same, List.getElem?_set] at found
    split at found
    · split at found
      · obtain rfl := Option.some.inj found
        exact .inr idles
      · exact absurd found (Option.some_ne_none now).symm
    · exact .inl found

/-- What was not overdue is not overdue at the end of the instant. -/
theorem idles (atOnce : AtOnce session after)
    (idle : ∀ left, session.listener? index = some left → left.overdue session.clock = false) :
    ∀ left, after.listener? index = some left → left.overdue session.clock = false := by
  intro left found
  rcases atOnce.listeners index left found with same | idles
  · exact idle left same
  · exact idles

end AtOnce

theorem atOnce_enter (index : Nat) (listener : Listener) (deadline : Nat)
    {progress : Progress (Except Failure Handled)}
    (later : ∀ wake rest again, progress = .waiting wake rest again → session.clock < wake) :
    AtOnce session (session.enter index listener deadline progress) ∧
      ∀ left, (session.enter index listener deadline progress).listener? index = some left →
        left.overdue session.clock = false := by
  obtain ⟨left, listeners, clock, -, -, waits⟩ :=
    session.enter_spec index listener deadline progress
  have idles : left.overdue session.clock = false := Listener.overdue_of_job fun job inHand => by
    obtain ⟨rfl, early, same⟩ := waits job inHand
    exact ⟨later _ _ _ same, early⟩
  refine ⟨.set clock listeners idles, fun now found => ?_⟩
  rw [listener?, listeners, List.getElem?_set, if_pos rfl] at found
  split at found
  · obtain rfl := Option.some.inj found
    exact idles
  · exact absurd found (Option.some_ne_none now).symm

/-- A flow goes on, and what came of it is entered. -/
theorem atOnce_proceed_enter (flow : Flow (Except Failure Handled)) (delayed : Bool)
    (session : Session) (index : Nat) (listener : Listener) (deadline : Nat) :
    let (progress, gone) := session.proceed flow delayed
    AtOnce session (gone.enter index listener deadline progress) ∧
      ∀ left, (gone.enter index listener deadline progress).listener? index = some left →
        left.overdue session.clock = false := by
  dsimp only
  obtain ⟨clock, later⟩ := session.proceed_prompt flow delayed
  obtain ⟨entered, idles⟩ := atOnce_enter index listener deadline fun wake rest again same =>
    clock.symm ▸ later wake rest again same
  rw [clock] at idles
  exact ⟨.trans (.of_eq clock (goes_proceed flow delayed session).listeners) entered, idles⟩

theorem atOnce_take (session : Session) (index : Nat) (listener : Listener) (message : Message) :
    AtOnce session (session.take index listener message) := by
  rw [take]
  split
  · exact .refl session
  · split
    · exact .of_eq rfl rfl
    · exact (atOnce_proceed_enter _ false session index listener _).1

theorem atOnce_turn (index bound : Nat) (session : Session) :
    AtOnce session (turn index bound session) := by
  induction bound generalizing session with
  | zero => exact .of_eq rfl rfl
  | succ bound ih =>
    rw [turn]
    cases found : session.listener? index with
    | none => exact .refl session
    | some listener =>
      dsimp only
      split
      · exact .refl session
      · next able =>
        have free : listener.job = none := by
          push Not at able
          simpa using able.2.2
        split
        · exact .set rfl rfl (Listener.overdue_of_free rfl _)
        · split
          · exact .of_eq rfl rfl
          · next message position _ =>
            have moved : AtOnce session (session.setListener index (listener.movedTo position)) :=
              .set rfl rfl (Listener.overdue_of_free free _)
            exact (moved.trans (atOnce_take _ _ _ _)).trans (ih _)

theorem atOnce_settleReady (bound : Nat) (session : Session) :
    AtOnce session (settleReady bound session) := by
  induction bound generalizing session with
  | zero => exact .refl session
  | succ bound ih =>
    rw [settleReady]
    split
    · exact .refl session
    · next index ready _ =>
      have queued : AtOnce session { session with ready } := .of_eq rfl rfl
      exact (queued.trans (atOnce_turn _ _ _)).trans (ih _)

theorem atOnce_drain (session : Session) : AtOnce session session.drain :=
  atOnce_settleReady _ session

/-- A listener that goes on with its event has nothing overdue afterwards. -/
theorem atOnce_resume (session : Session) (index : Nat) :
    AtOnce session (session.resume index) ∧
      ∀ left, (session.resume index).listener? index = some left →
        left.overdue session.clock = false := by
  rw [resume]
  cases found : session.listener? index with
  | none =>
    refine ⟨.refl session, fun left held => ?_⟩
    exact absurd (held.symm.trans found) (Option.some_ne_none left)
  | some listener =>
    dsimp only
    cases inHand : listener.job with
    | none =>
      refine ⟨.refl session, fun left held => ?_⟩
      obtain rfl := Option.some.inj (found.symm.trans held)
      exact Listener.overdue_of_free inHand _
    | some job =>
      have turned : ∀ here : Session, AtOnce session here ∧
          (∀ left, here.listener? index = some left → left.overdue session.clock = false) →
          AtOnce session (turn index here.turnBound here) ∧
            ∀ left, (turn index here.turnBound here).listener? index = some left →
              left.overdue session.clock = false := by
        rintro here ⟨entered, idles⟩
        have turned := atOnce_turn index here.turnBound here
        refine ⟨entered.trans turned, ?_⟩
        rw [← entered.clock] at idles ⊢
        exact turned.idles idles
      dsimp only
      refine turned _ ?_
      split
      · exact atOnce_proceed_enter job.rest job.delayed session index listener job.deadline
      · next early =>
        refine atOnce_enter index listener job.deadline fun wake rest again same => ?_
        obtain ⟨rfl, -, -⟩ := Progress.waiting.inj same
        exact Nat.lt_of_not_le early

/-- The first of what falls due for some of the listeners. -/
structure Earliest (listed : List (Listener × Nat)) (best : Option (Nat × Nat)) : Prop where
  found : ∀ time index, best = some (time, index) →
    ∃ listener, (listener, index) ∈ listed ∧ listener.due? = some time
  least : ∀ listener index, (listener, index) ∈ listed → ∀ due ∈ listener.due?,
    ∃ time other, best = some (time, other) ∧ time ≤ due

namespace Earliest

variable {listed : List (Listener × Nat)} {best : Option (Nat × Nat)} {time : Nat}

/-- What falls due no sooner than something else is not the first. -/
theorem concat (earliest : Earliest listed best)
    (covered : ∀ due ∈ listener.due?, ∃ time other, best = some (time, other) ∧ time ≤ due) :
    Earliest (listed ++ [(listener, index)]) best where
  found time other same := by
    obtain ⟨first, member, due⟩ := earliest.found time other same
    exact ⟨first, List.mem_append_left _ member, due⟩
  least other number member due falls := by
    rcases List.mem_append.mp member with early | last
    · exact earliest.least other number early due falls
    · obtain ⟨rfl, rfl⟩ := Prod.mk.inj (List.mem_singleton.mp last)
      exact covered due falls

/-- What falls due before everything so far is the first. -/
theorem concat_first (earliest : Earliest listed best) (due : listener.due? = some time)
    (first : ∀ before other, best = some (before, other) → time ≤ before) :
    Earliest (listed ++ [(listener, index)]) (some (time, index)) where
  found := by
    rintro _ _ ⟨⟩
    exact ⟨listener, List.mem_append_right _ (List.mem_singleton_self _), due⟩
  least other number member later falls := by
    rcases List.mem_append.mp member with early | last
    · obtain ⟨before, second, same, le⟩ := earliest.least other number early later falls
      exact ⟨time, index, rfl, Nat.le_trans (first before second same) le⟩
    · obtain ⟨rfl, rfl⟩ := Prod.mk.inj (List.mem_singleton.mp last)
      exact ⟨time, number, rfl, Nat.le_of_eq (Option.some.inj (due.symm.trans falls))⟩

end Earliest

theorem earliest_nextDue? (session : Session) :
    Earliest session.listeners.zipIdx session.nextDue? := by
  unfold nextDue?
  generalize session.listeners.zipIdx = listed
  induction listed using List.reverseRecOn with
  | nil => exact ⟨nofun, nofun⟩
  | append_singleton listed last ih =>
    obtain ⟨listener, index⟩ := last
    rw [List.foldl_append, List.foldl_cons, List.foldl_nil]
    generalize listed.foldl _ _ = best at ih ⊢
    dsimp only
    cases due : listener.due? with
    | none =>
      exact ih.concat fun later falls => absurd (falls.symm.trans due) (Option.some_ne_none later)
    | some time =>
      cases best with
      | none => exact ih.concat_first due nofun
      | some first =>
        obtain ⟨before, other⟩ := first
        dsimp only
        split
        · next sooner =>
          refine ih.concat_first due ?_
          rintro _ _ ⟨⟩
          exact Nat.le_of_lt sooner
        · next later =>
          refine ih.concat fun falls_at falls => ⟨before, other, rfl, ?_⟩
          obtain rfl := Option.some.inj (due.symm.trans falls)
          exact Nat.le_of_not_lt later

theorem listener?_of_nextDue? {due : Nat} (next : session.nextDue? = some (due, index)) :
    ∃ listener, session.listener? index = some listener ∧ listener.due? = some due := by
  obtain ⟨listener, member, falls⟩ := session.earliest_nextDue?.found due index next
  exact ⟨listener, List.mem_zipIdx_iff_getElem?.mp member, falls⟩

theorem nextDue?_le (found : session.listener? index = some listener) {job : Job}
    (inHand : listener.job = some job) :
    ∃ due next, session.nextDue? = some (due, next) ∧ due ≤ job.deadline := by
  have member : (listener, index) ∈ session.listeners.zipIdx :=
    List.mem_zipIdx_iff_getElem?.mpr found
  have falls : listener.due? = some (min job.wake job.deadline) := by
    rw [Listener.due?, inHand]
    rfl
  obtain ⟨due, next, same, le⟩ := session.earliest_nextDue?.least listener index member _ falls
  exact ⟨due, next, same, Nat.le_trans le (Nat.min_le_right _ _)⟩

/-- The listeners that have something overdue. -/
def overdue (session : Session) : Finset Nat :=
  (Finset.range session.listeners.length).filter fun index =>
    (session.listener? index).any (·.overdue session.clock)

theorem mem_overdue : index ∈ session.overdue ↔
    ∃ listener, session.listener? index = some listener ∧
      listener.overdue session.clock = true := by
  rw [overdue, Finset.mem_filter, Finset.mem_range, Option.any_eq_true]
  refine and_iff_right_of_imp ?_
  rintro ⟨listener, found, -⟩
  exact (List.getElem?_eq_some_iff.mp found).1

theorem card_overdue_le (session : Session) : session.overdue.card ≤ session.listeners.length := by
  have fewer := Finset.card_filter_le (Finset.range session.listeners.length) fun index =>
    (session.listener? index).any (·.overdue session.clock)
  rwa [Finset.card_range] at fewer

/-- At most so often something falls due up to a deadline: each listener once at each time. -/
def patience (session : Session) (deadline : Nat) : Nat :=
  (deadline - session.clock) * (session.listeners.length + 1) + session.overdue.card

theorem patience_lt (session : Session) (deadline : Nat) : session.patience deadline <
    (deadline - session.clock + 1) * (session.listeners.length + 1) := by
  have few := session.card_overdue_le
  rw [patience, Nat.succ_mul]
  omega

/-- Time passes until something falls due, and all go on until they have to wait again. -/
def untilDue (session : Session) (due next : Nat) : Session :=
  ((session.setClock (max due session.clock)).resume next).drain

theorem reaches_untilDue (session : Session) (due next : Nat) :
    Reaches session (session.untilDue due next) :=
  ((Reaches.setClock session _).trans (reaches_resume _ next)).trans (reaches_drain _)

/-- Either the clock moves, or one listener less has something overdue. -/
theorem patience_untilDue {due next deadline : Nat} (isNext : session.nextDue? = some (due, next))
    (within : due ≤ deadline) :
    (session.untilDue due next).patience deadline < session.patience deadline := by
  obtain ⟨resumed, idle⟩ := (session.setClock (max due session.clock)).atOnce_resume next
  have drained := atOnce_drain ((session.setClock (max due session.clock)).resume next)
  have whole : AtOnce (session.setClock (max due session.clock)) (session.untilDue due next) :=
    resumed.trans drained
  have clock : (session.untilDue due next).clock = max due session.clock := whole.clock
  have length : (session.untilDue due next).listeners.length = session.listeners.length :=
    whole.length
  rw [patience, patience, clock, length]
  by_cases moves : session.clock < due
  · have few := (session.untilDue due next).card_overdue_le
    rw [length] at few
    rw [Nat.max_eq_left (Nat.le_of_lt moves)]
    calc (deadline - due) * (session.listeners.length + 1) +
          (session.untilDue due next).overdue.card
        < (deadline - due) * (session.listeners.length + 1) + (session.listeners.length + 1) := by
          omega
      _ = (deadline - due + 1) * (session.listeners.length + 1) := (Nat.succ_mul _ _).symm
      _ ≤ (deadline - session.clock) * (session.listeners.length + 1) :=
          Nat.mul_le_mul_right _ (by omega)
      _ ≤ _ := Nat.le_add_right _ _
  · have stands : max due session.clock = session.clock := Nat.max_eq_right (Nat.le_of_not_lt moves)
    rw [stands] at clock ⊢
    refine Nat.add_lt_add_left (Finset.card_lt_card ?_) _
    have fewer : (session.untilDue due next).overdue ⊆ session.overdue := by
      intro index member
      obtain ⟨listener, found, late⟩ := mem_overdue.mp member
      rw [clock] at late
      rcases whole.listeners index listener found with same | idles
      · exact mem_overdue.mpr ⟨listener, same, late⟩
      · have in_time : listener.overdue (max due session.clock) = false := idles
        rw [stands, late] at in_time
        exact absurd in_time.symm Bool.false_ne_true
    refine (Finset.ssubset_iff_of_subset fewer).mpr ⟨next, ?_, ?_⟩
    · obtain ⟨listener, found, falls⟩ := listener?_of_nextDue? isNext
      refine mem_overdue.mpr ⟨listener, found, ?_⟩
      rw [Listener.overdue, falls, Option.any_some, decide_eq_true_eq]
      exact Nat.le_of_not_lt moves
    · intro member
      obtain ⟨listener, found, late⟩ := mem_overdue.mp member
      rw [← resumed.clock] at idle
      have in_time := drained.idles idle listener found
      rw [resumed.clock] at in_time
      have in_time : listener.overdue (max due session.clock) = false := in_time
      rw [stands, ← clock, late] at in_time
      exact absurd in_time.symm Bool.false_ne_true

/-- A listener that was told to stop takes nothing more up, whoever takes a step. -/
theorem Does.windsUp {deed : Deed} {actor : Nat} (does : Does actor session deed after)
    (found : session.listener? index = some listener) (told : listener.cancelled) :
    ∃ left, after.listener? index = some left ∧ listener.WindsUp left := by
  by_cases own : actor = index
  · subst own
    have entered : ∀ (gone : Session) (held : Job) (progress : Progress (Except Failure Handled)),
        gone.listeners = session.listeners → listener.job = some held →
        ∃ left, (gone.enter actor listener held.deadline progress).listener? actor = some left ∧
          listener.WindsUp left := by
      intro gone held progress same inHand
      obtain ⟨left, listeners, -, -, cancelled, waits⟩ :=
        gone.enter_spec actor listener held.deadline progress
      refine ⟨left, ?_, cancelled.trans told, fun job inHand' => ?_⟩
      · rw [listener?, listeners, same]
        exact listener?_setListener found left
      · exact ⟨held, inHand, (waits job inHand').1.symm⟩
    cases does with
    | read heard attends next =>
      obtain rfl := Option.some.inj (heard.symm.trans found)
      exact absurd (attends.uncancelled.symm.trans told) Bool.false_ne_true
    | resume heard inHand due =>
      obtain rfl := Option.some.inj (heard.symm.trans found)
      exact entered _ _ _ (goes_proceed _ _ _).listeners inHand
    | await heard inHand early =>
      obtain rfl := Option.some.inj (heard.symm.trans found)
      exact entered _ _ _ rfl inHand
    | cancel heard =>
      obtain rfl := Option.some.inj (heard.symm.trans found)
      exact ⟨_, listener?_setListener found _, rfl, (Listener.WindsUp.refl told).kept⟩
    | finish heard free =>
      obtain rfl := Option.some.inj (heard.symm.trans found)
      exact ⟨_, listener?_setListener found _, told, nofun⟩
  · exact ⟨listener, (does.listener?_of_ne own).trans found, .refl told⟩

theorem Unfolds.windsUp {deeds : List (Nat × Deed)} (unfolds : Unfolds session deeds after)
    (found : session.listener? index = some listener) (told : listener.cancelled) :
    ∃ left, after.listener? index = some left ∧ listener.WindsUp left := by
  induction unfolds with
  | start => exact ⟨listener, found, .refl told⟩
  | did unfolds does ih =>
    obtain ⟨before, listed, first⟩ := ih
    obtain ⟨left, listed, last⟩ := does.windsUp listed first.told
    exact ⟨left, listed, first.trans last⟩
  | passed unfolds clock waiting ready ih => exact ih

/-- With enough patience the wait ends when the event is over. -/
theorem awaitJob_free {bound deadline : Nat} (found : session.listener? index = some listener)
    (told : listener.cancelled) (limit : ∀ job ∈ listener.job, job.deadline = deadline)
    (enough : session.patience deadline < bound) :
    ∃ left, (awaitJob index bound session).listener? index = some left ∧ left.job = none := by
  induction bound generalizing session listener with
  | zero => exact absurd enough (Nat.not_lt_zero _)
  | succ bound ih =>
    rw [awaitJob, found, Option.bind_some]
    cases inHand : listener.job with
    | none => exact ⟨listener, found, inHand⟩
    | some job =>
      obtain ⟨due, next, isNext, within⟩ := nextDue?_le found inHand
      rw [limit job inHand] at within
      have shorter := patience_untilDue isNext within
      obtain ⟨deeds, unfolds⟩ := session.reaches_untilDue due next
      obtain ⟨left, listed, winds⟩ := unfolds.windsUp found told
      rw [isNext]
      exact ih listed winds.told (winds.deadline limit)
        (Nat.lt_of_lt_of_le shorter (Nat.le_of_lt_succ enough))

/-- A listener with nothing in hand finishes, and no longer waits for its turn. -/
theorem unfolds_finish (found : session.listener? index = some listener)
    (free : listener.job = none) (waiting ready : List Nat) :
    Unfolds session [(index, .finished session.world.bus.size)]
      { session.setListener index listener.finish with waiting, ready } :=
  (Unfolds.start.did (.finish found free)).passed session.clock waiting ready

/-- The session in which a listener that was told to stop has nothing in hand. -/
def afterJob (session : Session) (index : Nat) (listener : Listener) : Session :=
  match listener.job with
  | none => session
  | some job =>
    let waiting := (session.setListener index listener.told).drain
    awaitJob index ((job.deadline - waiting.clock + 1) * (waiting.listeners.length + 1)) waiting

theorem stop_eq (found : session.listener? index = some listener)
    (last : (session.afterJob index listener).listener? index = some left) :
    session.stop index = { (session.afterJob index listener).setListener index left.finish with
      waiting := (session.afterJob index listener).waiting.filter (· != index)
      ready := (session.afterJob index listener).ready.filter (· != index) } := by
  rw [stop, found]
  dsimp only
  split
  · next gone => exact absurd (last.symm.trans gone) (Option.some_ne_none left)
  · next other heard =>
    obtain rfl := Option.some.inj (heard.symm.trans last)
    rfl

/-- The wait ends, and leaves nothing in hand. -/
theorem unfolds_afterJob (found : session.listener? index = some listener) :
    ∃ deeds left, Unfolds session deeds (session.afterJob index listener) ∧
      (session.afterJob index listener).listener? index = some left ∧ left.job = none := by
  cases inHand : listener.job with
  | none =>
    have same : session.afterJob index listener = session := by rw [afterJob, inHand]
    rw [same]
    exact ⟨[], listener, .start, found, inHand⟩
  | some job =>
    have told : Does index session .cancelled (session.setListener index listener.told) :=
      .cancel found
    obtain ⟨first, drained⟩ := (session.setListener index listener.told).reaches_drain
    obtain ⟨waiting, here, winds⟩ := drained.windsUp (listener?_setListener found _) rfl
    have limit : ∀ other ∈ waiting.job, other.deadline = job.deadline := by
      refine winds.deadline fun other held => ?_
      obtain rfl := Option.some.inj (inHand.symm.trans held)
      rfl
    obtain ⟨left, last, free⟩ : ∃ left,
        (session.afterJob index listener).listener? index = some left ∧ left.job = none := by
      rw [afterJob, inHand]
      exact awaitJob_free here winds.told limit (patience_lt _ _)
    obtain ⟨second, awaited⟩ : Reaches (session.setListener index listener.told).drain
        (session.afterJob index listener) := by
      rw [afterJob, inHand]
      exact reaches_awaitJob _ _ _
    exact ⟨_, left, ((Unfolds.start.did told).append drained).append awaited, last, free⟩

/-- Stopping a listener waits until the event that it has in hand is over, and then it finishes. -/
theorem unfolds_stop (found : session.listener? index = some listener) :
    ∃ deeds size, Unfolds session (deeds ++ [(index, .finished size)]) (session.stop index) := by
  obtain ⟨deeds, left, waited, last, free⟩ := unfolds_afterJob found
  rw [stop_eq found last]
  exact ⟨deeds, _, waited.append (unfolds_finish last free _ _)⟩

end Session

end Parley
