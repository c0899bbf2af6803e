import Parley.Proofs.Listener.Circulation
import Parley.Proofs.Session.Phases

/-!
# The life of the service

The service is started and shut down any number of times and in any order, while messages are
published and its two listeners handle them. The calls decide the phase of both: idle until the
first call, listening after a first call to start, and stopped for good after the first shutdown.
So only the first call can start the service, a refused start finds nothing to undo, and events are
handled in between only.
-/

namespace Parley

open Service (ownListeners)

namespace Session

variable {session after : Session} {index : Nat} {phase : Phase} {deeds : List (Nat × Deed)}

/-- The listeners of the service are in this phase, both. -/
def OwnStay (session : Session) (phase : Phase) : Prop :=
  ∀ index ∈ ownListeners, session.Stays index phase

theorem Works.length {listener : Listener} {flow : Flow (Except Failure Handled)} {fate : Fate}
    (works : Works index listener flow session fate after) :
    after.listeners.length = session.listeners.length := by
  obtain ⟨rest, gone, left, goes, -, -, -, rfl⟩ := works
  exact (List.length_set ..).trans (congrArg List.length goes.listeners)

theorem Unfolds.length (unfolds : Unfolds session deeds after) :
    after.listeners.length = session.listeners.length := by
  induction unfolds with
  | start => rfl
  | did unfolds does ih =>
    refine Eq.trans ?_ ih
    cases does with
    | @read reader message position found attends next =>
      have moved := listener?_setListener found (reader.movedTo position)
      exact (works_take moved attends.free message).length.trans (List.length_set ..)
    | resume found inHand due => exact (works_resume _ _ _ _).length
    | await found inHand early => exact (works_await _ _ _ _).length
    | cancel found => exact List.length_set ..
    | finish found free => exact List.length_set ..
  | passed unfolds clock waiting ready ih => exact ih

/-- Listeners are stopped one after the other, and each finishes. -/
theorem unfolds_stop_each (indexes : List Nat)
    (within : ∀ index ∈ indexes, index < session.listeners.length) :
    ∃ deeds,
      Unfolds session deeds (indexes.foldl (fun session index => session.stop index) session) ∧
      ∀ index ∈ indexes, ∃ size, (index, .finished size) ∈ deeds := by
  induction indexes generalizing session with
  | nil => exact ⟨[], .start, nofun⟩
  | cons index indexes ih =>
    have found := List.getElem?_eq_getElem (within index List.mem_cons_self)
    obtain ⟨before, size, stopped⟩ := unfolds_stop found
    have still_within : ∀ other ∈ indexes, other < (session.stop index).listeners.length := by
      intro other listed
      rw [stopped.length]
      exact within other (List.mem_cons_of_mem index listed)
    obtain ⟨later, others, finish⟩ := ih still_within
    refine ⟨_, stopped.append others, fun other listed => ?_⟩
    rcases List.mem_cons.mp listed with rfl | listed
    · exact ⟨size, List.mem_append_left _ (List.mem_append_right _ (List.mem_singleton_self _))⟩
    · obtain ⟨size, member⟩ := finish other listed
      exact ⟨size, List.mem_append_right _ member⟩

end Session

namespace Service

variable {service : Service} {phase : Phase}

theorem start_of_begun (stay : service.session.OwnStay phase) (begun : phase ≠ .idle) :
    (∃ e, service.start.1 = .error e) ∧ service.start.2 = service := by
  obtain ⟨listener, found, stands⟩ := stay 0 List.mem_cons_self
  obtain ⟨e, refused⟩ := Session.start_of_begun found (stands.is ▸ begun)
  have all : startAll [] ownListeners service.session = (.error e, service.session) := by
    rw [ownListeners, startAll, refused]
    rfl
  rw [start, all]
  exact ⟨⟨e, rfl⟩, rfl⟩

/-- Idle listeners that nothing keeps from subscribing all start. -/
theorem startAll_of_idle {session : Session} (started : List Nat) {indexes : List Nat}
    (distinct : indexes.Nodup) (idle : ∀ index ∈ indexes, session.Stays index .idle)
    (unhindered : session.Unhindered) :
    ∃ after, startAll started indexes session = (.ok (), after) ∧ after.Unhindered ∧
      (∀ index ∈ indexes, after.Stays index .listening) ∧
      ∀ index, index ∉ indexes → after.listener? index = session.listener? index := by
  induction indexes generalizing started session with
  | nil => exact ⟨session, rfl, unhindered, nofun, fun _ _ => rfl⟩
  | cons index indexes ih =>
    obtain ⟨fresh, distinct⟩ := List.nodup_cons.mp distinct
    obtain ⟨begun, begins, unhindered, listens, others⟩ :=
      Session.start_of_idle (idle index List.mem_cons_self) unhindered
    have still_idle : ∀ other ∈ indexes, begun.Stays other .idle := by
      intro other listed
      obtain ⟨next, found, stands⟩ := idle other (List.mem_cons_of_mem index listed)
      exact ⟨next, (others other fun same => fresh (same ▸ listed)).trans found, stands⟩
    obtain ⟨after, starts, still, listening, rest⟩ :=
      ih (started ++ [index]) distinct still_idle unhindered
    refine ⟨after, ?_, still, fun other listed => ?_, fun other absent => ?_⟩
    · rw [startAll, begins]
      exact starts
    · rcases List.mem_cons.mp listed with rfl | listed
      · obtain ⟨now, found, stands⟩ := listens
        exact ⟨now, (rest other fresh).trans found, stands⟩
      · exact listening other listed
    · obtain ⟨apart, absent⟩ := not_or.mp (List.mem_cons.not.mp absent)
      exact (rest other absent).trans (others other (Ne.symm apart))

theorem start_of_idle (stay : service.session.OwnStay .idle)
    (unhindered : service.session.Unhindered) :
    service.start.1 = .ok () ∧ service.start.2.session.OwnStay .listening ∧
      service.start.2.session.Unhindered := by
  obtain ⟨after, starts, still, listening, -⟩ :=
    startAll_of_idle [] (show ownListeners.Nodup by decide) stay unhindered
  rw [start, starts]
  exact ⟨rfl, listening, still⟩

theorem unfolds_shutdown (stay : service.session.OwnStay phase) :
    ∃ deeds, Session.Unfolds service.session deeds service.shutdown.session ∧
      ∀ index ∈ ownListeners, ∃ size, (index, .finished size) ∈ deeds :=
  Session.unfolds_stop_each ownListeners fun index own => by
    obtain ⟨listener, found, -⟩ := stay index own
    exact (List.getElem?_eq_some_iff.mp found).1

/-- What is noted of a run: how a call to start ended, that a shutdown ended, and what the listeners
of the service did. -/
inductive Entry where
  | started (result : Except Error Unit)
  | shutDown
  | did (index : Nat) (deed : Deed)

namespace Entry

def isCall : Entry → Bool
  | started _ | shutDown => true
  | did .. => false

/-- What listeners did. -/
def ofDeeds (deeds : List (Nat × Deed)) : List Entry := deeds.map fun step => did step.1 step.2

end Entry

/-- The service from its creation on: it is started and shut down, its listeners work on events, and
whatever else happens leaves them alone and lets them subscribe. -/
inductive Lives (config : Config) (bus : Bus) : List Entry → Service → Prop
  | create : Lives config bus [] (create config bus)
  | start {entries : List Entry} {service : Service} (lives : Lives config bus entries service) :
    Lives config bus (entries ++ [.started service.start.1]) service.start.2
  | shutdown {entries : List Entry} {service : Service} {deeds : List (Nat × Deed)}
    (lives : Lives config bus entries service)
    (unfolds : Session.Unfolds service.session deeds service.shutdown.session) :
    Lives config bus (entries ++ Entry.ofDeeds deeds ++ [.shutDown]) service.shutdown
  | did {entries : List Entry} {service : Service} {index : Nat} {deed : Deed} {after : Session}
    (lives : Lives config bus entries service) (own : index ∈ ownListeners)
    (does : Session.Does index service.session deed after) (onEvent : deed.isOnEvent) :
    Lives config bus (entries ++ [.did index deed]) { service with session := after }
  | outside {entries : List Entry} {service : Service} {after : Session}
    (lives : Lives config bus entries service)
    (kept : ∀ index ∈ ownListeners, after.listener? index = service.session.listener? index)
    (unhindered : after.Unhindered) : Lives config bus entries { service with session := after }

/-- The phase that the calls of a run lead to. -/
inductive Leads (entries : List Entry) : Phase → Prop
  | idle (uncalled : ∀ entry ∈ entries, entry.isCall = false) : Leads entries .idle
  | listening (started : .started (.ok ()) ∈ entries) (running : .shutDown ∉ entries) :
    Leads entries .listening
  | stopped (ended : .shutDown ∈ entries) : Leads entries .stopped

/-- Events are handled after a successful start and before the end of the first shutdown. -/
def Between (entries : List Entry) : Prop :=
  ∀ (k index : Nat) (deed : Deed), entries[k]? = some (.did index deed) → deed.isOnEvent →
    index ∈ ownListeners →
    .started (.ok ()) ∈ entries.take k ∧ .shutDown ∉ entries.take k

variable {config : Config} {bus : Bus} {entries more : List Entry}

theorem not_mem_of_uncalled {entry : Entry} (uncalled : ∀ entry ∈ entries, entry.isCall = false)
    (call : entry.isCall = true) : entry ∉ entries := fun listed =>
  absurd ((uncalled entry listed).symm.trans call) Bool.false_ne_true

theorem Entry.uncalled_ofDeeds (deeds : List (Nat × Deed)) :
    ∀ entry ∈ ofDeeds deeds, entry.isCall = false := by
  intro entry listed
  obtain ⟨step, -, rfl⟩ := List.mem_map.mp listed
  rfl

theorem Leads.append (leads : Leads entries phase)
    (uncalled : ∀ entry ∈ more, entry.isCall = false) : Leads (entries ++ more) phase := by
  cases leads with
  | idle before =>
    exact .idle fun entry listed => (List.mem_append.mp listed).elim (before entry) (uncalled entry)
  | listening started running =>
    refine .listening (List.mem_append_left more started) fun listed => ?_
    exact (List.mem_append.mp listed).elim running (not_mem_of_uncalled uncalled rfl)
  | stopped ended => exact .stopped (List.mem_append_left more ended)

/-- Calls to start other than the first change nothing. -/
theorem Leads.started_again (leads : Leads entries phase) (begun : phase ≠ .idle)
    (result : Except Error Unit) : Leads (entries ++ [.started result]) phase := by
  cases leads with
  | idle before => exact absurd rfl begun
  | listening started running =>
    refine .listening (List.mem_append_left _ started) fun listed => ?_
    exact (List.mem_append.mp listed).elim running fun last => nomatch List.mem_singleton.mp last
  | stopped ended => exact .stopped (List.mem_append_left _ ended)

/-- The service was not called exactly if its listeners are idle. -/
theorem Leads.eq_idle_iff (leads : Leads entries phase) :
    phase = .idle ↔ ∀ entry ∈ entries, entry.isCall = false := by
  cases leads with
  | idle before => exact iff_of_true rfl before
  | listening started running =>
    exact iff_of_false Phase.noConfusion fun uncalled => not_mem_of_uncalled uncalled rfl started
  | stopped ended =>
    exact iff_of_false Phase.noConfusion fun uncalled => not_mem_of_uncalled uncalled rfl ended

theorem Leads.of_listening (leads : Leads entries .listening) :
    .started (.ok ()) ∈ entries ∧ .shutDown ∉ entries := by
  cases leads with
  | listening started running => exact ⟨started, running⟩

theorem Between.append (between : Between entries)
    (later : ∀ index deed, .did index deed ∈ more → deed.isOnEvent → index ∈ ownListeners →
      .started (.ok ()) ∈ entries ∧ .shutDown ∉ entries ++ more) : Between (entries ++ more) := by
  intro k index deed found onEvent own
  rcases Nat.lt_or_ge k entries.length with early | late
  · rw [List.getElem?_append_left early] at found
    rw [List.take_append_of_le_length (Nat.le_of_lt early)]
    exact between k index deed found onEvent own
  · rw [List.getElem?_append_right late] at found
    obtain ⟨started, running⟩ := later index deed (List.mem_of_getElem? found) onEvent own
    refine ⟨?_, fun ended => running (List.mem_of_mem_take ended)⟩
    rw [List.take_append, List.take_of_length_le late]
    exact List.mem_append_left _ started

/-- What holds all through the life of the service. -/
structure Alive (entries : List Entry) (service : Service) (phase : Phase) : Prop where
  leads : Leads entries phase
  stay : service.session.OwnStay phase
  unhindered : service.session.Unhindered
  between : Between entries

theorem alive_create (config : Config) (bus : Bus) : Alive [] (create config bus) .idle where
  leads := .idle nofun
  stay := by
    intro index own
    simp only [ownListeners, List.mem_cons, List.not_mem_nil, or_false] at own
    rcases own with rfl | rfl <;> exact ⟨_, rfl, rfl, fun _ => rfl, fun _ => rfl⟩
  unhindered := ⟨rfl, rfl⟩
  between := nofun

theorem Alive.start (alive : Alive entries service phase) :
    ∃ phase, Alive (entries ++ [.started service.start.1]) service.start.2 phase := by
  have between : Between (entries ++ [.started service.start.1]) :=
    alive.between.append fun index deed listed => nomatch List.mem_singleton.mp listed
  by_cases idle : phase = .idle
  · subst idle
    obtain ⟨starts, listening, unhindered⟩ := start_of_idle alive.stay alive.unhindered
    have uncalled := alive.leads.eq_idle_iff.mp rfl
    rw [starts] at between ⊢
    refine ⟨.listening, .listening ?_ ?_, listening, unhindered, between⟩
    · exact List.mem_append_right _ (List.mem_singleton_self _)
    · intro listed
      exact (List.mem_append.mp listed).elim (not_mem_of_uncalled uncalled rfl)
        fun last => nomatch List.mem_singleton.mp last
  · obtain ⟨-, same⟩ := start_of_begun alive.stay idle
    have leads := alive.leads.started_again idle service.start.1
    rw [same]
    exact ⟨phase, leads, alive.stay, alive.unhindered, between⟩

theorem Alive.shutdown {deeds : List (Nat × Deed)} (alive : Alive entries service phase)
    (unfolds : Session.Unfolds service.session deeds service.shutdown.session) :
    Alive (entries ++ Entry.ofDeeds deeds ++ [.shutDown]) service.shutdown .stopped where
  leads := .stopped (List.mem_append_right _ (List.mem_singleton_self _))
  stay index own := by
    obtain ⟨others, stops, finish⟩ := unfolds_shutdown alive.stay
    obtain ⟨size, finished⟩ := finish index own
    exact stops.stopped finished
  unhindered := alive.unhindered.unfolds unfolds
  between := by
    have during : Between (entries ++ Entry.ofDeeds deeds) := by
      refine alive.between.append fun index deed listed onEvent own => ?_
      obtain ⟨step, member, same⟩ := List.mem_map.mp listed
      obtain ⟨rfl, rfl⟩ := Entry.did.inj same
      have listens : phase = .listening := by
        by_contra silent
        have quiet := (unfolds.rests ((alive.stay step.1 own).silent silent)).2 step.2 member
        exact absurd (quiet.symm.trans onEvent) Bool.false_ne_true
      subst listens
      have later := alive.leads.append (Entry.uncalled_ofDeeds deeds)
      exact ⟨alive.leads.of_listening.1, later.of_listening.2⟩
    exact during.append fun index deed listed => nomatch List.mem_singleton.mp listed

theorem Alive.did {index : Nat} {deed : Deed} {after : Session}
    (alive : Alive entries service phase) (own : index ∈ ownListeners)
    (does : Session.Does index service.session deed after) (onEvent : deed.isOnEvent) :
    Alive (entries ++ [.did index deed]) { service with session := after } phase := by
  obtain ⟨rfl, stays⟩ := does.listens (alive.stay index own) onEvent
  have leads : Leads (entries ++ [.did index deed]) .listening :=
    alive.leads.append fun entry listed => by
      obtain rfl := List.mem_singleton.mp listed
      rfl
  refine ⟨leads, fun other ownToo => ?_, alive.unhindered.does does, ?_⟩
  · by_cases same : index = other
    · exact same ▸ stays
    · exact does.stays_of_ne same (alive.stay other ownToo)
  · exact alive.between.append fun _ _ _ _ _ =>
      ⟨alive.leads.of_listening.1, leads.of_listening.2⟩

theorem alive_of_lives (lives : Lives config bus entries service) :
    ∃ phase, Alive entries service phase := by
  induction lives with
  | create => exact ⟨.idle, alive_create config bus⟩
  | start lives ih =>
    obtain ⟨phase, alive⟩ := ih
    exact alive.start
  | shutdown lives unfolds ih =>
    obtain ⟨phase, alive⟩ := ih
    exact ⟨.stopped, alive.shutdown unfolds⟩
  | did lives own does onEvent ih =>
    obtain ⟨phase, alive⟩ := ih
    exact ⟨phase, alive.did own does onEvent⟩
  | outside lives kept unhindered ih =>
    obtain ⟨phase, alive⟩ := ih
    refine ⟨phase, alive.leads, fun index own => ?_, unhindered, alive.between⟩
    obtain ⟨listener, found, stands⟩ := alive.stay index own
    exact ⟨listener, (kept index own).trans found, stands⟩

/-- A message is published. -/
theorem Lives.publish (lives : Lives config bus entries service) (message : Message) :
    Lives config bus entries
      { service with session := (service.session.answer (.publish message)).2 } := by
  obtain ⟨phase, alive⟩ := alive_of_lives lives
  exact .outside lives (fun index _ => congrArg (·[index]?) (Session.listeners_answer _ _))
    (alive.unhindered.answer _)

/-- The listeners take steps in whatever order, those of the service on events. -/
theorem Lives.unfolds {deeds : List (Nat × Deed)} {after : Session}
    (lives : Lives config bus entries service)
    (unfolds : Session.Unfolds service.session deeds after)
    (working : ∀ step ∈ deeds, step.1 ∈ ownListeners → step.2.isOnEvent) :
    Lives config bus (entries ++ Entry.ofDeeds (deeds.filter (·.1 ∈ ownListeners)))
      { service with session := after } := by
  induction unfolds with
  | start =>
    rw [List.filter_nil]
    exact (List.append_nil entries).symm ▸ lives
  | @did deeds index deed here after unfolds does ih =>
    have before := ih fun step listed => working step (List.mem_append_left _ listed)
    rw [List.filter_append]
    by_cases own : index ∈ ownListeners
    · have listed := List.mem_append_right deeds (List.mem_singleton_self (index, deed))
      have onEvent := working (index, deed) listed own
      have last : [(index, deed)].filter (·.1 ∈ ownListeners) = [(index, deed)] :=
        List.filter_eq_self.mpr fun step listed => by
          obtain rfl := List.mem_singleton.mp listed
          exact decide_eq_true own
      rw [last, Entry.ofDeeds, List.map_append, ← List.append_assoc]
      exact before.did own does onEvent
    · have last : [(index, deed)].filter (·.1 ∈ ownListeners) = [] :=
        List.filter_eq_nil_iff.mpr fun step listed => by
          obtain rfl := List.mem_singleton.mp listed
          exact fun listed => own (of_decide_eq_true listed)
      rw [last, List.append_nil]
      obtain ⟨phase, alive⟩ := alive_of_lives before
      have still := alive.unhindered.does does
      refine before.outside (fun other ownToo => does.listener?_of_ne ?_) still
      rintro rfl
      exact own ownToo
  | passed unfolds clock waiting ready ih =>
    obtain ⟨phase, alive⟩ := alive_of_lives (ih working)
    exact (ih working).outside (fun _ _ => rfl) ⟨alive.unhindered.met, alive.unhindered.prompt⟩

/-- The listeners are left to themselves. -/
theorem Lives.goesOn {after : Session} (lives : Lives config bus entries service)
    (reaches : Session.Reaches service.session after)
    (keeps : Session.Keeps service.session after) : ∃ deeds,
    Lives config bus (entries ++ Entry.ofDeeds deeds) { service with session := after } := by
  obtain ⟨phase, alive⟩ := alive_of_lives lives
  obtain ⟨deeds, unfolds⟩ := reaches
  by_cases listens : phase = .listening
  · subst listens
    refine ⟨_, lives.unfolds unfolds fun step listed own => ?_⟩
    obtain ⟨listener, found, stands⟩ := alive.stay step.1 own
    obtain ⟨left, last, phase, untold⟩ :=
      keeps.running step.1 listener found (stands.untold Phase.noConfusion)
    refine unfolds.onEvent last ?_ untold step.2 listed
    rw [phase, stands.is]
    exact Phase.noConfusion
  · refine ⟨[], (List.append_nil entries).symm ▸ lives.outside (fun index own => ?_)
      (alive.unhindered.unfolds unfolds)⟩
    exact keeps.resting index ((alive.stay index own).silent listens)

/-- The listeners go on until all of them wait. -/
theorem Lives.drain (lives : Lives config bus entries service) :
    ∃ deeds, Lives config bus (entries ++ Entry.ofDeeds deeds)
      { service with session := service.session.drain } :=
  lives.goesOn (Session.reaches_drain _) (Session.keeps_drain _)

/-- Time passes. -/
theorem Lives.pass (lives : Lives config bus entries service) (ms : Nat) :
    ∃ deeds, Lives config bus (entries ++ Entry.ofDeeds deeds)
      { service with session := service.session.pass ms } :=
  lives.goesOn (Session.reaches_pass ms _) (Session.keeps_moveTo _ _ _)

/-- For every life of the service, whatever calls to start and shutdown, publications and work of
its listeners it consists of. Starting now succeeds exactly if neither start nor shutdown was called
before, and fails without any change. Shutting down now ends, with both listeners finished. The two
are always in the same phase, which is the one that the calls lead to. And events are handled only
after a successful start and before the end of the first shutdown. -/
theorem lifetime (config : Config) (bus : Bus) (entries : List Entry) (service : Service)
    (lives : Lives config bus entries service) :
    (service.start.1 = .ok () ↔ ∀ entry ∈ entries, entry.isCall = false) ∧
      (service.start.1 ≠ .ok () → service.start.2 = service) ∧
      (∃ deeds, Session.Unfolds service.session deeds service.shutdown.session ∧
        ∀ index ∈ ownListeners, ∃ size, (index, .finished size) ∈ deeds) ∧
      (∃ phase, Leads entries phase ∧ ∀ index ∈ ownListeners,
        (service.session.listener? index).map (·.phase) = some phase) ∧
      Between entries := by
  obtain ⟨phase, alive⟩ := alive_of_lives lives
  refine ⟨?_, ?_, unfolds_shutdown alive.stay, ⟨phase, alive.leads, fun index own => ?_⟩,
    alive.between⟩
  · rw [← alive.leads.eq_idle_iff]
    constructor
    · intro starts
      by_contra begun
      obtain ⟨⟨e, refused⟩, -⟩ := start_of_begun alive.stay begun
      exact nomatch starts.symm.trans refused
    · rintro rfl
      exact (start_of_idle alive.stay alive.unhindered).1
  · intro refused
    by_cases idle : phase = .idle
    · subst idle
      exact absurd (start_of_idle alive.stay alive.unhindered).1 refused
    · exact (start_of_begun alive.stay idle).2
  · obtain ⟨listener, found, stands⟩ := alive.stay index own
    rw [found]
    exact congrArg some stands.is

/-- The service is started, an event is published and handled, and the service is shut down. Then it
does not start again. -/
theorem lifetime_event : ∃ entries service deed, Lives {} Bus.standard entries service ∧
    .did 0 deed ∈ entries ∧ deed.isOnEvent ∧ .shutDown ∈ entries ∧
    service.start.1 ≠ .ok () ∧ service.start.2 = service ∧ Between entries := by
  have begun : Lives {} Bus.standard ([] ++ [.started (create {} Bus.standard).start.1])
      (create {} Bus.standard).start.2 := .start .create
  have arrived := begun.publish Session.request
  have next : Session.requested.world.bus.read? 0 = some (Session.request, 1) := by cbv
  have handled := arrived.did List.mem_cons_self
    (@Session.Does.read 0 Session.requested _ _ _ rfl ⟨rfl, rfl, rfl, rfl⟩ next) rfl
  obtain ⟨phase, alive⟩ := alive_of_lives handled
  obtain ⟨deeds, unfolds, -⟩ := unfolds_shutdown alive.stay
  have ended := handled.shutdown unfolds
  obtain ⟨starts, unchanged, -, -, between⟩ := lifetime {} Bus.standard _ _ ended
  have refused := fun again => not_mem_of_uncalled (starts.mp again) rfl
    (List.mem_append_right _ (List.mem_singleton_self _))
  exact ⟨_, _, _, ended, List.mem_append_left _ (List.mem_append_left _
    (List.mem_append_right _ (List.mem_singleton_self _))), rfl,
    List.mem_append_right _ (List.mem_singleton_self _), refused, unchanged refused, between⟩

end Service

end Parley
