import Parley.Proofs.Listener.Posting

/-!
# The order of turns

The listeners for notifications and for guilds take turns in handling their next message, and time
passes between their turns. Each of them does for a message what it would do at any other turn: the
one for notifications goes by the preferences, which nobody changes, and the one for guilds by the
guilds, which nobody else changes. So when both have come to the end of the messages, it makes no
difference in which order they took their turns.
-/

namespace Parley

open Calendar (Instant)
open Service (ownListeners ownHandler)

namespace Session

/-- The two listeners of the service take turns, each of which handles the next message, and between
turns events come from outside and time passes. No listener has fallen behind what the bus keeps. -/
inductive Turns (before : Session) : List Message → Session → Prop
  | start : Turns before [] before
  | published {events : List Message} {here : Session} (turns : Turns before events here)
    (message : Message) : Turns before (events ++ [message]) (here.answer (.publish message)).2
  | passed {events : List Message} {here : Session} (turns : Turns before events here) {clock : Nat}
    (dated : Instant.inCalendar (Instant.ofMillis clock).seconds) (waiting ready : List Nat) :
    Turns before events { here with world := { here.world with clock }, waiting, ready }
  | handled {events : List Message} {here after : Session} {index stood size : Nat} {fate : Fate}
    (turns : Turns before events here) (own : index ∈ ownListeners)
    (does : Does index here (.read stood size stood fate) after) : Turns before events after

/-- A listener with this handler stands at this position. -/
def Stands (session : Session) (index : Nat) (handler : Handler) (position : Nat) : Prop :=
  ∃ listener, session.listener? index = some listener ∧ listener.handler = handler ∧
    listener.position = position

theorem Stands.kept {session after : Session} {index position : Nat} {handler : Handler}
    (stands : session.Stands index handler position)
    (same : after.listener? index = session.listener? index) :
    after.Stands index handler position := by
  obtain ⟨listener, found, standing⟩ := stands
  exact ⟨listener, same.trans found, standing⟩

/-- Both listeners of the service have read all messages. -/
def Rests (session : Session) : Prop := ∀ index ∈ ownListeners,
  (session.listener? index).map Listener.position = some session.world.bus.size

/-- The session when other identifiers are handed out. -/
def supplied (session : Session) (supply : Nat → Uuid) : Session :=
  { session with world := { session.world with supply } }

variable {config : Config.GuildProgression} {before session after : Session}
  {log more : List Posting} {noted grown n : Nat} {events : List Message}

/-- These messages were published since `before`. -/
structure Logs (before : Session) (log : List Posting) (session : Session) : Prop where
  calm : session.Calm
  clock : Instant.inCalendar session.world.now.seconds
  dated : ∀ posting ∈ log, posting.Dated
  published : session.world.bus.messages.toList =
    before.world.bus.messages.toList ++ log.map Posting.message

namespace Logs

theorem size (logs : Logs before log session) :
    session.world.bus.size = before.world.bus.size + log.length := by
  rw [Bus.size_of_append logs.published, List.length_map]

/-- What is read at a position is the message logged there. -/
theorem exists_posting (logs : Logs before log session) {k : Nat} {message : Message}
    (here : session.world.bus.messages[before.world.bus.size + k]? = some message) :
    ∃ posting, log[k]? = some posting ∧ posting.Dated ∧ posting.message = message := by
  rw [Bus.getElem?_of_append logs.published (Nat.le_add_right _ _), Nat.add_sub_cancel_left,
    List.getElem?_map] at here
  obtain ⟨posting, listed, same⟩ := Option.map_eq_some_iff.mp here
  exact ⟨posting, listed, logs.dated posting (List.mem_of_getElem? listed), same⟩

theorem later (logs : Logs before log session) {gone : World} {name : String} {fate : Fate}
    (posts : session.world.Posts more gone) (world : after.world = gone.counted name fate)
    (calm : after.Calm) : Logs before (log ++ more) after := by
  have bus : (gone.counted name fate).bus = gone.bus := by cases fate <;> rfl
  have clock : (gone.counted name fate).clock = gone.clock := by cases fate <;> rfl
  refine ⟨calm, ?_, ?_, ?_⟩
  · rw [world, World.now, clock, posts.clock]
    exact logs.clock
  · exact List.forall_mem_append.mpr ⟨logs.dated, posts.dated logs.clock⟩
  · rw [world, bus, posts.published, logs.published, List.append_assoc, List.map_append]

/-- A listener that reads treats the message that is logged at its position, and stands at the next. -/
theorem exists_read (logs : Logs before log session) {index k stood size : Nat} {handler : Handler}
    {fate : Fate} (stands : session.Stands index handler (before.world.bus.size + k))
    (prompt : handler.Prompt) (does : Does index session (.read stood size stood fate) after) :
    ∃ posting, log[k]? = some posting ∧ posting.Dated ∧
      after.world = (handler.treat posting.message session.world).2.counted handler.name
        (handler.treat posting.message session.world).1 ∧
      after.Calm ∧ after.Stands index handler (before.world.bus.size + (k + 1)) := by
  obtain ⟨listener, found, rfl, place⟩ := stands
  obtain ⟨message, rfl, here, world, calm, left, foundLeft, leaves⟩ :=
    logs.calm.does found prompt does
  rw [place] at here leaves
  obtain ⟨posting, listed, dated, rfl⟩ := logs.exists_posting here
  exact ⟨posting, listed, dated, world, calm, left, foundLeft, leaves.kept⟩

end Logs

/-- The two listeners have read so many of the messages that were published since `before`, and have
done what follows from them. -/
structure Tracks (config : Config.GuildProgression) (before : Session) (log : List Posting)
    (noted grown : Nat) (session : Session) : Prop where
  logs : Logs before log session
  fanout : session.Stands 0 Fanout.handler (before.world.bus.size + noted)
  advancement : session.Stands 1 (Advancement.handler config) (before.world.bus.size + grown)
  notedWithin : noted ≤ log.length
  grownWithin : grown ≤ log.length
  notes : Notes before.world (log.take noted) session.world
  roster : session.world.store.roster = (Advancement.growth config before.world.store.roster
    (Posting.events (log.take grown))).store
  risen : Posting.rises log = (Advancement.growth config before.world.store.roster
    (Posting.events (log.take grown))).rises
  noteFates : before.world.CountedSince Fanout.handler.name
    ((log.take noted).map (Posting.fate before.world.store.preferences)) session.world
  growthFates : before.world.CountedSince (Advancement.handler config).name
    (Advancement.growth config before.world.store.roster
      (Posting.events (log.take grown))).fates session.world

theorem take_succ_append {k : Nat} {posting : Posting} (listed : log[k]? = some posting)
    (more : List Posting) : (log ++ more).take (k + 1) = log.take k ++ [posting] := by
  have within : k + 1 ≤ log.length := (List.getElem?_eq_some_iff.mp listed).1
  rw [List.take_append_of_le_length within, List.take_add_one, listed]
  rfl

theorem handler_names_apart : Fanout.handler.name ≠ (Advancement.handler config).name := by
  change "notification" ≠ "guild_progression"
  decide

namespace Tracks

/-- The listener for notifications handles its next message. -/
theorem handled_fanout {stood size : Nat} {fate : Fate}
    (tracks : Tracks config before log noted grown session) (supplies : before.world.Supplies n)
    (few : (Posting.events log).length ≤ n)
    (does : Does 0 session (.read stood size stood fate) after) :
    ∃ more, Posting.events more = [] ∧
      Tracks config before (log ++ more) (noted + 1) grown after := by
  obtain ⟨posting, listed, dated, world, calm, stands⟩ :=
    tracks.logs.exists_read tracks.fanout Fanout.prompt_handler does
  rw [Fanout.treat_handler, tracks.notes.preferences, Posting.heard_message _ dated] at world
  obtain ⟨more, posts, noRise, roster⟩ :=
    session.world.posts_elim (posting.request? before.world.store.preferences)
  have further := take_succ_append listed more
  have nearer : (log ++ more).take grown = log.take grown :=
    List.take_append_of_le_length tracks.grownWithin
  have fewer : (Posting.events (log.take noted ++ [posting])).length ≤ n := by
    have part := take_succ_append listed []
    rw [List.append_nil] at part
    exact Nat.le_trans (part ▸ ((List.take_sublist _ _).filterMap _).length_le) few
  have stored := tracks.notes.hear supplies posting fewer
  generalize (posting.request? before.world.store.preferences).elim session.world
    session.world.notified = gone at world posts roster stored
  obtain ⟨metrics, same⟩ := gone.counted_eq Fanout.handler.name
    (posting.fate before.world.store.preferences)
  have within : noted < log.length := (List.getElem?_eq_some_iff.mp listed).1
  have longer : log.length ≤ (log ++ more).length := List.length_append ▸ Nat.le_add_right _ _
  refine ⟨more, posts.noEvent, ?_⟩
  constructor
  · exact tracks.logs.later posts world calm
  · exact stands
  · exact tracks.advancement.kept (does.listener?_of_ne Nat.zero_ne_one)
  · exact Nat.le_trans within longer
  · exact Nat.le_trans tracks.grownWithin longer
  · rw [further, world, same]
    exact stored.aside rfl rfl rfl rfl
  · rw [nearer, world, same]
    exact roster.trans tracks.roster
  · rw [nearer, Posting.rises_append, noRise, List.append_nil]
    exact tracks.risen
  · rw [further, List.map_append, world]
    exact (tracks.noteFates.of_metrics posts.metrics).here _
  · rw [nearer, world]
    exact (tracks.growthFates.of_metrics posts.metrics).elsewhere handler_names_apart _

/-- The listener for guilds handles its next message. -/
theorem handled_advancement {stood size : Nat} {fate : Fate}
    (tracks : Tracks config before log noted grown session)
    (does : Does 1 session (.read stood size stood fate) after) :
    ∃ more, Posting.events more = [] ∧
      Tracks config before (log ++ more) noted (grown + 1) after := by
  obtain ⟨posting, listed, -, world, calm, stands⟩ :=
    tracks.logs.exists_read tracks.advancement (Advancement.prompt_handler config) does
  obtain ⟨more, posts, risen, roster, fates, preferences, notices, supply, issued⟩ :=
    session.world.posts_treat config tracks.roster posting
  have further := take_succ_append listed more
  have nearer : (log ++ more).take noted = log.take noted :=
    List.take_append_of_le_length tracks.notedWithin
  have next := Posting.growth_concat config before.world.store.roster (log.take grown) posting
  rw [← next] at risen roster fates
  generalize (Advancement.handler config).treat posting.message session.world = treated
    at world posts roster fates preferences notices supply issued
  obtain ⟨treatedFate, gone⟩ := treated
  obtain ⟨metrics, same⟩ := gone.counted_eq (Advancement.handler config).name treatedFate
  have within : grown < log.length := (List.getElem?_eq_some_iff.mp listed).1
  have longer : log.length ≤ (log ++ more).length := List.length_append ▸ Nat.le_add_right _ _
  refine ⟨more, posts.noEvent, ?_⟩
  constructor
  · exact tracks.logs.later posts world calm
  · exact tracks.fanout.kept (does.listener?_of_ne Nat.one_ne_zero)
  · exact stands
  · exact Nat.le_trans tracks.notedWithin longer
  · exact Nat.le_trans within longer
  · rw [nearer, world, same]
    exact tracks.notes.aside preferences notices supply issued
  · rw [further, world, same]
    exact roster
  · rw [further, Posting.rises_append, risen, tracks.risen]
  · rw [nearer, world]
    exact (tracks.noteFates.of_metrics posts.metrics).elsewhere handler_names_apart.symm _
  · rw [further, world]
    intro outcome
    rw [fates outcome]
    exact (tracks.growthFates.of_metrics posts.metrics).here treatedFate outcome

/-- What does not come from the two listeners leaves what they have done as it is. -/
theorem outside (tracks : Tracks config before log noted grown session)
    (logs : Logs before (log ++ more) after) (noRise : Posting.rises more = [])
    (kept : after.listeners = session.listeners) (store : after.world.store = session.world.store)
    (metrics : after.world.metrics = session.world.metrics)
    (supply : after.world.supply = session.world.supply)
    (issued : after.world.issued = session.world.issued) :
    Tracks config before (log ++ more) noted grown after := by
  have same : ∀ index, after.listener? index = session.listener? index :=
    fun index => congrArg (·[index]?) kept
  have longer : log.length ≤ (log ++ more).length := List.length_append ▸ Nat.le_add_right _ _
  have notes : (log ++ more).take noted = log.take noted :=
    List.take_append_of_le_length tracks.notedWithin
  have growth : (log ++ more).take grown = log.take grown :=
    List.take_append_of_le_length tracks.grownWithin
  constructor
  · exact logs
  · exact tracks.fanout.kept (same 0)
  · exact tracks.advancement.kept (same 1)
  · exact Nat.le_trans tracks.notedWithin longer
  · exact Nat.le_trans tracks.grownWithin longer
  · rw [notes]
    exact tracks.notes.aside (congrArg Store.preferences store) (congrArg Store.notices store) supply
      issued
  · rw [growth, store]
    exact tracks.roster
  · rw [growth, Posting.rises_append, noRise, List.append_nil]
    exact tracks.risen
  · rw [notes]
    exact tracks.noteFates.of_metrics metrics
  · rw [growth]
    exact tracks.growthFates.of_metrics metrics

end Tracks

/-- However the two listeners take turns, they have done what follows from what they have read. -/
theorem tracks_of_turns (begun : OwnBegun config before) (calm : before.Calm)
    (clock : Instant.inCalendar before.world.now.seconds) (supplies : before.world.Supplies n)
    (turns : Turns before events session) (few : events.length ≤ n) :
    ∃ log noted grown, Posting.events log = events ∧
      Tracks config before log noted grown session := by
  -- A turn of either listener may lengthen the log, but by echoes only: the events of the log are
  -- always those from outside, in the order in which they came.
  induction turns with
  | start =>
    obtain ⟨timeout, fanout⟩ := begun 0 List.mem_cons_self
    obtain ⟨timeoutToo, advancement⟩ := begun 1 (List.mem_cons_of_mem _ List.mem_cons_self)
    have logs : Logs before [] before :=
      ⟨calm, clock, List.forall_mem_nil _, (List.append_nil _).symm⟩
    refine ⟨[], 0, 0, rfl, logs, ⟨_, fanout, rfl, rfl⟩, ⟨_, advancement, rfl, rfl⟩, Nat.le_refl _,
      Nat.le_refl _, .nothing _, rfl, rfl, ?_, ?_⟩
    · exact fun _ => rfl
    · exact fun _ => rfl
  | @published earlier here turns message ih =>
    rw [List.length_append] at few
    obtain ⟨log, noted, grown, rfl, tracks⟩ := ih (by omega)
    obtain ⟨-, world, still⟩ := tracks.logs.calm.answer (.publish message)
    refine ⟨log ++ [.event message], noted, grown, Posting.events_append, ?_⟩
    have logs : Logs before (log ++ [.event message]) (here.answer (.publish message)).2 := by
      refine ⟨still, ?_, List.forall_mem_append.mpr ⟨tracks.logs.dated, ?_⟩, ?_⟩
      · rw [world]
        exact tracks.logs.clock
      · exact fun posting listed => List.mem_singleton.mp listed ▸ trivial
      · rw [world, List.map_append, ← List.append_assoc, ← tracks.logs.published]
        exact Array.toList_push
    refine tracks.outside logs rfl (listeners_answer _ _) ?_ ?_ ?_ ?_ <;> rw [world] <;> rfl
  | @passed earlier here turns clock dated waiting ready ih =>
    obtain ⟨log, noted, grown, same, tracks⟩ := ih few
    have logs : Logs before (log ++ [])
        { here with world := { here.world with clock }, waiting, ready } := by
      rw [List.append_nil]
      exact ⟨⟨tracks.logs.calm.outages, tracks.logs.calm.delays⟩, dated, tracks.logs.dated,
        tracks.logs.published⟩
    have later := tracks.outside logs rfl rfl rfl rfl rfl rfl
    rw [List.append_nil] at later
    exact ⟨log, noted, grown, same, later⟩
  | @handled earlier here after index stood size fate turns own does ih =>
    obtain ⟨log, noted, grown, rfl, tracks⟩ := ih few
    simp only [ownListeners, List.mem_cons, List.not_mem_nil, or_false] at own
    rcases own with rfl | rfl
    · obtain ⟨more, none_new, tracks⟩ := tracks.handled_fanout supplies few does
      exact ⟨_, _, _, by rw [Posting.events_append, none_new, List.append_nil], tracks⟩
    · obtain ⟨more, none_new, tracks⟩ := tracks.handled_advancement does
      exact ⟨_, _, _, by rw [Posting.events_append, none_new, List.append_nil], tracks⟩

/-- What follows from events: the notifications that they ask for, the guilds, and the outcomes of
both listeners. -/
structure Settles (config : Config.GuildProgression) (before : World) (events : List Message)
    (world : World) : Prop where
  notices : ∃ new, world.store.notices = before.store.notices ++ new ∧
    new.map Notification.anonymous =
      (Fanout.requests before.store.preferences events).map (Notification.ofRequest default default)
  guilds : world.store.guilds.map Guild.undated =
    (Advancement.growth config before.store.roster events).store.guilds
  noteFates : before.CountedSince Fanout.handler.name
    (events.map (fun message => (Fanout.heard before.store.preferences message).1) ++
      (Advancement.growth config before.store.roster events).rises.map
        (Posting.fateOfRise before.store.preferences)) world
  growthFates : before.CountedSince (Advancement.handler config).name
    (Advancement.growth config before.store.roster events).fates world

theorem Tracks.settles (tracks : Tracks config before log noted grown session)
    (rests : session.Rests) :
    Settles config before.world (Posting.events log) session.world := by
  have whole : ∀ {index position : Nat} {handler : Handler},
      session.Stands index handler (before.world.bus.size + position) →
      (session.listener? index).map Listener.position = some session.world.bus.size →
      position = log.length := by
    rintro index position handler ⟨listener, found, -, place⟩ last
    rw [found, Option.map_some, place, tracks.logs.size] at last
    exact Nat.add_left_cancel (Option.some.inj last)
  obtain rfl := whole tracks.fanout (rests 0 List.mem_cons_self)
  obtain rfl := whole tracks.advancement (rests 1 (List.mem_cons_of_mem _ List.mem_cons_self))
  obtain ⟨-, -, -, -, -, notes, roster, risen, noteFates, growthFates⟩ := tracks
  rw [List.take_length] at notes roster risen noteFates growthFates
  obtain ⟨new, listed, same, -⟩ := notes.notices
  refine ⟨⟨new, listed, same⟩, congrArg Store.guilds roster, fun outcome => ?_, growthFates⟩
  rw [noteFates outcome, Posting.count_fate, risen, List.count_append]

/-- Two listeners that have handled the same events have done the same, in whatever order they took
their turns: the notifications are the same but for identifiers and times, the guilds are the same
but for the times of their last change, and each outcome was counted as often for either listener. -/
theorem same_of_turns {supply : Nat → Uuid} {here there : Session} (begun : OwnBegun config before)
    (calm : before.Calm) (clock : Instant.inCalendar before.world.now.seconds)
    (supplies : before.world.Supplies events.length)
    (suppliesToo : (before.supplied supply).world.Supplies events.length)
    (turns : Turns before events here) (turnsToo : Turns (before.supplied supply) events there)
    (rests : here.Rests) (restsToo : there.Rests) :
    (∃ new newToo, here.world.store.notices = before.world.store.notices ++ new ∧
      there.world.store.notices = before.world.store.notices ++ newToo ∧
      new.map Notification.anonymous = newToo.map Notification.anonymous) ∧
    here.world.store.guilds.map Guild.undated = there.world.store.guilds.map Guild.undated ∧
    ∀ index ∈ ownListeners, ∀ outcome,
      here.world.metrics.count (.events (ownHandler config index).name outcome) =
        there.world.metrics.count (.events (ownHandler config index).name outcome) := by
  obtain ⟨log, noted, grown, rfl, tracks⟩ :=
    tracks_of_turns begun calm clock supplies turns (Nat.le_refl _)
  -- The turns of the one listener do not commute with those of the other on the bus, where they
  -- number the messages. Both ends are compared with what follows from the events instead.
  have begunToo : OwnBegun config (before.supplied supply) := begun
  have calmToo : (before.supplied supply).Calm := ⟨calm.outages, calm.delays⟩
  obtain ⟨logToo, notedToo, grownToo, same, tracksToo⟩ :=
    tracks_of_turns begunToo calmToo clock suppliesToo turnsToo (Nat.le_refl _)
  have settles := tracks.settles rests
  have settlesToo := same ▸ tracksToo.settles restsToo
  obtain ⟨new, listed, made⟩ := settles.notices
  obtain ⟨newToo, listedToo, madeToo⟩ := settlesToo.notices
  refine ⟨⟨new, newToo, listed, listedToo, made.trans madeToo.symm⟩,
    settles.guilds.trans settlesToo.guilds.symm, ?_⟩
  intro index own outcome
  simp only [ownListeners, List.mem_cons, List.not_mem_nil, or_false] at own
  rcases own with rfl | rfl
  · exact (settles.noteFates outcome).trans (settlesToo.noteFates outcome).symm
  · exact (settles.growthFates outcome).trans (settlesToo.growthFates outcome).symm

/-- Whether a listener can handle the next message and has not fallen behind. -/
def isDue (session : Session) (index : Nat) : Bool :=
  (session.listener? index).any fun listener =>
    listener.phase = .listening && !listener.broken && !listener.job.isSome && !listener.cancelled &&
      session.world.bus.oldest ≤ listener.position && listener.position < session.world.bus.size

/-- The session after a listener had its turn. -/
def handledBy (session : Session) (index : Nat) : Session :=
  match session.listener? index with
  | none => session
  | some listener =>
    match session.world.bus.messages[listener.position]? with
    | none => session
    | some message =>
      (session.setListener index (listener.movedTo (listener.position + 1))).take index
        (listener.movedTo (listener.position + 1)) message

theorem Turns.handledBy (turns : Turns before events session) {index : Nat}
    (own : index ∈ ownListeners) (due : session.isDue index) :
    Turns before events (session.handledBy index) := by
  obtain ⟨listener, found, due⟩ := (Option.any_eq_true _ _).mp due
  simp only [Bool.and_eq_true, decide_eq_true_eq, Bool.not_eq_true', Option.isSome_eq_false_iff,
    Option.isNone_iff_eq_none] at due
  obtain ⟨⟨⟨⟨⟨listening, sound⟩, free⟩, uncancelled⟩, near⟩, ahead⟩ := due
  have here := Array.getElem?_eq_getElem ahead
  have next : session.world.bus.read? listener.position =
      some (session.world.bus.messages[listener.position], listener.position + 1) := by
    rw [Bus.read?, Nat.max_eq_left near, here]
    rfl
  rw [Session.handledBy, found]
  dsimp only
  rw [here]
  exact turns.handled own (.read found ⟨listening, sound, free, uncancelled⟩ next)

/-- The listeners have begun, and other identifiers will be handed out. -/
def servingToo : Session := serving.supplied fun n => Uuid.ofSerial (n + 1)

/-- For one event, the one listener has its turn first and then the other, or the other way round. -/
theorem same_of_turns_request :
    let here := (requested.handledBy 0).handledBy 1
    let there := ((servingToo.answer (.publish request)).2.handledBy 1).handledBy 0
    Turns serving [request] here ∧ Turns servingToo [request] there ∧ here.Rests ∧ there.Rests ∧
      ∀ index ∈ ownListeners, ∀ outcome,
        here.world.metrics.count (.events (ownHandler {} index).name outcome) =
          there.world.metrics.count (.events (ownHandler {} index).name outcome) := by
  have fresh : ∀ world : World, world.store.notices = [] → world.Supplies [request].length := by
    intro world none_stored
    refine ⟨fun i above below j aboveToo belowToo _ => ?_, none_stored ▸ List.forall_mem_nil _⟩
    rw [List.length_singleton] at below belowToo
    omega
  have fanout : 0 ∈ ownListeners := List.mem_cons_self
  have advancement : 1 ∈ ownListeners := List.mem_cons_of_mem 0 List.mem_cons_self
  have turns : Turns serving [request] requested := .published .start request
  have turnsToo : Turns servingToo [request] (servingToo.answer (.publish request)).2 :=
    .published .start request
  have ended := (turns.handledBy fanout (by cbv)).handledBy advancement (by cbv)
  have endedToo := (turnsToo.handledBy advancement (by cbv)).handledBy fanout (by cbv)
  have rests : ((requested.handledBy 0).handledBy 1).Rests := by
    intro index own
    simp only [ownListeners, List.mem_cons, List.not_mem_nil, or_false] at own
    rcases own with rfl | rfl <;> cbv
  have restsToo :
      (((servingToo.answer (.publish request)).2.handledBy 1).handledBy 0).Rests := by
    intro index own
    simp only [ownListeners, List.mem_cons, List.not_mem_nil, or_false] at own
    rcases own with rfl | rfl <;> cbv
  exact ⟨ended, endedToo, rests, restsToo,
    (same_of_turns begun_serving ⟨rfl, rfl⟩ (by decide) (fresh _ rfl) (fresh _ rfl) ended endedToo
      rests restsToo).2.2⟩

end Session

end Parley
