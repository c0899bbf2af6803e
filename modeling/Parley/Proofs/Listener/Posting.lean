import Parley.Proofs.Listener.Circulation
import Parley.Proofs.Moderation.Resolution

/-!
# What comes of the messages that were read

Among the messages since some time there are the events from outside and the messages that the two
listeners have published themselves. What the listener for notifications has stored follows from the
events that it has read, and so do the guilds from the events that the other listener has read. The
messages of the listeners themselves do nothing but to be counted.
-/

namespace Parley

open Calendar (Instant)

/-- A message since some time: an event from outside, a push or the rise of a guild. -/
inductive Posting where
  | event (message : Message)
  | push (notice : Notification) (data : Json.Members)
  | rise (guild : Uuid) (p : Progression) (time : Instant)

namespace Posting

def message : Posting → Message
  | event message => message
  | push notice data => ⟨(Announcement.noticePushed notice data).topic,
      (Announcement.noticePushed notice data).payload.toBody⟩
  | rise guild p time =>
    ⟨(Announcement.guildLeveledUp guild p.oldLevel p.newLevel p.experience time).topic,
      (Announcement.guildLeveledUp guild p.oldLevel p.newLevel p.experience time).payload.toBody⟩

def event? : Posting → Option Message
  | event message => some message
  | _ => none

def rise? : Posting → Option (Uuid × Progression)
  | rise guild p _ => some (guild, p)
  | _ => none

/-- The rise of a guild was made known at a time of the calendar. -/
def Dated : Posting → Prop
  | rise _ _ time => Instant.inCalendar time.seconds
  | _ => True

/-- The events from outside. -/
def events (log : List Posting) : List Message := log.filterMap event?

def rises (log : List Posting) : List (Uuid × Progression) := log.filterMap rise?

/-- What becomes of the message that a guild has risen, whenever that was. -/
def fateOfRise (rows : List Preferences) (risen : Uuid × Progression) : Fate :=
  (Fanout.heard rows (rise risen.1 risen.2 default).message).1

/-- What the listener for notifications makes of a message. -/
def fate (rows : List Preferences) : Posting → Fate
  | event message => (Fanout.heard rows message).1
  | push .. => .ignored
  | rise guild p _ => fateOfRise rows (guild, p)

/-- What the event asks for. -/
def request? (rows : List Preferences) (posting : Posting) : Option NotificationRequest :=
  posting.event?.bind fun message => (Fanout.heard rows message).2

variable {posting : Posting} {log more : List Posting}

theorem events_append : events (log ++ more) = events log ++ events more := List.filterMap_append

theorem rises_append : rises (log ++ more) = rises log ++ rises more := List.filterMap_append

theorem heard_message (rows : List Preferences) (dated : posting.Dated) :
    Fanout.heard rows posting.message = (posting.fate rows, posting.request? rows) := by
  cases posting with
  | event message => rfl
  | push notice data => exact Fanout.heard_pushed rows notice data
  | rise guild p time => exact Fanout.heard_leveledUp rows dated rfl

theorem isEcho_of_event? (other : posting.event? = none) : IsEcho posting.message := by
  cases posting with
  | event message => cases other
  | push notice data => exact .pushed notice data
  | rise guild p time => exact .leveledUp guild p.oldLevel p.newLevel p.experience time

/-- The order of the messages does not matter to how many of them come to an outcome. -/
theorem count_fate (rows : List Preferences) (log : List Posting) (outcome : EventOutcome) :
    (log.map (fate rows)).count (.settled outcome) =
      ((events log).map fun message => (Fanout.heard rows message).1).count (.settled outcome) +
        ((rises log).map (fateOfRise rows)).count (.settled outcome) := by
  induction log with
  | nil => rfl
  | cons posting log ih =>
    rw [List.map_cons, List.count_cons, ih]
    cases posting with
    | event message =>
      have here : events (event message :: log) = message :: events log := rfl
      have none_risen : rises (event message :: log) = rises log := rfl
      rw [here, none_risen, List.map_cons, List.count_cons, fate]
      omega
    | push notice data => rfl
    | rise guild p time =>
      have no_event : events (rise guild p time :: log) = events log := rfl
      have here : rises (rise guild p time :: log) = (guild, p) :: rises log := rfl
      rw [no_event, here, List.map_cons, List.count_cons, fate]
      omega

end Posting

/-- A notification without what is generated for it: the identifier and the time. -/
def Notification.anonymous (notice : Notification) : Notification :=
  { notice with id := default, createdAt := default }

/-- The notifications that events ask for. -/
def Fanout.requests (rows : List Preferences) (events : List Message) : List NotificationRequest :=
  events.filterMap fun message => (heard rows message).2

/-- The next so many identifiers are distinct, and none of them is one of a notification. -/
structure World.Supplies (n : Nat) (world : World) : Prop where
  distinct : Moderation.DistinctAhead n world
  unused : ∀ notice ∈ world.store.notices, Moderation.Fresh notice.id n world

theorem Posting.requests_concat (rows : List Preferences) (read : List Posting)
    (posting : Posting) : Fanout.requests rows (events (read ++ [posting])) =
      Fanout.requests rows (events read) ++ (posting.request? rows).toList := by
  rw [events_append, Fanout.requests, Fanout.requests, List.filterMap_append]
  refine congrArg _ ?_
  cases posting with
  | event message =>
    change List.filterMap _ [message] = (Fanout.heard rows message).2.toList
    rw [List.filterMap_cons]
    cases (Fanout.heard rows message).2 <;> rfl
  | push notice data => rfl
  | rise guild p time => rfl

/-- The listener for notifications has read these messages: the notifications that their events ask
for come after the others. -/
structure Notes (before : World) (read : List Posting) (world : World) : Prop where
  preferences : world.store.preferences = before.store.preferences
  supply : world.supply = before.supply
  issued : world.issued = before.issued +
    (Fanout.requests before.store.preferences (Posting.events read)).length
  notices : ∃ new, world.store.notices = before.store.notices ++ new ∧
    new.map Notification.anonymous =
      (Fanout.requests before.store.preferences (Posting.events read)).map
        (Notification.ofRequest default default) ∧
    ∀ notice ∈ new, ∃ i, before.issued < i ∧ i ≤ world.issued ∧ notice.id = before.supply i

namespace Notes

variable {before world after : World} {read : List Posting} {n : Nat}

theorem nothing (world : World) : Notes world [] world :=
  ⟨rfl, rfl, rfl, [], (List.append_nil _).symm, rfl, List.forall_mem_nil _⟩

/-- What has nothing to do with notifications leaves them as they are. -/
theorem aside (notes : Notes before read world)
    (preferences : after.store.preferences = world.store.preferences)
    (notices : after.store.notices = world.store.notices) (supply : after.supply = world.supply)
    (issued : after.issued = world.issued) : Notes before read after where
  preferences := preferences.trans notes.preferences
  supply := supply.trans notes.supply
  issued := issued.trans notes.issued
  notices := by
    rw [notices, issued]
    exact notes.notices

/-- The next identifier is not used yet. -/
theorem unused (notes : Notes before read world) (supplies : before.Supplies n)
    (few : world.issued < before.issued + n) :
    world.supply (world.issued + 1) ∉ world.store.notices.map Notification.id := by
  obtain ⟨new, listed, -, named⟩ := notes.notices
  have more : before.issued ≤ world.issued := by
    rw [notes.issued]
    exact Nat.le_add_right _ _
  rw [listed, notes.supply, List.map_append, List.mem_append, not_or]
  constructor
  · intro used
    obtain ⟨notice, old, same⟩ := List.mem_map.mp used
    exact supplies.unused notice old _ (by omega) (by omega) same.symm
  · intro used
    obtain ⟨notice, young, same⟩ := List.mem_map.mp used
    obtain ⟨i, above, below, drawn⟩ := named notice young
    have again := supplies.distinct i above (by omega) _ (by omega) (by omega) (drawn.symm.trans same)
    omega

/-- A message is read, and what its event asks for is stored. -/
theorem hear (notes : Notes before read world) (supplies : before.Supplies n) (posting : Posting)
    (few : (Posting.events (read ++ [posting])).length ≤ n) :
    Notes before (read ++ [posting])
      ((posting.request? before.store.preferences).elim world world.notified) := by
  have known := Posting.requests_concat before.store.preferences read posting
  have fewer : (Fanout.requests before.store.preferences
      (Posting.events (read ++ [posting]))).length ≤ n :=
    Nat.le_trans (List.length_filterMap_le _ _) few
  cases asked : posting.request? before.store.preferences with
  | none =>
    rw [asked, Option.toList_none, List.append_nil] at known
    exact ⟨notes.preferences, notes.supply, known ▸ notes.issued, known ▸ notes.notices⟩
  | some request =>
    rw [asked, Option.toList_some] at known
    have fresh : world.supply (world.issued + 1) ∉ world.store.notices.map Notification.id := by
      refine notes.unused supplies ?_
      rw [known, List.length_append, List.length_singleton] at fewer
      rw [notes.issued]
      omega
    have store := (world.store_notified request).trans (World.putNotice_noticeFor fresh request)
    have issued := world.issued_notified request
    obtain ⟨new, listed, same, named⟩ := notes.notices
    constructor
    · exact (congrArg Store.preferences store).trans notes.preferences
    · exact (world.supply_notified request).trans notes.supply
    · rw [known, List.length_append, List.length_singleton, ← Nat.add_assoc, ← notes.issued]
      exact issued
    · refine ⟨new ++ [world.noticeFor request], ?_, ?_, ?_⟩
      · refine (congrArg Store.notices store).trans ?_
        dsimp only
        rw [listed, List.append_assoc]
      · rw [known, List.map_append, List.map_append, same]
        rfl
      · intro notice member
        change ∃ i, _ ∧ i ≤ (world.notified request).issued ∧ _
        rw [issued]
        rcases List.mem_append.mp member with old | last
        · obtain ⟨i, above, below, drawn⟩ := named notice old
          exact ⟨i, above, Nat.le_succ_of_le below, drawn⟩
        · obtain rfl := List.mem_singleton.mp last
          refine ⟨world.issued + 1, ?_, Nat.le_refl _, congrFun notes.supply _⟩
          rw [notes.issued]
          omega

end Notes

/-- What comes of the events when one more message is read. -/
theorem Posting.growth_concat (config : Config.GuildProgression) (store : Store)
    (read : List Posting) (posting : Posting) :
    Advancement.growth config store (events (read ++ [posting])) =
      posting.event?.elim (Advancement.growth config store (events read))
        ((Advancement.growth config store (events read)).hear config) := by
  rw [events_append]
  cases posting with
  | event message => exact Advancement.growth_concat config store (events read) message
  | _ => exact congrArg _ (List.append_nil _)

namespace World

/-- What was done published these messages. It let no time pass and counted nothing. -/
structure Posts (world : World) (more : List Posting) (after : World) : Prop where
  published : after.bus.messages.toList = world.bus.messages.toList ++ more.map Posting.message
  clock : after.clock = world.clock
  metrics : after.metrics = world.metrics
  dated : Instant.inCalendar world.now.seconds → ∀ posting ∈ more, posting.Dated
  noEvent : Posting.events more = []

variable (world : World)

theorem posts_nothing : world.Posts [] world :=
  ⟨(List.append_nil _).symm, rfl, rfl, fun _ => List.forall_mem_nil _, rfl⟩

/-- A notification may be pushed. The guilds stay as they are. -/
theorem posts_notified (request : NotificationRequest) :
    ∃ more, world.Posts more (world.notified request) ∧ Posting.rises more = [] ∧
      (world.notified request).store.roster = world.store.roster := by
  rw [notified]
  split
  · refine ⟨[.push (world.noticeFor request) request.data], ⟨?_, rfl, rfl, ?_, rfl⟩, rfl, rfl⟩
    · exact Array.toList_push
    · exact fun _ posting listed => List.mem_singleton.mp listed ▸ trivial
  · exact ⟨[], ⟨(List.append_nil _).symm, rfl, rfl, fun _ => List.forall_mem_nil _, rfl⟩, rfl, rfl⟩

/-- What an event asks for is done, if it asks for something. -/
theorem posts_elim (request? : Option NotificationRequest) :
    ∃ more, world.Posts more (request?.elim world world.notified) ∧ Posting.rises more = [] ∧
      (request?.elim world world.notified).store.roster = world.store.roster := by
  cases request? with
  | none => exact ⟨[], world.posts_nothing, rfl, rfl⟩
  | some request => exact world.posts_notified request

/-- The rise of a guild is made known. Notifications stay as they are. -/
theorem posts_advanced (guild : Guild) (p : Progression) :
    ∃ more, world.Posts more (world.advanced guild p) ∧
      Posting.rises more = (if p.leveledUp then [(guild.id, p)] else []) ∧
      (world.advanced guild p).store = world.store.leveled guild.id p world.now ∧
      (world.advanced guild p).supply = world.supply ∧
      (world.advanced guild p).issued = world.issued := by
  rw [advanced]
  split
  · refine ⟨[.rise guild.id p world.now], ⟨?_, rfl, rfl, ?_, rfl⟩, rfl, rfl, rfl, rfl⟩
    · exact Array.toList_push
    · exact fun dated posting listed => List.mem_singleton.mp listed ▸ dated
  · exact ⟨[], ⟨(List.append_nil _).symm, rfl, rfl, fun _ => List.forall_mem_nil _, rfl⟩, rfl, rfl,
      rfl, rfl⟩

/-- The guilds become what comes of the event, or stay as they are when the message is none. -/
theorem posts_treat (config : Config.GuildProgression) {growth : Advancement.Growth}
    (same : world.store.roster = growth.store) (posting : Posting) :
    let treated := (Advancement.handler config).treat posting.message world
    let next := posting.event?.elim growth (growth.hear config)
    ∃ more, world.Posts more treated.2 ∧ next.rises = growth.rises ++ Posting.rises more ∧
      treated.2.store.roster = next.store ∧
      (∀ outcome, next.fates.count (.settled outcome) =
        (growth.fates ++ [treated.1]).count (.settled outcome)) ∧
      treated.2.store.preferences = world.store.preferences ∧
      treated.2.store.notices = world.store.notices ∧ treated.2.supply = world.supply ∧
      treated.2.issued = world.issued := by
  dsimp only
  cases found : posting.event? with
  | none =>
    have ignored : (Advancement.handler config).treat posting.message world = (.ignored, world) := by
      rw [Handler.treat, (Posting.isEcho_of_event? found).advancement_wants]
      rfl
    rw [ignored]
    refine ⟨[], world.posts_nothing, (List.append_nil _).symm, same, fun outcome => ?_, rfl, rfl, rfl,
      rfl⟩
    rw [List.count_append, List.count_singleton]
    rfl
  | some message =>
    obtain rfl : posting = .event message := by
      cases posting with
      | event other => exact congrArg Posting.event (Option.some.inj found)
      | _ => cases found
    rw [Option.elim_some, Advancement.Growth.hear_eq config same message world.now, Posting.message,
      Advancement.treat_handler]
    rcases Advancement.heard config world.store message with ⟨fate, gain?⟩
    cases gain? with
    | none =>
      exact ⟨[], world.posts_nothing, (List.append_nil _).symm, same, fun _ => rfl, rfl, rfl, rfl, rfl⟩
    | some gain =>
      obtain ⟨guild, p⟩ := gain
      obtain ⟨more, posts, risen, store, supply, issued⟩ := world.posts_advanced guild p
      have kept : (world.advanced guild p).store.preferences = world.store.preferences ∧
          (world.advanced guild p).store.notices = world.store.notices := by
        rw [store]
        exact ⟨rfl, rfl⟩
      exact ⟨more, posts, congrArg _ risen.symm, congrArg Store.roster store, fun _ => rfl, kept.1,
        kept.2, supply, issued⟩

/-- Counting an outcome changes nothing but the counts. -/
theorem counted_eq (name : String) (fate : Fate) :
    ∃ metrics, world.counted name fate = { world with metrics } := by
  cases fate <;> exact ⟨_, rfl⟩

/-- The outcomes of a consumer were counted as the fates of the events say. -/
def CountedSince (before : World) (name : String) (fates : List Fate) (world : World) : Prop :=
  ∀ outcome, world.metrics.count (.events name outcome) =
    before.metrics.count (.events name outcome) + fates.count (.settled outcome)

variable {world} {before after : World} {name : String} {fates : List Fate}

theorem CountedSince.of_metrics (counted : before.CountedSince name fates world)
    (metrics : after.metrics = world.metrics) : before.CountedSince name fates after := by
  intro outcome
  rw [metrics]
  exact counted outcome

theorem CountedSince.here (counted : before.CountedSince name fates world) (fate : Fate) :
    before.CountedSince name (fates ++ [fate]) (world.counted name fate) := by
  intro outcome
  rw [count_counted, counted outcome, List.count_append, List.count_singleton, Nat.add_assoc]
  simp only [beq_iff_eq]

theorem CountedSince.elsewhere (counted : before.CountedSince name fates world) {other : String}
    (apart : other ≠ name) (fate : Fate) :
    before.CountedSince name fates (world.counted other fate) :=
  fun outcome => (count_counted_of_ne world apart fate outcome).trans (counted outcome)

end World

end Parley
