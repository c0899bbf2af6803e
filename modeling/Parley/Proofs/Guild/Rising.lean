import Mathlib.Data.List.ReduceOption
import Parley.Proofs.Guild.Advancing
import Parley.Proofs.Guild.Gaining

/-!
# The rises of a guild

Events that are handled one after the other are worth experience to guilds, each to one at most. The
rises that are made known of a guild lead from the level that it had to the level that it has, one
level at a time, and each of them tells what was stored when it was made known.
-/

namespace Parley

open Calendar (Instant)

/-- An event, and the time at which it is handled. -/
structure Occurrence where
  clock : Nat
  topic : String
  payload : Payload

/-- The rise of a guild as it is made known. -/
structure Rise where
  guild : Uuid
  oldLevel : Int
  newLevel : Int
  experience : Int
  time : Instant
  deriving DecidableEq

namespace Rise

def announcement (rise : Rise) : Announcement :=
  .guildLeveledUp rise.guild rise.oldLevel rise.newLevel rise.experience rise.time

def message (rise : Rise) : Message := ⟨rise.announcement.topic, rise.announcement.payload.toBody⟩

/-- The rises of one guild. -/
def ofGuild (id : Uuid) (rises : List Rise) : List Rise := rises.filter (·.guild = id)

/-- These rises lead from one level to another, each to the level above the one before it. -/
inductive Lead : Int → List Rise → Int → Prop
  | stay (level : Int) : Lead level [] level
  | climb {last : Int} {rise : Rise} {rest : List Rise}
    (next : rise.newLevel = rise.oldLevel + 1) (leads : Lead rise.newLevel rest last) :
    Lead rise.oldLevel (rise :: rest) last

namespace Lead

variable {first middle last : Int} {rises more : List Rise}

theorem append (leads : Lead first rises middle) (later : Lead middle more last) :
    Lead first (rises ++ more) last := by
  induction leads with
  | stay level => exact later
  | climb next leads ih => exact .climb next (ih later)

/-- There are as many rises as levels. -/
theorem length_eq (leads : Lead first rises last) : (rises.length : Int) = last - first := by
  induction leads with
  | stay level => exact (Int.sub_self level).symm
  | climb next leads ih =>
    rw [List.length_cons]
    omega

end Lead

end Rise

def Guild.rank (guild : Guild) : Rank := ⟨guild.level, guild.experience⟩

/-- At most one guild has changed, and of that only level, experience and the time of the change. -/
def Store.ChangesOneGuild (before after : Store) : Prop :=
  after = before ∨ ∃ id level experience updatedAt, after = { before with
    guilds := before.guilds.map fun guild =>
      if guild.id = id then { guild with level, experience, updatedAt } else guild }

namespace Store

variable {store : Store} {guild : Guild} {p : Progression} {time : Instant}

/-- A guild as it is set to its level, if it is the one that gains. -/
def raised (id : Uuid) (p : Progression) (time : Instant) (guild : Guild) : Guild :=
  if guild.id = id then
    { guild with level := p.newLevel, experience := p.experience, updatedAt := time }
  else guild

theorem id_raised (id : Uuid) (guild : Guild) : (raised id p time guild).id = guild.id := by
  rw [raised]
  split <;> rfl

theorem guilds_leveled (distinct : (store.guilds.map Guild.id).Nodup) (id : Uuid) (p : Progression)
    (time : Instant) : (store.leveled id p time).guilds = store.guilds.map (raised id p time) :=
  Table.modify_eq_map (fun _ => rfl) distinct

theorem changesOneGuild_leveled (distinct : (store.guilds.map Guild.id).Nodup) (id : Uuid)
    (p : Progression) (time : Instant) : store.ChangesOneGuild (store.leveled id p time) := by
  refine .inr ⟨id, p.newLevel, p.experience, time, ?_⟩
  exact congrArg (fun guilds => { store with guilds }) (guilds_leveled distinct id p time)

theorem ids_leveled (distinct : (store.guilds.map Guild.id).Nodup) (id : Uuid) :
    (store.leveled id p time).guilds.map Guild.id = store.guilds.map Guild.id := by
  rw [guilds_leveled distinct, List.map_map]
  exact List.map_congr_left fun guild _ => id_raised id guild

theorem guild?_leveled (distinct : (store.guilds.map Guild.id).Nodup) (listed : guild ∈ store.guilds)
    (id : Uuid) (p : Progression) (time : Instant) :
    (store.leveled id p time).guild? guild.id = some (raised id p time guild) := by
  have member : raised id p time guild ∈ (store.leveled id p time).guilds := by
    rw [guilds_leveled distinct]
    exact List.mem_map_of_mem listed
  have found := (Table.mem_iff_find?_eq_some (ids_leveled distinct id ▸ distinct)).mp member
  rwa [id_raised] at found

/-- Which guild a character belongs to does not depend on levels. -/
theorem guildOf?_leveled (distinct : (store.guilds.map Guild.id).Nodup) (id character : Uuid) :
    (store.leveled id p time).guildOf? character =
      (store.guildOf? character).map (raised id p time) := by
  have status : ∀ guild : Guild, (raised id p time guild).status = guild.status := by
    intro guild
    rw [raised]
    split <;> rfl
  have founded : ∀ a b : Guild, foundedBefore (raised id p time a) (raised id p time b) =
      foundedBefore a b := by
    intro a b
    rw [raised, raised]
    split <;> split <;> rfl
  have active : (store.leveled id p time).activeGuilds =
      store.activeGuilds.map (raised id p time) := by
    rw [activeGuilds, activeGuilds, guilds_leveled distinct, List.filter_map,
      List.map_mergeSort fun a _ b _ => (founded a b).symm]
    exact congrArg (fun keep => (List.map (raised id p time) (store.guilds.filter keep)).mergeSort
      foundedBefore) (funext fun guild => congrArg (· == GuildStatus.active) (status guild))
  rw [guildOf?, guildOf?, active, List.find?_map]
  refine congrArg (Option.map (raised id p time)) (congrArg (List.find? · _) (funext fun guild => ?_))
  exact congrArg (fun id => (store.member? id character).isSome) (id_raised id guild)

end Store

/-- The rise that is made known when a guild gains, if it rises by that. -/
def World.rise? (world : World) (guild : Guild) (p : Progression) : Option Rise :=
  if p.leveledUp then some ⟨guild.id, p.oldLevel, p.newLevel, p.experience, world.now⟩ else none

namespace Advancement

variable (config : Config.GuildProgression)

/-- The world after an event was handled. -/
def after (world : World) (event : Occurrence) : World :=
  ((handle config guildOf event.topic event.payload).perform { world with clock := event.clock }).2

/-- The world after events were handled, one after the other. -/
def afterAll (world : World) (events : List Occurrence) : World :=
  events.foldl (after config) world

/-- The guild that an event is worth experience to, and how much. -/
def award? (store : Store) (event : Occurrence) : Option (Uuid × Int) :=
  if experienceFor config event.topic ≤ 0 then none
  else match event.payload.uuid? "character_id" with
    | .ok (some character) =>
      (store.guildOf? character).map fun guild => (guild.id, experienceFor config event.topic)
    | _ => none

/-- What events are worth to a guild, one after the other. -/
def amountsFor (store : Store) (id : Uuid) (events : List Occurrence) : List Int :=
  events.filterMap fun event =>
    (award? config store event).bind fun (guild, amount) => if guild = id then some amount else none

/-- An event does nothing but to let time pass, or one guild gains what the event is worth. -/
theorem after_cases (world : World) (event : Occurrence) :
    (award? config world.store event = none ∧
      after config world event = { world with clock := event.clock }) ∨
    ∃ guild ∈ world.store.guilds,
      award? config world.store event = some (guild.id, experienceFor config event.topic) ∧
      after config world event = World.advanced { world with clock := event.clock } guild
        (.gain guild.level guild.experience (experienceFor config event.topic)
          config.experiencePerLevel) := by
  rw [after, perform_handle, award?, verdict]
  dsimp only
  split
  · exact .inl ⟨rfl, rfl⟩
  · cases event.payload.uuid? "character_id" with
    | error e => exact .inl ⟨rfl, rfl⟩
    | ok character? =>
      cases character? with
      | none => exact .inl ⟨rfl, rfl⟩
      | some character =>
        dsimp only [bind, Except.bind, pure, Except.pure]
        cases found : world.store.guildOf? character with
        | none => exact .inl ⟨rfl, rfl⟩
        | some guild => exact .inr ⟨guild, Store.mem_of_guildOf? found, rfl, rfl⟩

/-- What an event is worth to whom does not depend on levels. -/
theorem award?_leveled {store : Store} (distinct : (store.guilds.map Guild.id).Nodup) (id : Uuid)
    (p : Progression) (time : Instant) (event : Occurrence) :
    award? config (store.leveled id p time) event = award? config store event := by
  rw [award?, award?]
  split
  · rfl
  · cases event.payload.uuid? "character_id" with
    | error e => rfl
    | ok character? =>
      cases character? with
      | none => rfl
      | some character =>
        dsimp only
        rw [Store.guildOf?_leveled distinct, Option.map_map]
        refine congrArg (Option.map · _) (funext fun guild => ?_)
        exact congrArg (·, experienceFor config event.topic) (Store.id_raised id guild)

/-- What an event does: at most one guild changes, and when it rises a level that is made known as it
is stored. -/
structure Advances (before : World) (rise? : Option Rise) (after : World) : Prop where
  changes : before.store.ChangesOneGuild after.store
  published : after.bus.messages.toList =
    before.bus.messages.toList ++ rise?.toList.map Rise.message
  stored : ∀ rise ∈ rise?, rise.time = after.now ∧
    ∃ guild, after.store.guild? rise.guild = some guild ∧
      guild.level = rise.newLevel ∧ guild.experience = rise.experience

/-- What has become of a guild that was worth these amounts, when these rises were made known. -/
structure Becomes (guild : Guild) (amounts : List Int) (rises : List Rise) (next : Guild) : Prop where
  id : next.id = guild.id
  rank : next.rank = guild.rank.gainAll config.experiencePerLevel amounts
  leads : Rise.Lead guild.level (Rise.ofGuild guild.id rises) next.level

variable {config}

theorem Becomes.trans {guild next last : Guild} {amounts more : List Int} {rises later : List Rise}
    (becomes : Becomes config guild amounts rises next) (becomesToo : Becomes config next more later last) :
    Becomes config guild (amounts ++ more) (rises ++ later) last where
  id := becomesToo.id.trans becomes.id
  rank := by
    rw [becomesToo.rank, becomes.rank, Rank.gainAll, Rank.gainAll, Rank.gainAll, List.foldl_append]
  leads := by
    have later := becomesToo.leads
    rw [becomes.id] at later
    rw [Rise.ofGuild, List.filter_append]
    exact becomes.leads.append later

variable {world : World} {guild : Guild} {event : Occurrence}

theorem advances_advanced (distinct : (world.store.guilds.map Guild.id).Nodup)
    (listed : guild ∈ world.store.guilds) (p : Progression) :
    Advances world (world.rise? guild p) (world.advanced guild p) := by
  constructor
  · rw [World.store_advanced]
    exact Store.changesOneGuild_leveled distinct guild.id p world.now
  · rw [World.bus_advanced, World.rise?]
    split <;> rfl
  · intro rise known
    rw [World.rise?] at known
    split at known
    · obtain rfl := Option.some.inj known
      refine ⟨(World.now_advanced world guild p).symm, Store.raised guild.id p world.now guild, ?_, ?_⟩
      · rw [World.store_advanced]
        exact Store.guild?_leveled distinct listed guild.id p world.now
      · rw [Store.raised, if_pos rfl]
        exact ⟨rfl, rfl⟩
    · cases known

/-- The guild that gains. -/
theorem becomes_raised (world : World) (guild : Guild) (amount : Int) :
    let p := Progression.gain guild.level guild.experience amount config.experiencePerLevel
    Becomes config guild [amount] (world.rise? guild p).toList
      (Store.raised guild.id p world.now guild) := by
  intro p
  have old : p.oldLevel = guild.level := Progression.oldLevel_gain
  have new : p.newLevel = guild.level + if p.leveledUp then 1 else 0 :=
    Progression.newLevel_gain _ _ _ _
  rw [Store.raised, if_pos rfl, World.rise?]
  refine ⟨rfl, rfl, ?_⟩
  dsimp only
  by_cases risen : p.leveledUp
  · let rise : Rise := ⟨guild.id, p.oldLevel, p.newLevel, p.experience, world.now⟩
    rw [if_pos risen, ← old] at new
    have next : rise.newLevel = rise.oldLevel + 1 := new
    have one : Rise.ofGuild guild.id [rise] = [rise] := List.filter_eq_self.mpr (by simp [rise])
    rw [if_pos risen, Option.toList_some, one, ← old]
    exact .climb next (.stay _)
  · rw [if_neg risen, Int.add_zero] at new
    rw [if_neg risen, new]
    exact .stay _

/-- A guild that another one gains beside. -/
theorem becomes_of_ne {gains : Guild} (other : guild.id ≠ gains.id) (world : World)
    (p : Progression) : Becomes config guild [] (world.rise? gains p).toList
      (Store.raised gains.id p world.now guild) := by
  rw [Store.raised, if_neg other, World.rise?]
  refine ⟨rfl, rfl, ?_⟩
  split
  · have none_own : Rise.ofGuild guild.id
        [⟨gains.id, p.oldLevel, p.newLevel, p.experience, world.now⟩] = [] :=
      List.filter_eq_nil_iff.mpr (by simpa using Ne.symm other)
    rw [Option.toList_some, none_own]
    exact .stay _
  · exact .stay _

/-- What one event does, and what becomes of each guild by it. -/
theorem exists_advances (distinct : (world.store.guilds.map Guild.id).Nodup) (event : Occurrence) :
    ∃ rise?, Advances world rise? (after config world event) ∧
      ((after config world event).store.guilds.map Guild.id).Nodup ∧
      (∀ other, award? config (after config world event).store other =
        award? config world.store other) ∧
      ∀ guild ∈ world.store.guilds, ∃ next ∈ (after config world event).store.guilds,
        Becomes config guild (amountsFor config world.store guild.id [event]) rise?.toList next := by
  rcases after_cases config world event with ⟨none, same⟩ | ⟨gains, listed, award, same⟩
  · rw [same]
    refine ⟨.none, ⟨.inl rfl, (List.append_nil _).symm, nofun⟩, distinct, fun _ => rfl, ?_⟩
    intro guild listed
    refine ⟨guild, listed, rfl, ?_, .stay _⟩
    rw [amountsFor, List.filterMap_cons_none (by rw [none]; rfl)]
    rfl
  · let amount := experienceFor config event.topic
    let p := Progression.gain gains.level gains.experience amount config.experiencePerLevel
    let here : World := { world with clock := event.clock }
    have advances : Advances here (here.rise? gains p) (here.advanced gains p) := by
      apply advances_advanced
      · exact distinct
      · exact listed
    have store : (here.advanced gains p).store = world.store.leveled gains.id p here.now :=
      World.store_advanced here gains p
    rw [same]
    refine ⟨here.rise? gains p, ⟨advances.changes, advances.published, advances.stored⟩, ?_, ?_, ?_⟩
    · rw [store, Store.ids_leveled distinct]
      exact distinct
    · intro other
      rw [store, award?_leveled config distinct]
    · intro guild member
      refine ⟨Store.raised gains.id p here.now guild, ?_, ?_⟩
      · rw [store, Store.guilds_leveled distinct]
        exact List.mem_map_of_mem member
      · by_cases own : guild.id = gains.id
        · obtain rfl : guild = gains := List.inj_on_of_nodup_map distinct member listed own
          have worth : amountsFor config world.store guild.id [event] = [amount] := by
            rw [amountsFor, List.filterMap_cons_some (by rw [award]; exact if_pos rfl)]
            rfl
          rw [worth]
          exact becomes_raised here guild amount
        · have worth : amountsFor config world.store guild.id [event] = [] := by
            rw [amountsFor, List.filterMap_cons_none (by rw [award]; exact if_neg (Ne.symm own))]
            rfl
          rw [worth]
          exact becomes_of_ne own here p

theorem amountsFor_congr {store other : Store}
    (same : ∀ event, award? config other event = award? config store event) (id : Uuid)
    (events : List Occurrence) :
    amountsFor config other id events = amountsFor config store id events := by
  rw [amountsFor, amountsFor]
  exact congrArg (List.filterMap · events) (funext fun event => by rw [same])

/-- However events are handled one after the other, each changes at most one guild, and each guild
is where what they were worth to it has brought it. The rises that are made known of a guild lead
from the level that it had to that level. -/
theorem rises_lead (config : Config.GuildProgression) (world : World) (events : List Occurrence)
    (distinct : (world.store.guilds.map Guild.id).Nodup) :
    ∃ rises : List (Option Rise), rises.length = events.length ∧
      (∀ i rise?, rises[i]? = some rise? →
        Advances (afterAll config world (events.take i)) rise?
          (afterAll config world (events.take (i + 1)))) ∧
      ∀ guild ∈ world.store.guilds, ∃ risen,
        (afterAll config world events).store.guild? guild.id = some risen ∧
        risen.rank = guild.rank.gainAll config.experiencePerLevel
          (amountsFor config world.store guild.id events) ∧
        Rise.Lead guild.level (Rise.ofGuild guild.id rises.reduceOption) risen.level ∧
        ((Rise.ofGuild guild.id rises.reduceOption).length : Int) = risen.level - guild.level := by
  -- By induction from the first event on: what the later ones are worth is the same before it.
  induction events generalizing world with
  | nil =>
    refine ⟨[], rfl, nofun, fun guild listed => ⟨guild, ?_, rfl, .stay _, ?_⟩⟩
    · exact (Table.mem_iff_find?_eq_some distinct).mp listed
    · exact (Int.sub_self _).symm
  | cons event events ih =>
    obtain ⟨rise?, advances, distinctThen, worth, becomes⟩ := exists_advances distinct event
    obtain ⟨rises, length, steps, leads⟩ := ih (after config world event) distinctThen
    refine ⟨rise? :: rises, by rw [List.length_cons, length, List.length_cons], ?_, ?_⟩
    · intro i known? here
      cases i with
      | zero =>
        obtain rfl := Option.some.inj here
        exact advances
      | succ i => exact steps i known? here
    · intro guild listed
      obtain ⟨next, member, becomes⟩ := becomes guild listed
      obtain ⟨risen, found, rank, climbs, -⟩ := leads next member
      have later : Becomes config next (amountsFor config world.store guild.id events)
          rises.reduceOption risen := by
        refine ⟨Table.key_of_find? found, ?_, climbs⟩
        rw [rank, amountsFor_congr worth, becomes.id]
      have whole := becomes.trans later
      have amounts : amountsFor config world.store guild.id [event] ++
          amountsFor config world.store guild.id events =
          amountsFor config world.store guild.id (event :: events) :=
        (List.filterMap_append (l := [event])).symm
      have known : rise?.toList ++ rises.reduceOption = (rise? :: rises).reduceOption := by
        cases rise? <;> rfl
      rw [amounts, known] at whole
      refine ⟨risen, ?_, whole.rank, whole.leads, whole.leads.length_eq⟩
      rw [← becomes.id]
      exact found

/-- A guild that is about to rise. -/
def watch : Guild := { Guild.found ⟨1⟩ default "Night Watch" "NW" ⟨2⟩ with experience := 960 }

/-- A world with this guild and one member. -/
def watched : World where
  store := { guilds := [watch], members := [⟨watch.id, ⟨10⟩, "member", default⟩] }

/-- The member captures a territory, twice, and in between somebody does who is in no guild. -/
def captures : List Occurrence :=
  ["00000000-0000-0000-0000-00000000000a", "00000000-0000-0000-0000-00000000000b",
    "00000000-0000-0000-0000-00000000000a"].zipIdx.map fun (character, clock) =>
    ⟨clock, "events:territory:captured:keep", ⟨[("character_id", .string character)]⟩⟩

theorem rises_lead_captures : (watched.store.guilds.map Guild.id).Nodup ∧
    ∃ rises : List (Option Rise), rises.length = 3 ∧
      Rise.Lead 1 (Rise.ofGuild watch.id rises.reduceOption) 2 ∧
      ∃ risen, (afterAll {} watched captures).store.guild? watch.id = some risen ∧
        risen.rank = ⟨2, 60⟩ := by
  have distinct : (watched.store.guilds.map Guild.id).Nodup := List.nodup_singleton _
  obtain ⟨rises, length, -, leads⟩ := rises_lead {} watched captures distinct
  obtain ⟨risen, found, rank, climbs, -⟩ := leads watch (List.mem_singleton_self _)
  have amounts : amountsFor {} watched.store watch.id captures = [50, 50] := by decide +kernel
  have reached : risen.rank = ⟨2, 60⟩ := by
    rw [rank, amounts]
    decide
  have level : risen.level = 2 := congrArg Rank.level reached
  exact ⟨distinct, rises, length, level ▸ climbs, risen, found, reached⟩

end Advancement

end Parley
