import Parley.Guild.Advancement
import Parley.Proofs.Session.Calm
import Parley.Proofs.Session.Sending
import Parley.Proofs.Store.Table

/-!
# What an event comes to for a guild

An event is refused, or it is skipped, or it is worth experience to one guild. Which of them it is
depends on the event, on the guilds and on their members, and not on when guilds were changed last.
-/

namespace Parley

open Calendar (Instant)

/-- Whether a character belongs to a guild. -/
def Store.belongs (store : Store) (character : Uuid) (guild : Guild) : Bool :=
  (store.member? guild.id character).isSome

namespace Advancement

variable (character : Uuid) (world : World)

theorem perform_firstWithMember (guilds : List Guild) :
    (firstWithMember character guilds).perform world =
      (.ok (guilds.find? (world.store.belongs character)), world) := by
  induction guilds with
  | nil => rfl
  | cons guild rest ih =>
    have found : (Action.findMember guild.id character).perform world =
        (.ok (world.store.member? guild.id character), world) := rfl
    rw [firstWithMember, Action.perform_bind, found]
    dsimp only
    change (if world.store.belongs character guild then pure (some guild)
      else firstWithMember character rest).perform world = _
    by_cases belongs : world.store.belongs character guild
    · rw [List.find?_cons_of_pos belongs, if_pos belongs]
      rfl
    · rw [List.find?_cons_of_neg belongs, if_neg belongs]
      exact ih

/-- What a turn of the search comes to: an answer, or the offset of the next page. -/
inductive Turn where
  | answered (guild? : Option Guild)
  | further (offset : Int)

/-- Reads one page of guilds and looks through it. A page that is not full is the last one. -/
def turn (offset : Int) : Action Turn := do
  let page ← Action.listActiveGuilds World.guildPageSize offset
  match ← firstWithMember character page with
  | some guild => pure (.answered (some guild))
  | none =>
    if page.length < World.guildPageSize then pure (.answered none)
    else pure (.further (offset + page.length))

/-- A turn answers for all guilds that are left, or a whole page of them is behind it and does not
matter any more. -/
theorem perform_turn (offset : Nat) :
    let first (offset : Nat) :=
      (world.store.activeGuilds.drop offset).find? (world.store.belongs character)
    (turn character offset).perform world = (.ok (.answered (first offset)), world) ∨
      (turn character offset).perform world =
          (.ok (.further (offset + World.guildPageSize : Nat)), world) ∧
        offset + World.guildPageSize ≤ world.store.activeGuilds.length ∧
        first (offset + World.guildPageSize) = first offset := by
  dsimp only
  let rest := world.store.activeGuilds.drop offset
  have page : (Action.listActiveGuilds World.guildPageSize offset).perform world =
      (.ok (rest.take World.guildPageSize), world) := rfl
  have parts : rest = rest.take World.guildPageSize ++ rest.drop World.guildPageSize :=
    (List.take_append_drop _ _).symm
  rw [turn, Action.perform_bind, page]
  dsimp only
  rw [Action.perform_bind, perform_firstWithMember]
  dsimp only
  cases found : (rest.take World.guildPageSize).find? (world.store.belongs character) with
  | some guild =>
    refine .inl ?_
    change _ = (Except.ok (Turn.answered (rest.find? _)), world)
    rw [parts, List.find?_append, found]
    rfl
  | none =>
    have later : (rest.drop World.guildPageSize).find? (world.store.belongs character) =
        rest.find? (world.store.belongs character) := by
      conv_rhs => rw [parts, List.find?_append, found]
      rfl
    dsimp only
    by_cases short : (rest.take World.guildPageSize).length < World.guildPageSize
    · refine .inl ?_
      have last : rest.drop World.guildPageSize = [] := by
        rw [List.length_take] at short
        exact List.drop_eq_nil_of_le (by omega)
      change _ = (Except.ok (Turn.answered (rest.find? _)), world)
      rw [if_pos short, ← later, last]
      rfl
    · have size : (rest.take World.guildPageSize).length = World.guildPageSize := by
        rw [List.length_take] at short ⊢
        omega
      have within : World.guildPageSize ≤ rest.length := by
        rw [List.length_take] at size
        omega
      refine .inr ⟨?_, ?_, ?_⟩
      · rw [if_neg short, size]
        rfl
      · rw [List.length_drop] at within
        rw [World.guildPageSize] at *
        omega
      · rw [← List.drop_drop]
        exact later

/-- The search takes one turn after the other. -/
theorem perform_scan_succ (bound : Nat) (offset : Int) :
    (scan character (bound + 1) offset).perform world =
      match (turn character offset).perform world with
      | (.ok (.answered guild?), world) => (.ok guild?, world)
      | (.ok (.further next), world) => (scan character bound next).perform world
      | (.error e, world) => (.error e, world) := by
  have page : (Action.listActiveGuilds World.guildPageSize offset).perform world =
      (.ok (world.store.listActiveGuilds World.guildPageSize offset), world) := rfl
  rw [scan, turn, Action.perform_bind, Action.perform_bind, page]
  dsimp only
  rw [Action.perform_bind, Action.perform_bind, perform_firstWithMember]
  dsimp only
  cases List.find? _ _ with
  | some guild => rfl
  | none =>
    dsimp only
    split <;> rfl

/-- As many pages as the guilds fill are enough to find the guild of a character. -/
theorem perform_scan {bound offset : Nat}
    (enough : world.store.activeGuilds.length < offset + bound * World.guildPageSize) :
    (scan character bound offset).perform world =
      (.ok ((world.store.activeGuilds.drop offset).find? (world.store.belongs character)), world) := by
  -- By induction on the pages that may still be read.
  induction bound generalizing offset with
  | zero =>
    rw [List.drop_eq_nil_of_le (by omega)]
    rfl
  | succ bound ih =>
    rw [perform_scan_succ]
    rcases perform_turn character world offset with answered | ⟨further, -, later⟩
    · rw [answered]
    · rw [further]
      dsimp only at later ⊢
      rw [← later]
      exact ih (by rw [Nat.succ_mul] at enough; omega)

/-- Page by page, the oldest active guild of a character is found. -/
theorem perform_guildOf : (guildOf character).perform world =
    (.ok (world.store.guildOf? character), world) := by
  have active : world.store.activeGuilds.length ≤ world.store.guilds.length := by
    rw [Store.activeGuilds, List.length_mergeSort]
    exact List.length_filter_le _ _
  have bound : (Action.ask .guildPageBound).perform world =
      (.ok (world.store.guilds.length / World.guildPageSize + 2), world) := rfl
  rw [guildOf, Action.perform_bind, bound]
  refine perform_scan character world (?_ : _ < 0 + _ * _)
  rw [World.guildPageSize]
  omega

end Advancement

/-- The store after a guild was set to a level. -/
def Store.leveled (store : Store) (id : Uuid) (p : Progression) (time : Instant) : Store :=
  { store with guilds := (Table.modify Guild.id id (fun guild => { guild with
    level := p.newLevel, experience := p.experience, updatedAt := time }) store.guilds).2 }

/-- The world after a guild has gained experience: it is set to its level, and a rise is made known. -/
def World.advanced (world : World) (guild : Guild) (p : Progression) : World :=
  let leveled := { world with store := world.store.leveled guild.id p world.now }
  if p.leveledUp then
    leveled.announced (.guildLeveledUp guild.id p.oldLevel p.newLevel p.experience world.now)
  else leveled

theorem World.store_advanced (world : World) (guild : Guild) (p : Progression) :
    (world.advanced guild p).store = world.store.leveled guild.id p world.now := by
  rw [advanced]
  split <;> rfl

theorem World.now_advanced (world : World) (guild : Guild) (p : Progression) :
    (world.advanced guild p).now = world.now := by
  rw [advanced]
  split <;> rfl

/-- A rise is published, and nothing else. -/
theorem World.bus_advanced (world : World) (guild : Guild) (p : Progression) :
    (world.advanced guild p).bus.messages.toList = world.bus.messages.toList ++
      if p.leveledUp then
        let rise : Announcement :=
          .guildLeveledUp guild.id p.oldLevel p.newLevel p.experience world.now
        [⟨rise.topic, rise.payload.toBody⟩]
      else [] := by
  rw [advanced]
  split
  · exact Array.toList_push
  · exact (List.append_nil _).symm

/-- A guild that is found is there. -/
theorem Store.mem_of_guildOf? {store : Store} {character : Uuid} {guild : Guild}
    (found : store.guildOf? character = some guild) : guild ∈ store.guilds :=
  List.mem_of_mem_filter (List.mem_mergeSort.mp (List.mem_of_find?_eq_some found))

theorem Store.setGuildLevel_eq {store : Store} {guild : Guild} (listed : guild ∈ store.guilds)
    (p : Progression) (time : Instant) :
    store.setGuildLevel guild.id p.newLevel p.experience time =
      some (store.leveled guild.id p time) := by
  have found : (Table.find? Guild.id guild.id store.guilds).isSome := by
    rw [Option.isSome_iff_ne_none, ne_eq, Table.find?_eq_none_iff, not_not]
    exact List.mem_map_of_mem listed
  obtain ⟨row, found⟩ := Option.isSome_iff_exists.mp found
  rw [setGuildLevel, leveled, Table.modify, found]

namespace Advancement

variable (config : Config.GuildProgression)

/-- The guild that an event is worth experience to, and how far that takes it. -/
def verdict (store : Store) (topic : String) (payload : Payload) :
    Except Error (Option (Guild × Progression)) := do
  let amount := experienceFor config topic
  if amount ≤ 0 then pure none
  else
    match ← payload.uuid? "character_id" with
    | none => pure none
    | some character =>
      pure ((store.guildOf? character).map fun guild =>
        (guild, .gain guild.level guild.experience amount config.experiencePerLevel))

/-- For an event the handler does what its verdict says. -/
theorem perform_handle (topic : String) (payload : Payload) (world : World) :
    (handle config guildOf topic payload).perform world =
      match verdict config world.store topic payload with
      | .error e => (.error (.refused e), world)
      | .ok none => (.ok .skipped, world)
      | .ok (some (guild, p)) => (.ok .processed, world.advanced guild p) := by
  rw [handle, verdict]
  dsimp only
  split
  · rfl
  · rw [Action.perform_bind]
    cases payload.uuid? "character_id" with
    | error e => rfl
    | ok character? =>
      cases character? with
      | none => rfl
      | some character =>
        change Action.perform (guildOf character >>= _) world = _
        rw [Action.perform_bind, perform_guildOf]
        conv_rhs => dsimp only [bind, Except.bind, pure, Except.pure]
        cases found : world.store.guildOf? character with
        | none => rfl
        | some guild =>
          let p := Progression.gain guild.level guild.experience (experienceFor config topic)
            config.experiencePerLevel
          have set : (Action.setGuildLevel guild.id p.newLevel p.experience).perform world =
              (.ok (), { world with store := world.store.leveled guild.id p world.now }) := by
            rw [Action.perform_setGuildLevel,
              Store.setGuildLevel_eq (Store.mem_of_guildOf? found) p world.now]
          change Action.perform
            (Action.setGuildLevel guild.id p.newLevel p.experience >>= _) world = _
          rw [Action.perform_bind, set]
          change _ = (Except.ok Handled.processed, world.advanced guild p)
          rw [World.advanced]
          dsimp only
          split <;> rfl

/-- What becomes of a message, and which guild gains by it. -/
def heard (store : Store) (message : Message) : Fate × Option (Guild × Progression) :=
  if (handler config).wants message.topic then
    match Payload.ofBody message.body with
    | .error _ => (.settled .decodeError, none)
    | .ok payload =>
      match verdict config store message.topic payload with
      | .error _ => (.settled .failed, none)
      | .ok none => (.settled .skipped, none)
      | .ok (some gain) => (.settled .processed, some gain)
  else (.ignored, none)

theorem treat_handler (message : Message) (world : World) :
    (handler config).treat message world = ((heard config world.store message).1,
      (heard config world.store message).2.elim world fun (guild, p) => world.advanced guild p) := by
  rw [Handler.treat, heard]
  split
  · cases Payload.ofBody message.body with
    | error e => rfl
    | ok payload =>
      dsimp only
      change ((Listener.outcome ((handle config guildOf message.topic payload).perform world).1).elim Fate.silenced .settled,
        ((handle config guildOf message.topic payload).perform world).2) = _
      rw [perform_handle]
      cases verdict config world.store message.topic payload with
      | error e => rfl
      | ok gain? => cases gain? <;> rfl
  · rfl

theorem asks_guildOf {p : Request → Prop} (bound : p .guildPageBound)
    (list : ∀ limit offset, p (.listActiveGuilds limit offset))
    (find : ∀ guild character, p (.findMember guild character)) (character : Uuid) :
    (guildOf character).Asks p := by
  have first : ∀ guilds, (firstWithMember character guilds).Asks p := by
    intro guilds
    induction guilds with
    | nil => exact .pure none
    | cons guild rest ih =>
      exact .bind (.answered (.ask (find _ _))) fun found => .ite (.pure _) ih
  have scan : ∀ bound offset, (scan character bound offset).Asks p := by
    intro bound
    induction bound with
    | zero => exact fun _ => .pure none
    | succ bound ih =>
      intro offset
      refine Action.Asks.bind (.answered (.ask (list _ _))) fun page => ?_
      refine .bind (first page) fun found => ?_
      cases found with
      | some guild => exact .pure _
      | none => exact .ite (.pure _) (ih _)
  exact .bind (.ask bound) fun bound => scan bound 0

/-- The requests that the handler makes. -/
theorem asks_handle {p : Request → Prop} {find : Uuid → Action (Option Guild)}
    (finds : ∀ character, (find character).Asks p) (now : p .now)
    (set : ∀ guild level experience, p (.setGuildLevel guild level experience))
    (publish : ∀ message, p (.publish message)) (topic : String) (payload : Payload) :
    (handle config find topic payload).Asks p := by
  rw [handle]
  dsimp only
  refine .ite (.pure _) (.bind (.ofAnswer _) fun character? => ?_)
  cases character? with
  | none => exact .pure _
  | some character =>
    refine .bind (finds character) fun guild? => ?_
    cases guild? with
    | none => exact .pure _
    | some guild =>
      refine .bind (.answered (.ask (set _ _ _))) fun _ => .ite (.bind (.ask now) fun time => ?_)
        (.pure _)
      exact .bind (Action.asks_announce (publish _)) fun _ => .pure _

/-- The handler is never aborted. -/
theorem steady_handle (topic : String) (payload : Payload) :
    (handle config guildOf topic payload).Steady := by
  have first : ∀ character guilds, (firstWithMember character guilds).Steady := by
    intro character guilds
    induction guilds with
    | nil => exact .pure none
    | cons guild rest ih => exact .bind (.answered (.ask _)) fun found => .ite (.pure _) ih
  have scan : ∀ character bound offset, (scan character bound offset).Steady := by
    intro character bound
    induction bound with
    | zero => exact fun _ => .pure none
    | succ bound ih =>
      intro offset
      refine .bind (.answered (.ask _)) fun page => .bind (first character page) fun found => ?_
      cases found with
      | some guild => exact .pure _
      | none => exact .ite (.pure _) (ih _)
  rw [handle]
  dsimp only
  refine .ite (.pure _) (.bind (.ofAnswer _) fun character? => ?_)
  cases character? with
  | none => exact .pure _
  | some character =>
    refine .bind (.bind (.ask _) fun bound => scan character bound 0) fun guild? => ?_
    cases guild? with
    | none => exact .pure _
    | some guild =>
      refine .bind (.answered (.ask _)) fun _ => .ite (.bind (.ask _) fun time => ?_) (.pure _)
      exact .bind (Action.steady_announce _) fun _ => .pure _

theorem prompt_handler : (handler config).Prompt :=
  asks_handle config (asks_guildOf nofun (fun _ _ => nofun) fun _ _ => nofun) nofun
    (fun _ _ _ => nofun) fun _ => nofun

end Advancement

/-- A guild without the time of its last change. -/
def Guild.undated (guild : Guild) : Guild := { guild with updatedAt := default }

namespace Store

/-- The guilds and their members alone, without the times at which guilds were changed. -/
def roster (store : Store) : Store where
  guilds := store.guilds.map Guild.undated
  members := store.members

variable (store : Store)

theorem roster_leveled (id : Uuid) (p : Progression) (time : Instant) :
    (store.leveled id p time).roster = store.roster.leveled id p default := by
  rw [roster, leveled, leveled]
  refine congrArg (fun guilds => ({ guilds, members := store.members } : Store)) ?_
  have kept : ∀ guild : Guild, guild.undated.id = guild.id := fun _ => rfl
  exact Table.map_modify Guild.undated kept fun _ => rfl

theorem activeGuilds_roster : store.roster.activeGuilds = store.activeGuilds.map Guild.undated := by
  have sorted : ∀ guilds : List Guild, (guilds.mergeSort foundedBefore).map Guild.undated =
      (guilds.map Guild.undated).mergeSort foundedBefore := fun _ =>
    List.map_mergeSort fun _ _ _ _ => rfl
  rw [activeGuilds, activeGuilds, sorted, roster, List.filter_map]
  rfl

theorem guildOf?_roster (character : Uuid) :
    store.roster.guildOf? character = (store.guildOf? character).map Guild.undated := by
  rw [guildOf?, activeGuilds_roster, List.find?_map]
  rfl

end Store

namespace Advancement

variable (config : Config.GuildProgression)

/-- When guilds were changed does not matter to what becomes of a message. -/
theorem heard_roster (store : Store) (message : Message) :
    heard config store.roster message = ((heard config store message).1,
      (heard config store message).2.map fun (guild, p) => (guild.undated, p)) := by
  have verdicts : ∀ topic payload, verdict config store.roster topic payload =
      (verdict config store topic payload).map
        (Option.map fun (guild, p) => (guild.undated, p)) := by
    intro topic payload
    rw [verdict, verdict]
    dsimp only
    split
    · rfl
    · cases payload.uuid? "character_id" with
      | error e => rfl
      | ok character? =>
        cases character? with
        | none => rfl
        | some character =>
          dsimp only [bind, Except.bind, pure, Except.pure]
          rw [Store.guildOf?_roster]
          cases store.guildOf? character <;> rfl
  rw [heard, heard]
  split
  · cases Payload.ofBody message.body with
    | error e => rfl
    | ok payload =>
      dsimp only
      rw [verdicts]
      rcases verdict config store message.topic payload with _ | _ | _ <;> rfl
  · rfl

/-- What has come of messages so far: the guilds, what became of each message, and the guilds that
have risen a level. -/
structure Growth where
  store : Store
  fates : List Fate
  rises : List (Uuid × Progression)

namespace Growth

/-- What has come of messages when one more was heard. -/
def hear (growth : Growth) (message : Message) : Growth :=
  match heard config growth.store message with
  | (fate, none) => { growth with fates := growth.fates ++ [fate] }
  | (fate, some (guild, p)) =>
    { store := growth.store.leveled guild.id p default
      fates := growth.fates ++ [fate]
      rises := growth.rises ++ if p.leveledUp then [(guild.id, p)] else [] }

theorem hear_eq {growth : Growth} {store : Store} (same : store.roster = growth.store)
    (message : Message) (time : Instant) :
    growth.hear config message =
      match heard config store message with
      | (fate, none) => { growth with fates := growth.fates ++ [fate] }
      | (fate, some (guild, p)) =>
        { store := (store.leveled guild.id p time).roster
          fates := growth.fates ++ [fate]
          rises := growth.rises ++ if p.leveledUp then [(guild.id, p)] else [] } := by
  rw [hear, ← same, heard_roster]
  obtain ⟨fate, gain?⟩ := heard config store message
  cases gain? with
  | none => rfl
  | some gain =>
    dsimp only [Option.map_some]
    rw [Store.roster_leveled]
    rfl

end Growth

/-- What comes of events, one after the other. -/
def growth (store : Store) (events : List Message) : Growth :=
  events.foldl (Growth.hear config) ⟨store, [], []⟩

theorem growth_concat (store : Store) (events : List Message) (message : Message) :
    growth config store (events ++ [message]) =
      (growth config store events).hear config message := by
  rw [growth, List.foldl_append]
  rfl

end Advancement

end Parley
