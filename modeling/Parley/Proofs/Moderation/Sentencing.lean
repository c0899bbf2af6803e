import Parley.Config.Check
import Parley.Proofs.Moderation.Uniqueness

/-!
# The hours of automatic bans

The hours of automatic bans are settings that no check bounds. A call that decides to ban succeeds,
and its ban is in force at once, exactly if the hours are positive and the calendar reaches to the
end of the ban. With more hours the call is aborted; with none or fewer, the ban has expired when it
is given.
-/

namespace Parley

open Calendar (Instant)

/-- A request that changes no ban, hands out no identifier and takes no time. -/
def Request.Incidental (request : Request) : Prop :=
  request.SparesBans ∧ ∀ ms, request ≠ .pause ms

/-- Whether a request draws an identifier, which is the first thing that is done to give a ban. -/
def Request.drawsId : Request → Bool
  | freshId => true
  | _ => false

/-- So many hours from now are ahead, and in the calendar. -/
def Calendar.Instant.Precedes (now : Instant) (hours : Int) : Prop :=
  0 < hours ∧ Instant.inCalendar (now.seconds + 3600 * hours) = true

theorem Calendar.Instant.precedes_iff {now : Instant} {hours : Int} :
    now.Precedes hours ↔ ∃ expiry, now.addHours? hours = some expiry ∧ now < expiry := by
  rw [Precedes, addHours?]
  constructor
  · rintro ⟨positive, within⟩
    refine ⟨_, if_pos within, ?_⟩
    rw [Instant.lt_def]
    dsimp only
    omega
  · rintro ⟨expiry, ends, ahead⟩
    split at ends
    · next within =>
      obtain rfl := Option.some.inj ends
      rw [Instant.lt_def] at ahead
      dsimp only at ahead
      exact ⟨by omega, within⟩
    · exact absurd ends (by simp)

namespace Moderation

variable {α β : Type} {config : Config.Moderation} {actor : Uuid} {channel : Option Uuid}
  {scope : Option BanScope} {world : World} {time : Nat} {cause : BanCause} {hours : Int}

/-- Whom a call may ban on its own account, and where. -/
def Operation.culprit? : Operation → Option (Uuid × Option BanScope)
  | autoBanForSpam actor scope => some (actor, scope)
  | autoBanForViolations actor scope _ => some (actor, scope)
  | screen sender scope _ => some (sender, scope)
  | _ => none

/-- The call decides to give a ban: it draws an identifier for it. -/
def Operation.DecidesToBan (rules : Rules) (operation : Operation) (world : World) : Prop :=
  ((operation.action rules).asked world).any Request.drawsId = true

instance (rules : Rules) (operation : Operation) (world : World) :
    Decidable (operation.DecidesToBan rules world) :=
  inferInstanceAs (Decidable (_ = true))

/-- The action succeeds. It gives one ban, which is stored and keeps the actor from speaking in the
channel at the moment at which it is given. -/
structure Imposes (actor : Uuid) (channel : Option Uuid) (action : Action α) (world : World) :
    Prop where
  succeeds : ∃ answer, (action.perform world).1 = .ok answer
  clock : (action.perform world).2.clock = world.clock
  given : ∃ ban, action.created world = [ban] ∧ ban ∈ (action.perform world).2.store.bans ∧
    ban.silences actor channel world.now = true

theorem Imposes.found {action : Action α} (imposes : Imposes actor channel action world) :
    ∃ ban, ((checkBan actor channel).perform (action.perform world).2).1 = .ok (some ban) := by
  obtain ⟨ban, -, stored, silent⟩ := imposes.given
  have now : (action.perform world).2.now = world.now := congrArg Instant.ofMillis imposes.clock
  rw [perform_checkBan, now]
  cases found : (action.perform world).2.store.activeBan? actor channel world.now with
  | some other => exact ⟨other, rfl⟩
  | none =>
    have listed : ban ∈ (action.perform world).2.store.bansInForce actor channel world.now :=
      List.mem_filter.mpr ⟨stored, silent⟩
    rw [Store.bansInForce_eq_nil_iff.mpr found] at listed
    exact absurd listed List.not_mem_nil

theorem Imposes.of_map {action : Action α} {f : α → β}
    (imposes : Imposes actor channel (f <$> action) world) :
    Imposes actor channel action world := by
  obtain ⟨⟨answer, answered⟩, clock, given⟩ := imposes
  rw [Action.perform_map] at answered clock given
  rw [Action.created_map] at given
  refine ⟨?_, clock, given⟩
  cases result : (action.perform world).1 with
  | ok a => exact ⟨a, rfl⟩
  | error e => simp [result, Except.map] at answered

theorem clock_of_incidental {action : Action α} (h : action.Asks Request.Incidental)
    (world : World) : (action.perform world).2.clock = world.clock := by
  refine h.perform (r := fun world after => after.clock = world.clock) (fun _ => rfl)
    (fun first second => second.trans first) (fun request incidental world => ?_) world
  exact request.clock_perform (fun ms => incidental.2 (ms + 1)) world

theorem spares_of_incidental {action : Action α} (h : action.Asks Request.Incidental) :
    action.Asks Request.SparesBans :=
  Course.Asks.mono h fun _ incidental => incidental.1

theorem drawsId_of_incidental {action : Action α} (h : action.Asks Request.Incidental)
    (world : World) : (action.asked world).any Request.drawsId = false := by
  rw [List.any_eq_false]
  intro request made
  have incidental : request.Incidental :=
    Course.Asks.of_mem_asked h Request.perform world request made
  cases request with
  | freshId => exact absurd incidental.1 id
  | _ => exact Bool.false_ne_true

/-- What is done before a ban is given is nothing to it. -/
theorem imposes_bind_iff {action : Action α} {next : α → Action β} {a : α}
    (h : action.Asks Request.Incidental) (answered : (action.perform world).1 = .ok a) :
    Imposes actor channel (action >>= next) world ↔
      Imposes actor channel (next a) (action.perform world).2 := by
  have clock := clock_of_incidental h world
  have now : (action.perform world).2.now = world.now := congrArg Instant.ofMillis clock
  have performed : (action >>= next).perform world =
      (next a).perform (action.perform world).2 := by rw [Action.perform_bind, answered]
  have created : (action >>= next).created world =
      (next a).created (action.perform world).2 := by
    rw [Action.created_bind, created_of_spares (spares_of_incidental h), answered]
    rfl
  constructor
  · rintro ⟨succeeds, still, given⟩
    rw [performed] at succeeds still given
    rw [created, ← now] at given
    exact ⟨succeeds, still.trans clock.symm, given⟩
  · rintro ⟨succeeds, still, given⟩
    refine ⟨performed ▸ succeeds, performed ▸ still.trans clock, ?_⟩
    rw [performed, created, ← now]
    exact given

/-- Whenever the action draws an identifier at the time, it imposes a ban. -/
def Sentences (time : Nat) (actor : Uuid) (channel : Option Uuid) (action : Action α) : Prop :=
  ∀ world, world.clock = time → (action.asked world).any Request.drawsId = true →
    Imposes actor channel action world

namespace Sentences

theorem of_incidental {action : Action α} (h : action.Asks Request.Incidental) :
    Sentences time actor channel action := by
  intro world _ drawn
  rw [drawsId_of_incidental h] at drawn
  exact absurd drawn Bool.false_ne_true

theorem after_incidental {action : Action α} {next : α → Action β}
    (h : action.Asks Request.Incidental) (rest : ∀ a, Sentences time actor channel (next a)) :
    Sentences time actor channel (action >>= next) := by
  intro world now drawn
  have clock := clock_of_incidental h world
  rw [Action.asked_bind, List.any_append, drawsId_of_incidental h, Bool.false_or] at drawn
  cases result : (action.perform world).1 with
  | error e =>
    rw [result] at drawn
    exact absurd drawn Bool.false_ne_true
  | ok a =>
    rw [result] at drawn
    exact (imposes_bind_iff h result).mpr (rest a _ (clock.trans now) drawn)

theorem then_incidental {action : Action α} {next : α → Action β}
    (h : Sentences time actor channel action) (rest : ∀ a, (next a).Asks Request.Incidental)
    (sure : ∀ a world, ∃ b, ((next a).perform world).1 = .ok b) :
    Sentences time actor channel (action >>= next) := by
  intro world now drawn
  have early : (action.asked world).any Request.drawsId = true := by
    rw [Action.asked_bind, List.any_append, Bool.or_eq_true] at drawn
    refine drawn.resolve_right ?_
    cases (action.perform world).1 with
    | ok a =>
      dsimp only
      rw [drawsId_of_incidental (rest a)]
      exact Bool.false_ne_true
    | error e => exact Bool.false_ne_true
  obtain ⟨⟨a, answered⟩, clock, ban, created, stored, silent⟩ := h world now early
  have performed : (action >>= next).perform world =
      (next a).perform (action.perform world).2 := by rw [Action.perform_bind, answered]
  have createdAll : (action >>= next).created world = [ban] := by
    rw [Action.created_bind, created, answered]
    dsimp only
    rw [created_of_spares (spares_of_incidental (rest a)), List.append_nil]
  refine ⟨performed ▸ sure a _, ?_, ban, createdAll, ?_, silent⟩
  · rw [performed]
    exact (clock_of_incidental (rest a) _).trans clock
  · rw [performed, (sameBans_of_spares (spares_of_incidental (rest a)) _).bans]
    exact stored

theorem map {action : Action α} (f : α → β) (h : Sentences time actor channel action) :
    Sentences time actor channel (f <$> action) := by
  rw [Action.map_eq_bind]
  exact h.then_incidental (fun a => .pure (f a)) fun a world => ⟨f a, rfl⟩

theorem ite {yes no : Action α} {c : Prop} [Decidable c]
    (hyes : c → Sentences time actor channel yes) (hno : ¬ c → Sentences time actor channel no) :
    Sentences time actor channel (if c then yes else no) := by
  split
  · next holds => exact hyes holds
  · next fails => exact hno fails

theorem attempt {action : Action α} (h : Sentences time actor channel action) :
    Sentences time actor channel (Moderation.attempt action) := by
  intro world now drawn
  rw [asked_attempt] at drawn
  obtain ⟨⟨answer, answered⟩, clock, given⟩ := h world now drawn
  refine ⟨?_, ?_, ?_⟩
  · rw [perform_attempt, answered]
    exact ⟨(), rfl⟩
  · rw [perform_attempt]
    exact clock
  · rw [perform_attempt, created_attempt]
    exact given

end Sentences

theorem incidental_count (key : String) (window : Nat) :
    (Action.countInWindow key window).Asks Request.Incidental :=
  .countInWindow ⟨trivial, nofun⟩ ⟨trivial, nofun⟩ ⟨trivial, nofun⟩

theorem incidental_deleteCounter (key : String) :
    (Action.deleteCounter key).Asks Request.Incidental :=
  (Action.Asks.ask (r := .deleteCounter key) ⟨trivial, nofun⟩).answered

theorem incidental_readCounter (key : String) :
    (Action.readCounter key).Asks Request.Incidental :=
  asks_readCounter ⟨trivial, nofun⟩

theorem sentences_autoBan (ends : (Instant.ofMillis time).Precedes hours) :
    Sentences time actor (scope.map (·.channelId)) (autoBan actor scope cause hours) := by
  rintro world rfl -
  obtain ⟨expiry, reached, ahead⟩ := Instant.precedes_iff.mp ends
  obtain ⟨ban, bus, metrics, drafted, performed⟩ := perform_autoBan actor scope cause reached
  rw [show Instant.ofMillis world.clock = world.now from rfl] at reached ahead
  refine ⟨⟨ban, by rw [performed]⟩, by rw [performed], ban, ?_, ?_, ?_⟩
  · rw [created_autoBan, reached, drafted]
    rfl
  · rw [performed]
    exact Table.mem_of_find? (Table.find?_put_self ban world.store.bans)
  · rw [drafted]
    simpa [Ban.silences, Ban.appliesTo, Ban.inForceAt, autoBanned] using ahead

/-- The hours of each kind of automatic ban, if there are automatic bans at all, lead to a time that
is ahead and in the calendar. -/
def HoursInReach (config : Config.Moderation) (now : Instant) : Prop :=
  config.autoBanEnabled = true → ∀ hours ∈ [config.spamBanHours, config.severeBanHours],
    now.Precedes hours

section Reach

variable (reach : HoursInReach config (Instant.ofMillis time))
include reach

theorem sentences_autoBanForSpam :
    Sentences time actor (scope.map (·.channelId))
      (autoBanForSpam (Rules.ofConfig config) actor scope) := by
  refine .ite (fun _ => .of_incidental (.pure none)) fun enabled => ?_
  have enabled : config.autoBanEnabled = true := by simpa [Rules.ofConfig] using enabled
  have ends := reach enabled config.spamBanHours (by simp)
  refine .after_incidental (incidental_readCounter _) fun count => ?_
  exact .ite (fun _ => .of_incidental (.pure none)) fun _ => (sentences_autoBan ends).map _

theorem sentences_autoBanForViolations (violations : Int) :
    Sentences time actor (scope.map (·.channelId))
      (autoBanForViolations (Rules.ofConfig config) actor scope violations) := by
  refine .ite (fun _ => .of_incidental (.pure none)) fun escalates => ?_
  have enabled : config.autoBanEnabled = true := by
    simp only [Bool.or_eq_true, Bool.not_eq_true', not_or, Bool.not_eq_false] at escalates
    exact escalates.1
  exact (sentences_autoBan (reach enabled config.severeBanHours (by simp))).map _

theorem sentences_recordViolation :
    Sentences time actor (scope.map (·.channelId))
      (recordViolation (Rules.ofConfig config) actor scope) := by
  refine .after_incidental (incidental_count _ _) fun count => .ite (fun _ => ?_) fun _ => ?_
  · refine .then_incidental (sentences_autoBanForViolations reach count) (fun ban => ?_) ?_
    · exact .ite (incidental_deleteCounter _) (.pure ())
    · intro ban world
      split <;> exact ⟨(), rfl⟩
  · exact .of_incidental (.pure ())

theorem sentences_screen (content : String) :
    Sentences time actor (scope.map (·.channelId))
      (screen (Rules.ofConfig config) actor scope content) := by
  have looks : (checkBan actor (scope.map (·.channelId))).Asks Request.Incidental :=
    asks_checkBan ⟨trivial, nofun⟩ fun _ => ⟨trivial, nofun⟩
  have filters : (filterMessage (Rules.ofConfig config) content).Asks Request.Incidental :=
    asks_filterMessage _ fun _ => ⟨trivial, nofun⟩
  refine .after_incidental looks fun ban => ?_
  cases ban with
  | some ban => exact .of_incidental (.pure _)
  | none =>
    refine .after_incidental (asks_detectSpam (incidental_count _) (incidental_count _)) ?_
    intro isSpam
    refine .ite (fun _ => ?_) fun _ => .after_incidental filters fun outcome => ?_
    · exact (sentences_autoBanForSpam reach).attempt.then_incidental (fun _ => .pure _)
        fun _ _ => ⟨_, rfl⟩
    · refine .ite (fun _ => ?_) fun _ => .of_incidental (.pure _)
      exact (sentences_recordViolation reach).attempt.then_incidental (fun _ => .pure _)
        fun _ _ => ⟨_, rfl⟩

end Reach

theorem draws_autoBan (actor : Uuid) (scope : Option BanScope) (cause : BanCause) (hours : Int)
    (world : World) : ((autoBan actor scope cause hours).asked world).any Request.drawsId = true :=
  rfl

/-- The count of the sender's messages decides on a ban for spam. -/
theorem decidesToBan_autoBanForSpam_iff :
    (Operation.autoBanForSpam actor scope).DecidesToBan (Rules.ofConfig config) world ↔
      config.autoBanEnabled = true ∧ config.spamBurstLimit <
        ((world.counters.read world.clock (Rules.burstKey actor)).1).getD 0 := by
  change ((autoBanForSpam (Rules.ofConfig config) actor scope).asked world).any _ = true ↔ _
  rw [autoBanForSpam]
  by_cases enabled : config.autoBanEnabled = true
  · rw [if_neg (by simpa [Rules.ofConfig] using enabled), Action.asked_bind, List.any_append,
      drawsId_of_incidental (incidental_readCounter _), Bool.false_or,
      Action.perform_readCounter]
    dsimp only
    split
    · next few => exact ⟨nofun, fun many => absurd many.2 (Int.not_lt.mpr few)⟩
    · next many =>
      rw [Action.asked_map]
      exact ⟨fun _ => ⟨enabled, Int.not_le.mp many⟩, fun _ => draws_autoBan ..⟩
  · rw [if_pos (by simpa [Rules.ofConfig] using enabled)]
    exact ⟨nofun, fun allowed => absurd allowed.1 enabled⟩

theorem decidesToBan_autoBanForViolations_iff {violations : Int} :
    (Operation.autoBanForViolations actor scope violations).DecidesToBan (Rules.ofConfig config)
        world ↔
      config.autoBanEnabled = true ∧ config.severeViolationThreshold ≤ violations := by
  change ((autoBanForViolations (Rules.ofConfig config) actor scope violations).asked world).any _ =
    true ↔ _
  have refuses : (!config.autoBanEnabled || decide
        (violations < config.severeViolationThreshold)) = true ↔
      ¬ (config.autoBanEnabled = true ∧ config.severeViolationThreshold ≤ violations) := by
    cases config.autoBanEnabled <;> simp
  rw [autoBanForViolations]
  split
  · next refused => exact ⟨nofun, fun allowed => absurd allowed (refuses.mp refused)⟩
  · next escalates =>
    rw [Action.asked_map]
    exact ⟨fun _ => not_not.mp fun other => escalates (refuses.mpr other),
      fun _ => draws_autoBan ..⟩

theorem precedes_of_imposes
    (imposes : Imposes actor channel (autoBan actor scope cause hours) world) :
    world.now.Precedes hours := by
  obtain ⟨⟨answer, answered⟩, -, ban, created, -, silent⟩ := imposes
  cases ends : world.now.addHours? hours with
  | none =>
    rw [perform_autoBan_of_none ends] at answered
    exact absurd answered (by simp)
  | some expiry =>
    rw [created_autoBan, ends] at created
    obtain rfl : autoBanned (world.supply (world.issued + 1)) actor scope cause world.now expiry =
      ban := (List.cons.inj created).1
    refine Instant.precedes_iff.mpr ⟨expiry, ends, ?_⟩
    rw [Ban.silences, Bool.and_eq_true] at silent
    simpa [Ban.inForceAt, autoBanned] using silent.2

theorem precedes_of_autoBanForViolations (enabled : config.autoBanEnabled = true)
    (imposes : Imposes actor channel (autoBanForViolations (Rules.ofConfig config) actor scope
      config.severeViolationThreshold) world) : world.now.Precedes config.severeBanHours := by
  have unguarded : ¬ (!config.autoBanEnabled ||
      config.severeViolationThreshold < config.severeViolationThreshold) := by simp [enabled]
  rw [show autoBanForViolations (Rules.ofConfig config) actor scope
    config.severeViolationThreshold = some <$> autoBan actor scope .severe config.severeBanHours
    from if_neg unguarded] at imposes
  exact precedes_of_imposes imposes.of_map

theorem precedes_of_autoBanForSpam (enabled : config.autoBanEnabled = true)
    (many : config.spamBurstLimit <
      ((world.counters.read world.clock (Rules.burstKey actor)).1).getD 0)
    (imposes : Imposes actor channel (autoBanForSpam (Rules.ofConfig config) actor scope) world) :
    world.now.Precedes config.spamBanHours := by
  rw [autoBanForSpam, if_neg (by simpa [Rules.ofConfig] using enabled),
    imposes_bind_iff (incidental_readCounter _)
      (congrArg Prod.fst (Action.perform_readCounter _ world)),
    Action.perform_readCounter] at imposes
  have above : ¬ ((world.counters.read world.clock (Rules.burstKey actor)).1).getD 0 ≤
      (Rules.ofConfig config).config.spamBurstLimit := Int.not_le.mpr many
  dsimp only at imposes
  rw [if_neg above] at imposes
  -- The world differs in its counters only, so it is at the same time.
  have ends := precedes_of_imposes imposes.of_map
  exact ends

/-- Every call that decides to ban succeeds, with a ban that is in force and found at once, if and
only if there are no automatic bans or their hours lead ahead and not out of the calendar. -/
theorem autoBan_imposes_iff (config : Config.Moderation) (time : Nat) :
    (∀ (world : World) (operation : Operation) (actor : Uuid) (scope : Option BanScope),
      world.clock = time → operation.culprit? = some (actor, scope) →
      operation.DecidesToBan (Rules.ofConfig config) world →
      let action := operation.action (Rules.ofConfig config)
      Imposes actor (scope.map BanScope.channelId) action world ∧
      ∃ ban, ((checkBan actor (scope.map BanScope.channelId)).perform
        (action.perform world).2).1 = .ok (some ban)) ↔
    HoursInReach config (Instant.ofMillis time) := by
  constructor
  · intro all enabled hours listed
    rcases List.mem_cons.mp listed with rfl | listed
    · let world : World := { clock := time, counters :=
        { entries := [⟨Rules.burstKey ⟨0⟩, config.spamBurstLimit + 1, none⟩] } }
      have many : config.spamBurstLimit <
          ((world.counters.read world.clock (Rules.burstKey ⟨0⟩)).1).getD 0 := by
        have counted : (world.counters.read world.clock (Rules.burstKey ⟨0⟩)).1 =
            some (config.spamBurstLimit + 1) := by
          simp [world, Counters.read, Counters.find?, Table.find?, Counter.isLive]
        rw [counted]
        exact Int.lt_succ _
      have imposes := (all world (.autoBanForSpam ⟨0⟩ none) ⟨0⟩ none rfl rfl
        (decidesToBan_autoBanForSpam_iff.mpr ⟨enabled, many⟩)).1
      exact precedes_of_autoBanForSpam enabled many imposes
    · obtain rfl : hours = config.severeBanHours := List.mem_singleton.mp listed
      have imposes := (all { clock := time }
        (.autoBanForViolations ⟨0⟩ none config.severeViolationThreshold) ⟨0⟩ none rfl rfl
        (decidesToBan_autoBanForViolations_iff.mpr ⟨enabled, Int.le_refl _⟩)).1
      exact precedes_of_autoBanForViolations enabled imposes
  · rintro reach world operation actor scope now culprit decides action
    suffices imposes : Imposes actor (scope.map BanScope.channelId) action world from
      ⟨imposes, imposes.found⟩
    cases operation with
    | autoBanForSpam actor scope =>
      obtain ⟨rfl, rfl⟩ := Prod.mk.inj (Option.some.inj culprit)
      exact sentences_autoBanForSpam reach world now decides
    | autoBanForViolations actor scope violations =>
      obtain ⟨rfl, rfl⟩ := Prod.mk.inj (Option.some.inj culprit)
      exact sentences_autoBanForViolations reach violations world now decides
    | screen sender scope content =>
      obtain ⟨rfl, rfl⟩ := Prod.mk.inj (Option.some.inj culprit)
      exact sentences_screen reach content world now decides
    | _ => exact absurd culprit (by simp [Operation.culprit?])

/-- The second message of a burst, with the usual hours. -/
theorem autoBan_imposes_iff_burst :
    let config : Config.Moderation := { spamBurstLimit := 1 }
    let rules := Rules.ofConfig config
    let world := reached rules [⟨0, .screen ⟨1⟩ none "a"⟩] {}
    let second := Operation.screen ⟨1⟩ none "b"
    HoursInReach config (Instant.ofMillis 0) ∧ second.DecidesToBan rules world ∧
    Imposes ⟨1⟩ none (second.action rules) world := by
  intro config rules world second
  have reach : HoursInReach config (Instant.ofMillis 0) := by
    rintro - hours listed
    simp only [List.mem_cons, List.not_mem_nil, or_false] at listed
    rcases listed with rfl | rfl <;> exact ⟨by decide, by decide⟩
  have now : world.clock = 0 := by decide +kernel
  have decides : second.DecidesToBan rules world := by decide +kernel
  have imposes := (autoBan_imposes_iff config 0).mpr reach
  exact ⟨reach, decides, (imposes world second ⟨1⟩ none now rfl decides).1⟩

/-- Valid settings of which the second message of a burst makes a call fail, and others by which it
brings a ban that is over at once. -/
theorem autoBan_of_unbounded_hours :
    let settings hours : Config := { moderation := { spamBurstLimit := 1, spamBanHours := hours } }
    let rules hours := Rules.ofConfig (settings hours).moderation
    let world hours := reached (rules hours) [⟨0, .screen ⟨1⟩ none "a"⟩] {}
    let second : Call := ⟨0, .screen ⟨1⟩ none "b"⟩
    ((settings 9223372036854775807).validate = .ok () ∧
      second.operation.DecidesToBan (rules 9223372036854775807) (world 9223372036854775807) ∧
      second.answer (rules 9223372036854775807) (world 9223372036854775807) = .error .aborted) ∧
    (settings 0).validate = .ok () ∧
      second.operation.DecidesToBan (rules 0) (world 0) ∧
      second.answer (rules 0) (world 0) = .ok .spam ∧
      ((checkBan ⟨1⟩ none).perform (second.after (rules 0) (world 0))).1 = .ok none := by
  refine ⟨⟨?_, ?_, ?_⟩, ?_, ?_, ?_, ?_⟩ <;> decide +kernel

end Moderation

end Parley
