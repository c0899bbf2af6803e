import Parley.Proofs.Moderation.Mirroring
import Parley.Proofs.Moderation.Silencing
import Parley.Proofs.Store.Periods

/-!
# Counting violations

Screening touches the counters of violations in one place only, when it records a violation of a
message that it lets pass. So a screened message either leaves all counters of violations alone and
brings no ban for violations, or it does what recording a violation does.
-/

namespace Parley

/-- A request that touches no counter of violations and takes no time. -/
def Request.SparesViolations : Request → Prop
  | pause _ | countAtOnce .. => False
  | increment key | expire key _ | readCounter key | deleteCounter key =>
    ∀ sender, Rules.violationKey sender ≠ key
  | _ => True

namespace Moderation

open Calendar (Instant)

variable {α : Type} {world after later : World} {config : Config.Moderation} {sender : Uuid}
  {scope : Option BanScope} {content : String}

/-- All counters of violations are as they were, and no time has passed. -/
structure SameViolations (world after : World) : Prop where
  clock : after.clock = world.clock
  uptime : after.uptime = world.uptime
  distinct : after.counters.Distinct
  windows : ∀ sender, after.counters.window? world.clock (Rules.violationKey sender) =
    world.counters.window? world.clock (Rules.violationKey sender)

theorem SameViolations.refl (distinct : world.counters.Distinct) : SameViolations world world :=
  ⟨rfl, rfl, distinct, fun _ => rfl⟩

theorem SameViolations.trans (first : SameViolations world after)
    (second : SameViolations after later) : SameViolations world later := by
  refine ⟨second.clock.trans first.clock, second.uptime.trans first.uptime, second.distinct,
    fun sender => ?_⟩
  have windows := second.windows sender
  rw [first.clock] at windows
  exact windows.trans (first.windows sender)

theorem SameViolations.reading (same : SameViolations world after) :
    after.reading = world.reading := by
  rw [World.reading, World.reading, same.clock, same.uptime]

theorem SameViolations.perform {request : Request} (h : request.SparesViolations)
    (distinct : world.counters.Distinct) : SameViolations world (request.perform world).2 := by
  cases request with
  | pause ms => exact h.elim
  | countAtOnce key window => exact h.elim
  | increment key =>
    exact ⟨rfl, rfl, Counters.increment_distinct distinct, fun sender =>
      Counters.window?_increment_of_ne distinct (h sender).symm⟩
  | expire key ttl =>
    simp only [Request.perform]
    split
    · exact ⟨rfl, rfl, Counters.expire_distinct distinct, fun sender =>
        Counters.window?_expire_of_ne (h sender).symm⟩
    · exact .refl distinct
  | readCounter key =>
    exact ⟨rfl, rfl, Counters.read_distinct distinct, fun sender =>
      Counters.window?_read distinct⟩
  | deleteCounter key =>
    exact ⟨rfl, rfl, Counters.delete_distinct distinct, fun sender =>
      Counters.window?_delete_of_ne distinct (h sender).symm⟩
  | setGuildLevel guild level experience =>
    simp only [Request.perform]
    split <;> exact ⟨rfl, rfl, distinct, fun _ => rfl⟩
  | _ => exact ⟨rfl, rfl, distinct, fun _ => rfl⟩

theorem sameViolations_of_spares {action : Action α} (h : action.Asks Request.SparesViolations)
    (distinct : world.counters.Distinct) : SameViolations world (action.perform world).2 :=
  h.perform (r := fun world after => world.counters.Distinct → SameViolations world after)
    (fun _ => .refl)
    (fun first second distinct => (first distinct).trans (second (first distinct).distinct))
    (fun _ spares _ => .perform spares) world distinct

theorem sparesViolations_detectSpam :
    (detectSpam (Rules.ofConfig config) sender content).Asks Request.SparesViolations := by
  apply asks_detectSpam
  · intro window
    have apart := fun other => CounterName.violationKey_ne_burstKey other sender
    exact .countInWindow apart apart apart
  · intro window
    have apart := fun other => CounterName.violationKey_ne_duplicateKey other sender content
    exact .countInWindow apart apart apart

theorem sparesViolations_autoBan (cause : BanCause) (hours : Int) :
    (autoBan sender scope cause hours).Asks Request.SparesViolations :=
  asks_autoBan trivial trivial (fun _ => trivial) trivial fun _ _ => trivial

theorem sparesViolations_autoBanForSpam :
    (autoBanForSpam (Rules.ofConfig config) sender scope).Asks Request.SparesViolations :=
  asks_autoBanForSpam (fun other => CounterName.violationKey_ne_burstKey other sender) fun hours =>
    sparesViolations_autoBan .spam hours

theorem created_autoBan (cause : BanCause) (hours : Int) (world : World) :
    (autoBan sender scope cause hours).created world = ((world.now.addHours? hours).map
      (autoBanned (world.supply (world.issued + 1)) sender scope cause world.now)).toList := by
  rw [autoBan, Action.created_bind, created_draft, perform_draftBan]
  cases world.now.addHours? hours with
  | none => rfl
  | some expiry =>
    dsimp only [Option.elim_some, List.nil_append]
    rw [created_store, created_of_spares (asks_proclaim trivial trivial fun _ => trivial)]
    rfl

/-- A ban that a sender is given for a cause. -/
def IsAutoBan (sender : Uuid) (scope : Option BanScope) (cause : BanCause) (ban : Ban) : Prop :=
  ∃ id now expiry, ban = autoBanned id sender scope cause now expiry

theorem gives_autoBan (cause : BanCause) (hours : Int) :
    Gives (IsAutoBan sender scope cause) (autoBan sender scope cause hours) := by
  intro world ban given
  rw [created_autoBan] at given
  obtain ⟨expiry, -, rfl⟩ := Option.map_eq_some_iff.mp (Option.mem_toList.mp given)
  exact ⟨_, _, expiry, rfl⟩

theorem gives_autoBanForSpam :
    Gives (IsAutoBan sender scope .spam)
      (autoBanForSpam (Rules.ofConfig config) sender scope) := by
  refine .ite (.of_spares (.pure none)) (.bind (.of_spares (asks_readCounter trivial)) ?_)
  intro count
  exact .ite (.of_spares (.pure none)) ((gives_autoBan _ _).map _)

/-- What a screened message does to the counters of violations. -/
inductive ViolationStep (rules : Rules) (sender : Uuid) (scope : Option BanScope) (world : World) :
    Except Failure Verdict → List Ban → World → Prop
  | quiet {answer : Except Failure Verdict} {created : List Ban} {after : World}
      (same : SameViolations world after)
      (unfiltered : ∀ text, answer ≠ .ok (.accepted text true))
      (mild : ∀ ban ∈ created, ban.reason ≠ BanCause.severe.reason) :
      ViolationStep rules sender scope world answer created after
  | recorded {middle : World} (text : String) (same : SameViolations world middle) :
      ViolationStep rules sender scope world
        (((attempt (recordViolation rules sender scope)).perform middle).1.map
          fun _ => .accepted text true)
        ((recordViolation rules sender scope).created middle)
        ((recordViolation rules sender scope).perform middle).2

theorem violationStep_spam (same : SameViolations world after) :
    let action := do
      attempt (autoBanForSpam (Rules.ofConfig config) sender scope)
      pure Verdict.spam
    ViolationStep (Rules.ofConfig config) sender scope world
      (action.perform after).1 (action.created after) (action.perform after).2 := by
  intro action
  have spared : action.Asks Request.SparesViolations :=
    (asks_attempt sparesViolations_autoBanForSpam).bind fun _ => .pure _
  refine .quiet (same.trans (sameViolations_of_spares spared same.distinct)) ?_ ?_
  · intro text answered
    exact Verdict.noConfusion (eq_of_perform_then_pure answered)
  · intro ban given
    have early : action.created after =
        (autoBanForSpam (Rules.ofConfig config) sender scope).created after := by
      rw [Action.created_bind, created_attempt]
      cases ((attempt (autoBanForSpam (Rules.ofConfig config) sender scope)).perform after).1 <;>
        exact List.append_nil _
    rw [early] at given
    obtain ⟨id, now, expiry, rfl⟩ := gives_autoBanForSpam after ban given
    exact show BanCause.spam.reason ≠ BanCause.severe.reason by decide

theorem violationStep_record (text : String) (same : SameViolations world after) :
    let action := do
      attempt (recordViolation (Rules.ofConfig config) sender scope)
      pure (Verdict.accepted text true)
    ViolationStep (Rules.ofConfig config) sender scope world
      (action.perform after).1 (action.created after) (action.perform after).2 := by
  intro action
  have mapped : action = (fun _ => Verdict.accepted text true) <$>
      attempt (recordViolation (Rules.ofConfig config) sender scope) :=
    (Action.map_eq_bind _ _).symm
  have effects :
      ((attempt (recordViolation (Rules.ofConfig config) sender scope)).perform after).2 =
        ((recordViolation (Rules.ofConfig config) sender scope).perform after).2 := by
    rw [perform_attempt]
  rw [mapped, Action.perform_map, Action.created_map, created_attempt, effects]
  exact .recorded text same

theorem perform_filterMessage (rules : Rules) (content : String) (world : World) :
    ∃ metrics, (filterMessage rules content).perform world =
      (.ok (rules.filter.apply content), { world with metrics }) := by
  have checked : (Action.tally .messagesChecked).perform world =
      (.ok (), { world with metrics := Tally.add .messagesChecked world.metrics }) := rfl
  rw [filterMessage, Action.perform_bind, checked]
  dsimp only
  split
  · exact ⟨_, rfl⟩
  · exact ⟨_, rfl⟩

theorem violationStep_weigh (distinct : world.counters.Distinct) :
    ViolationStep (Rules.ofConfig config) sender scope world
      ((weigh (Rules.ofConfig config) sender scope content).perform world).1
      ((weigh (Rules.ofConfig config) sender scope content).created world)
      ((weigh (Rules.ofConfig config) sender scope content).perform world).2 := by
  have same : SameViolations world
      ((detectSpam (Rules.ofConfig config) sender content).perform world).2 :=
    sameViolations_of_spares sparesViolations_detectSpam distinct
  have early : (detectSpam (Rules.ofConfig config) sender content).created world = [] :=
    created_of_spares (asks_detectSpam (spares_count _) (spares_count _)) world
  rw [weigh, Action.perform_bind, Action.created_bind, early, List.nil_append]
  -- Only the message that is neither spam nor harmless gets as far as the counters.
  generalize (detectSpam (Rules.ofConfig config) sender content).perform world = outcome at same ⊢
  obtain ⟨result, middle⟩ := outcome
  cases result with
  | error e => exact .quiet same (fun text answered => by simp at answered) (by simp)
  | ok isSpam =>
    cases isSpam with
    | true => exact violationStep_spam same
    | false =>
      have unfiltered : (filterMessage (Rules.ofConfig config) content).created middle = [] :=
        created_of_spares (asks_filterMessage _ fun _ => trivial) middle
      obtain ⟨metrics, filtered⟩ := perform_filterMessage (Rules.ofConfig config) content middle
      have counted : SameViolations world { middle with metrics } :=
        same.trans ⟨rfl, rfl, same.distinct, fun _ => rfl⟩
      dsimp only
      rw [if_neg Bool.false_ne_true, Action.perform_bind, Action.created_bind, unfiltered,
        List.nil_append, filtered]
      dsimp only
      split
      · next violated =>
        rw [violated]
        exact violationStep_record _ counted
      · next harmless =>
        refine .quiet counted (fun text answered => ?_) (by simp)
        obtain ⟨-, flag⟩ := Verdict.accepted.inj (Except.ok.inj answered)
        exact harmless flag

theorem violationStep_screen (distinct : world.counters.Distinct) :
    ViolationStep (Rules.ofConfig config) sender scope world
      ((screen (Rules.ofConfig config) sender scope content).perform world).1
      ((screen (Rules.ofConfig config) sender scope content).created world)
      ((screen (Rules.ofConfig config) sender scope content).perform world).2 := by
  rw [screen, Action.perform_bind, Action.created_bind, created_checkBan, perform_checkBan]
  dsimp only [List.nil_append]
  cases world.store.activeBan? sender (scope.map (·.channelId)) world.now with
  | some ban =>
    exact .quiet (.refl distinct) (fun text same => Verdict.noConfusion (Except.ok.inj same))
      (by simp)
  | none => exact violationStep_weigh distinct

/-- What recording a violation of a sender does, in the period of violations that it falls into. -/
structure Recorded (config : Config.Moderation) (sender : Uuid) (period : Period) (world : World)
    (created : List Ban) (after : World) : Prop where
  clock : after.clock = world.clock
  distinct : after.counters.Distinct
  others : ∀ key, Rules.violationKey sender ≠ key →
    after.counters.window? world.clock key = world.counters.window? world.clock key
  own : ((period.calls : Int) < config.severeViolationThreshold ∧ created = [] ∧
      after.counters.window? world.clock (Rules.violationKey sender) =
        Period.openWindow (1000 * config.violationWindowSecs) (some period) world.clock) ∨
    (config.severeViolationThreshold ≤ period.calls ∧
      (∃ ban, created = [ban] ∧ ban.reason = BanCause.severe.reason) ∧
      after.counters.find? (Rules.violationKey sender) = none)

/-- From the threshold on a ban is given, if the calendar reaches to its end. -/
theorem perform_autoBanForViolations (sender : Uuid) (scope : Option BanScope) {count : Int}
    {expiry : Instant} (enabled : config.autoBanEnabled = true)
    (reached : config.severeViolationThreshold ≤ count)
    (ends : world.now.addHours? config.severeBanHours = some expiry) :
    let action := autoBanForViolations (Rules.ofConfig config) sender scope count
    ∃ ban issued store bus metrics, ban.reason = BanCause.severe.reason ∧
      action.perform world = (.ok (some ban), { world with issued, store, bus, metrics }) ∧
      action.created world = [ban] := by
  intro action
  have given : action = some <$> autoBan sender scope .severe config.severeBanHours := by
    have unguarded : ¬ (!config.autoBanEnabled || count < config.severeViolationThreshold) := by
      simpa [enabled] using reached
    exact if_neg unguarded
  obtain ⟨ban, bus, metrics, drafted, performed⟩ := perform_autoBan sender scope .severe ends
  rw [given, Action.perform_map, Action.created_map, performed, created_autoBan, ends]
  refine ⟨ban, _, _, bus, metrics, ?_, rfl, ?_⟩
  · rw [drafted]
    rfl
  · rw [drafted]
    rfl

theorem recorded_recordViolation {period? : Option Period} {expiry : Instant}
    (enabled : config.autoBanEnabled = true)
    (reachable : Counters.isReachable world.reading (1000 * config.violationWindowSecs) = true)
    (ends : world.now.addHours? config.severeBanHours = some expiry)
    (distinct : world.counters.Distinct)
    (follows : world.counters.window? world.clock (Rules.violationKey sender) =
      Period.openWindow (1000 * config.violationWindowSecs) period? world.clock) :
    let action := recordViolation (Rules.ofConfig config) sender scope
    (action.perform world).1 = .ok () ∧
      Recorded config sender (Period.join (1000 * config.violationWindowSecs) period? world.clock)
        world (action.created world) (action.perform world).2 := by
  intro action
  obtain ⟨counters, counted, distinct', own, others⟩ :=
    Action.perform_countInWindow_of_period distinct reachable follows
  have quiet : ((Rules.ofConfig config).count (Rules.violationKey sender)
      (1000 * (Rules.ofConfig config).config.violationWindowSecs)).created world = [] :=
    created_of_spares (spares_count _ _) world
  generalize Period.join (1000 * config.violationWindowSecs) period? world.clock = period
    at counted own ⊢
  have counting : ((Rules.ofConfig config).count (Rules.violationKey sender)
      (1000 * (Rules.ofConfig config).config.violationWindowSecs)).perform world =
        (.ok period.calls, { world with counters }) := counted
  rw [show action.perform world = _ from Action.perform_bind ..,
    show action.created world = _ from Action.created_bind .., quiet, counting]
  dsimp only [List.nil_append]
  -- From the threshold on a ban is given, and only a ban that was given drops the counter.
  by_cases threshold : config.severeViolationThreshold ≤ period.calls
  · let counted : World := { world with counters }
    have ends' : counted.now.addHours? config.severeBanHours = some expiry := ends
    obtain ⟨ban, issued, store, bus, metrics, severe, given, created⟩ :=
      perform_autoBanForViolations sender scope enabled threshold ends'
    have escalates : (Rules.ofConfig config).config.severeViolationThreshold ≤ period.calls :=
      threshold
    have dropped : ∀ world, (Action.deleteCounter (Rules.violationKey sender)).perform world =
        (.ok (), { world with counters := world.counters.delete (Rules.violationKey sender) }) :=
      fun _ => rfl
    have silent : ∀ world, (Action.deleteCounter (Rules.violationKey sender)).created world = [] :=
      fun _ => rfl
    rw [if_pos escalates, Action.perform_bind, Action.created_bind, given, created]
    dsimp only
    rw [if_pos (Option.isSome_some (a := ban)), dropped, silent]
    refine ⟨rfl, rfl, Counters.delete_distinct distinct', ?_, .inr ⟨threshold, ⟨ban, rfl, severe⟩,
      Counters.find?_delete_self⟩⟩
    intro key apart
    exact (Counters.window?_delete_of_ne distinct' apart).trans (others key apart)
  · have remains : ¬ (Rules.ofConfig config).config.severeViolationThreshold ≤ period.calls :=
      threshold
    rw [if_neg remains]
    exact ⟨rfl, rfl, distinct', others, .inl ⟨by omega, rfl, own⟩⟩

end Moderation

end Parley
