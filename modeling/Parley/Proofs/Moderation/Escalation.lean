import Parley.Proofs.Moderation.Isolation
import Parley.Proofs.Moderation.Violations

/-!
# Escalation of violations

Messages that are let pass with something filtered out are counted, for each sender, in periods of
their own. The last one that the threshold allows brings a ban and closes the period. The counters
of violations follow this history, and so they stay below the threshold.
-/

namespace Parley.Moderation

open Calendar (Instant)

/-- A message is screened. -/
def Submission.call (message : Submission) : Call :=
  ⟨message.time, .screen message.sender message.scope message.content⟩

/-- A message of the sender was let pass with something filtered out. -/
def Entry.isFiltered (sender : Uuid) : Entry → Bool
  | ⟨⟨_, .screen other _ _⟩, .ok (.accepted _ true), _⟩ => other = sender
  | _ => false

/-- A ban for violations was given. -/
def Entry.escalates (entry : Entry) : Bool :=
  entry.created.any (·.reason = BanCause.severe.reason)

/-- The period of violations of a sender after one more entry. -/
def violationPeriodAfter (length : Nat) (sender : Uuid) (period? : Option Period)
    (entry : Entry) : Option Period :=
  if entry.isFiltered sender then
    if entry.escalates then none else some (Period.join length period? entry.call.time)
  else period?

/-- The period of violations of a sender that the entries leave. -/
def violationPeriod (length : Nat) (sender : Uuid) (entries : List Entry) : Option Period :=
  entries.foldl (violationPeriodAfter length sender) none

variable {config : Config.Moderation} {entries : List Entry} {world after : World}
  {message : Submission} {before : List Submission}

theorem violationPeriod_concat (length : Nat) (sender : Uuid) (entries : List Entry)
    (entry : Entry) : violationPeriod length sender (entries ++ [entry]) =
      violationPeriodAfter length sender (violationPeriod length sender entries) entry :=
  List.foldl_concat ..

/-- The counters of violations follow the history, and it stays below the threshold. -/
structure Counted (config : Config.Moderation) (entries : List Entry) (world : World) : Prop where
  distinct : world.counters.Distinct
  windows : ∀ sender, world.counters.window? world.clock (Rules.violationKey sender) =
    Period.openWindow (1000 * config.violationWindowSecs)
      (violationPeriod (1000 * config.violationWindowSecs) sender entries) world.clock
  below : ∀ sender, ∀ period ∈ violationPeriod (1000 * config.violationWindowSecs) sender entries,
    (period.calls : Int) < config.severeViolationThreshold

theorem counted_nil (config : Config.Moderation) (uptime : Nat) (supply : Nat → Uuid) :
    Counted config [] { uptime, supply } :=
  ⟨List.nodup_nil, fun _ => rfl, fun _ _ ofNone => absurd ofNone (by simp [violationPeriod])⟩

theorem Counted.later (counted : Counted config entries world) {time : Nat}
    (h : world.clock ≤ time) : Counted config entries { world with clock := time } :=
  ⟨counted.distinct, fun sender => Period.window?_later h (counted.windows sender), counted.below⟩

/-- What one screened message does, told by the history. -/
structure Escalates (config : Config.Moderation) (entries : List Entry) (sender : Uuid)
    (entry : Entry) (after : World) : Prop where
  iff_threshold : entry.escalates = true ↔ entry.isFiltered sender = true ∧
    ((Period.join (1000 * config.violationWindowSecs)
      (violationPeriod (1000 * config.violationWindowSecs) sender entries)
      entry.call.time).calls : Int) = config.severeViolationThreshold
  reset : entry.escalates = true → after.counters.find? (Rules.violationKey sender) = none
  clock : after.clock = entry.call.time
  counted : Counted config (entries ++ [entry]) after

theorem Counted.of_same (counted : Counted config entries world)
    (same : SameViolations world after) : Counted config entries after := by
  refine ⟨same.distinct, fun sender => ?_, counted.below⟩
  rw [same.clock, same.windows, counted.windows]

/-- A message that is not filtered leaves the history of violations as it is. -/
theorem Counted.quiet (counted : Counted config entries world) {entry : Entry} (sender : Uuid)
    (time : entry.call.time = world.clock)
    (unfiltered : ∀ other, entry.isFiltered other = false) (mild : entry.escalates = false)
    (same : SameViolations world after) : Escalates config entries sender entry after := by
  have kept : ∀ length other, violationPeriod length other (entries ++ [entry]) =
      violationPeriod length other entries := by
    intro length other
    rw [violationPeriod_concat, violationPeriodAfter, unfiltered, if_neg Bool.false_ne_true]
  refine ⟨?_, ?_, same.clock.trans time.symm, same.distinct, ?_, ?_⟩
  · simp [mild, unfiltered]
  · intro escalates
    rw [mild] at escalates
    exact absurd escalates Bool.false_ne_true
  · intro other
    rw [kept, same.clock, same.windows, counted.windows]
  · intro other
    rw [kept]
    exact counted.below other

/-- A filtered message changes the period of its sender only. -/
theorem Counted.filtered (counted : Counted config entries world) {entry : Entry} {sender : Uuid}
    {period : Period} (filtered : ∀ other, entry.isFiltered other = decide (sender = other))
    (recorded : Recorded config sender period world entry.created after)
    (own : after.counters.window? world.clock (Rules.violationKey sender) =
      Period.openWindow (1000 * config.violationWindowSecs)
        (violationPeriod (1000 * config.violationWindowSecs) sender (entries ++ [entry]))
        world.clock)
    (below : ∀ period ∈ violationPeriod (1000 * config.violationWindowSecs) sender
      (entries ++ [entry]), (period.calls : Int) < config.severeViolationThreshold) :
    Counted config (entries ++ [entry]) after := by
  have kept : ∀ other, sender ≠ other →
      violationPeriod (1000 * config.violationWindowSecs) other (entries ++ [entry]) =
        violationPeriod (1000 * config.violationWindowSecs) other entries := by
    intro other apart
    rw [violationPeriod_concat, violationPeriodAfter, filtered, if_neg (by simpa using apart)]
  refine ⟨recorded.distinct, fun other => ?_, fun other => ?_⟩
  · rw [recorded.clock]
    by_cases same : sender = other
    · exact same ▸ own
    · have keys : Rules.violationKey sender ≠ Rules.violationKey other := by
        intro equal
        exact same (CounterName.key_injective (show CounterName.violations.key sender =
          CounterName.violations.key other from equal)).1
      rw [kept other same, recorded.others _ keys, counted.windows]
  · by_cases same : sender = other
    · exact same ▸ below
    · rw [kept other same]
      exact counted.below other

/-- A filtered message is one more in the period, or the last one that it takes. -/
theorem Counted.recorded (counted : Counted config entries world) {entry : Entry} {sender : Uuid}
    (positive : 1 ≤ config.severeViolationThreshold) (time : entry.call.time = world.clock)
    (filtered : ∀ other, entry.isFiltered other = decide (sender = other))
    (recorded : Recorded config sender (Period.join (1000 * config.violationWindowSecs)
      (violationPeriod (1000 * config.violationWindowSecs) sender entries) world.clock) world
      entry.created after) : Escalates config entries sender entry after := by
  have own : entry.isFiltered sender = true := by simpa using filtered sender
  have most : ((Period.join (1000 * config.violationWindowSecs)
      (violationPeriod (1000 * config.violationWindowSecs) sender entries)
      world.clock).calls : Int) ≤ config.severeViolationThreshold :=
    Period.calls_join_le positive (counted.below sender)
  have next := violationPeriod_concat (1000 * config.violationWindowSecs) sender entries entry
  rw [violationPeriodAfter, if_pos own, time] at next
  -- The period held less than the threshold, so with this message it holds the threshold at most:
  -- reaching it is being equal to it.
  rcases recorded.own with ⟨less, none_created, window⟩ | ⟨reached, ⟨ban, given, severe⟩, gone⟩
  · have mild : entry.escalates = false := by simp [Entry.escalates, none_created]
    rw [if_neg (by simp [mild])] at next
    refine ⟨?_, ?_, recorded.clock.trans time.symm, counted.filtered filtered recorded ?_ ?_⟩
    · rw [mild, time]
      constructor
      · intro escalates
        exact absurd escalates Bool.false_ne_true
      · rintro ⟨-, equal⟩
        omega
    · intro escalates
      rw [mild] at escalates
      exact absurd escalates Bool.false_ne_true
    · rw [next, window]
    · rw [next]
      rintro period ⟨rfl⟩
      exact less
  · have escalates : entry.escalates = true := by simp [Entry.escalates, given, severe]
    rw [if_pos escalates] at next
    refine ⟨?_, fun _ => gone, recorded.clock.trans time.symm,
      counted.filtered filtered recorded ?_ ?_⟩
    · rw [escalates, time]
      constructor
      · intro _
        exact ⟨own, by omega⟩
      · intro _
        rfl
    · rw [next, Counters.window?, gone]
      rfl
    · rw [next]
      intro period ofNone
      exact absurd ofNone (by simp)

theorem exists_accepted_of_isFiltered {time : Nat} {sender other : Uuid} {scope : Option BanScope}
    {content : String} {answer : Except Failure Verdict} {created : List Ban}
    (h : Entry.isFiltered other ⟨⟨time, .screen sender scope content⟩, answer, created⟩ = true) :
    ∃ text, answer = .ok (.accepted text true) := by
  cases answer with
  | error e => exact absurd h Bool.false_ne_true
  | ok verdict =>
    cases verdict with
    | accepted text filtered =>
      cases filtered with
      | true => exact ⟨text, rfl⟩
      | false => exact absurd h Bool.false_ne_true
    | banned ban => exact absurd h Bool.false_ne_true
    | spam => exact absurd h Bool.false_ne_true

/-- One screened message does what the history says. -/
theorem Counted.screen (counted : Counted config entries world) {expiry : Instant}
    (enabled : config.autoBanEnabled = true) (positive : 1 ≤ config.severeViolationThreshold)
    (reachable : Counters.isReachable (world.uptime + message.time)
      (1000 * config.violationWindowSecs) = true)
    (ends : (Instant.ofMillis message.time).addHours? config.severeBanHours = some expiry)
    (timely : world.clock ≤ message.time) :
    Escalates config entries message.sender (message.call.entry (Rules.ofConfig config) world)
      (message.call.after (Rules.ofConfig config) world) := by
  have begun : Counted config entries (message.call.start world) := counted.later timely
  have step : ViolationStep (Rules.ofConfig config) message.sender message.scope
      (message.call.start world) (message.call.answer (Rules.ofConfig config) world)
      (message.call.created (Rules.ofConfig config) world)
      (message.call.after (Rules.ofConfig config) world) := violationStep_screen begun.distinct
  have isScreen : message.call.entry (Rules.ofConfig config) world =
      ⟨⟨message.time, .screen message.sender message.scope message.content⟩,
        message.call.answer (Rules.ofConfig config) world,
        message.call.created (Rules.ofConfig config) world⟩ := rfl
  rw [isScreen]
  generalize message.call.answer (Rules.ofConfig config) world = answer,
    message.call.created (Rules.ofConfig config) world = created,
    message.call.after (Rules.ofConfig config) world = after at step ⊢
  cases step with
  | quiet same unfiltered mild =>
    refine begun.quiet message.sender rfl (fun other => ?_) ?_ same
    · rw [Bool.eq_false_iff]
      intro isFiltered
      obtain ⟨text, answered⟩ := exists_accepted_of_isFiltered isFiltered
      exact unfiltered text answered
    · simpa [Entry.escalates] using mild
  | @recorded middle text same =>
    have atMiddle : Counted config entries middle := begun.of_same same
    have clock : middle.clock = message.time := same.clock
    have endsThen : middle.now.addHours? config.severeBanHours = some expiry := by
      rw [World.now, clock]
      exact ends
    have reading : middle.reading = world.uptime + message.time := same.reading
    obtain ⟨done, recorded⟩ := recorded_recordViolation enabled (reading ▸ reachable) endsThen
      atMiddle.distinct (atMiddle.windows message.sender)
    have accepted : ((attempt (recordViolation (Rules.ofConfig config) message.sender
        message.scope)).perform middle).1 = .ok () := by
      rw [perform_attempt, done]
    rw [accepted]
    exact atMiddle.recorded positive clock.symm (fun other => rfl) recorded

theorem counted_reached (uptime : Nat) (supply : Nat → Uuid)
    (enabled : config.autoBanEnabled = true) (positive : 1 ≤ config.severeViolationThreshold)
    (reachable : ∀ message ∈ before, Counters.isReachable (uptime + message.time)
      (1000 * config.violationWindowSecs) = true)
    (representable : ∀ message ∈ before,
      ((Instant.ofMillis message.time).addHours? config.severeBanHours).isSome)
    (ordered : before.Pairwise fun first second => first.time ≤ second.time) :
    let calls := before.map Submission.call
    Counted config (journal (Rules.ofConfig config) calls { uptime, supply })
        (reached (Rules.ofConfig config) calls { uptime, supply }) ∧
      ∀ time, (∀ message ∈ before, message.time ≤ time) →
        (reached (Rules.ofConfig config) calls { uptime, supply }).clock ≤ time := by
  apply run_induction (Rules.ofConfig config) Submission.call
    (fun message =>
      Counters.isReachable (uptime + message.time) (1000 * config.violationWindowSecs) = true ∧
        ((Instant.ofMillis message.time).addHours? config.severeBanHours).isSome)
    fun _ entries world => Counted config entries world
  · intro before next entries world allowed counted timely since
    obtain ⟨expiry, ends⟩ := Option.isSome_iff_exists.mp allowed.2
    have escalates := counted.screen enabled positive (since ▸ allowed.1) ends timely
    exact ⟨escalates.counted, escalates.clock⟩
  · exact counted_nil config uptime supply
  · rfl
  · rfl
  · exact fun message listed => ⟨reachable message listed, representable message listed⟩
  · exact ordered

/-- A live counter of violations is that of a period below the threshold. -/
theorem Counted.bounds (counted : Counted config entries world) {sender : Uuid} {counter : Counter}
    (found : world.counters.find? (Rules.violationKey sender) = some counter)
    (live : counter.isLive world.clock = true) :
    1 ≤ counter.value ∧ counter.value ≤ config.severeViolationThreshold - 1 := by
  have window : world.counters.window? world.clock (Rules.violationKey sender) =
      some counter.window := by
    rw [Counters.window?_of_found found, if_pos live]
  rw [counted.windows] at window
  obtain ⟨listed, -⟩ := Option.filter_eq_some_iff.mp window
  obtain ⟨period, ofSender, same⟩ := Option.map_eq_some_iff.mp listed
  have value : counter.value = period.calls := (congrArg Window.count same).symm
  have below := counted.below sender period ofSender
  rw [value]
  simp only [Period.calls] at below ⊢
  omega

/-- In a run from empty stores, a ban for violations is given with the message that is the last one
in its period of violations that the threshold allows, and with no other. Its sender then has no
counter of violations, and all counters of violations stay below the threshold. -/
theorem screen_escalates_iff (config : Config.Moderation) (uptime : Nat) (supply : Nat → Uuid)
    (before : List Submission) (message : Submission)
    (enabled : config.autoBanEnabled = true) (positive : 1 ≤ config.severeViolationThreshold)
    (reachable : ∀ other ∈ before ++ [message], Counters.isReachable (uptime + other.time)
      (1000 * config.violationWindowSecs) = true)
    (representable : ∀ other ∈ before ++ [message],
      ((Instant.ofMillis other.time).addHours? config.severeBanHours).isSome)
    (ordered : (before ++ [message]).Pairwise fun first second => first.time ≤ second.time) :
    let rules := Rules.ofConfig config
    let entries := journal rules (before.map Submission.call) { uptime, supply }
    let world := reached rules (before.map Submission.call) { uptime, supply }
    let entry := message.call.entry rules world
    let after := message.call.after rules world
    let period := Period.join (1000 * config.violationWindowSecs)
      (violationPeriod (1000 * config.violationWindowSecs) message.sender entries) message.time
    (entry.escalates = true ↔
      entry.isFiltered message.sender = true ∧
        (period.calls : Int) = config.severeViolationThreshold) ∧
    (entry.escalates = true →
      after.counters.find? (Rules.violationKey message.sender) = none) ∧
    ∀ sender counter, after.counters.find? (Rules.violationKey sender) = some counter →
      counter.isLive after.clock = true →
      1 ≤ counter.value ∧ counter.value ≤ config.severeViolationThreshold - 1 := by
  intro rules entries world entry after period
  rw [List.pairwise_append] at ordered
  obtain ⟨counted, timely⟩ := counted_reached uptime supply enabled positive
    (fun other listed => reachable other (List.mem_append_left _ listed))
    (fun other listed => representable other (List.mem_append_left _ listed)) ordered.1
  have last : message ∈ before ++ [message] :=
    List.mem_append_right _ (List.mem_singleton_self message)
  have inReach : Counters.isReachable (world.uptime + message.time)
      (1000 * config.violationWindowSecs) = true := by
    rw [show world.uptime = uptime from uptime_reached rules _ { uptime, supply }]
    exact reachable message last
  have later : world.clock ≤ message.time := timely message.time fun other listed =>
    ordered.2.2 other listed message (List.mem_singleton_self message)
  obtain ⟨expiry, ends⟩ := Option.isSome_iff_exists.mp (representable message last)
  have escalates : Escalates config entries message.sender entry after :=
    counted.screen enabled positive inReach ends later
  refine ⟨escalates.iff_threshold, escalates.reset, fun sender counter found live => ?_⟩
  exact escalates.counted.bounds found live

/-- With a threshold of two, the second filtered message brings a ban. -/
theorem screen_escalates_iff_second :
    let config : Config.Moderation := { bannedWords := ["bad"], severeViolationThreshold := 2 }
    let first : Submission := ⟨1000, ⟨1⟩, none, "bad"⟩
    let second : Submission := ⟨2000, ⟨1⟩, none, "so bad"⟩
    let rules := Rules.ofConfig config
    let world := reached rules [first.call] {}
    (second.call.entry rules world).escalates = true ∧
      (second.call.after rules world).counters.find? (Rules.violationKey ⟨1⟩) = none := by
  intro config first second rules world
  have filtered : (second.call.entry rules world).isFiltered ⟨1⟩ = true := by decide +kernel
  have last : ((Period.join (1000 * config.violationWindowSecs)
      (violationPeriod (1000 * config.violationWindowSecs) ⟨1⟩ (journal rules [first.call] {}))
      2000).calls : Int) = 2 := by decide +kernel
  obtain ⟨iff_threshold, reset, -⟩ := screen_escalates_iff config 1000 Uuid.ofSerial [first]
    second rfl (by decide) (by decide) (by decide) (by decide)
  have escalates := iff_threshold.mpr ⟨filtered, last⟩
  exact ⟨escalates, reset escalates⟩

/-- A window without an end: a violation whose recording breaks off leaves a live counter that is
not below the threshold. -/
theorem counter_of_endless_window :
    let config : Config.Moderation := {
      bannedWords := ["bad"], severeViolationThreshold := 1
      violationWindowSecs := 18446744073709551615 }
    let message : Submission := ⟨0, ⟨10⟩, none, "bad"⟩
    let after := message.call.after (Rules.ofConfig config) {}
    config.autoBanEnabled = true ∧ 1 ≤ config.severeViolationThreshold ∧
    ((Instant.ofMillis message.time).addHours? config.severeBanHours).isSome ∧
    ∃ counter, after.counters.find? (Rules.violationKey ⟨10⟩) = some counter ∧
      counter.isLive after.clock = true ∧
      ¬ counter.value ≤ config.severeViolationThreshold - 1 := by
  intro config message after
  exact ⟨rfl, by decide, by decide, ⟨Rules.violationKey ⟨10⟩, 1, none⟩, by decide +kernel, rfl,
    by decide⟩

end Parley.Moderation
