import Parley.Proofs.Moderation.Journal
import Parley.Proofs.Moderation.Standing
import Parley.Proofs.Store.Periods

/-!
# Spam by the history of messages

Whether a message is spam is a matter of the times at which its actor spoke before, and said the
same. The counters follow the history: after each message every counter is the window of the last
period of the messages that it counts.
-/

namespace Parley.Moderation

/-- What an actor says at a time. -/
structure Utterance where
  time : Nat
  actor : Uuid
  content : String
  deriving DecidableEq, Repr

namespace Utterance

/-- An utterance is examined. -/
def call (utterance : Utterance) : Call :=
  ⟨utterance.time, .detectSpam utterance.actor utterance.content⟩

/-- The times of the utterances of a kind. -/
def times (kind : Utterance → Bool) (utterances : List Utterance) : List Nat :=
  (utterances.filter kind).map time

theorem times_concat (kind : Utterance → Bool) (before : List Utterance) (next : Utterance) :
    times kind (before ++ [next]) =
      if kind next then times kind before ++ [next.time] else times kind before := by
  rw [times, times, List.filter_append, List.filter_singleton, List.map_append]
  cases kind next <;> simp

end Utterance

variable {config : Config.Moderation} {before : List Utterance} {next : Utterance} {world : World}

/-- The period that the next utterance falls into among those of a kind. -/
def periodOf (length : Nat) (kind : Utterance → Bool) (before : List Utterance)
    (next : Utterance) : Period :=
  Period.join length (Period.last? length (Utterance.times kind before)) next.time

/-- By the history, the next utterance is spam: its actor has spoken too often in the current
period, or has said the same too often. -/
def IsSpam (config : Config.Moderation) (before : List Utterance) (next : Utterance) : Prop :=
  config.spamBurstLimit < (periodOf (1000 * config.spamBurstWindowSecs)
    (fun other => other.actor = next.actor) before next).calls ∨
  config.spamDuplicateLimit < (periodOf (1000 * config.spamDuplicateWindowSecs)
    (fun other => other.actor = next.actor && other.content = next.content) before next).calls

instance : Decidable (IsSpam config before next) := inferInstanceAs (Decidable (_ ∨ _))

/-- Whether an utterance is counted in a counter of an actor. -/
def countedIn (actor : Uuid) : CounterName → Utterance → Bool
  | .burst, utterance => utterance.actor = actor
  | .duplicates digest, utterance =>
    utterance.actor = actor && Digest.Sha256.hex utterance.content = digest
  | .violations, _ => false

def windowLength (config : Config.Moderation) : CounterName → Nat
  | .burst => 1000 * config.spamBurstWindowSecs
  | .duplicates _ => 1000 * config.spamDuplicateWindowSecs
  | .violations => 1000 * config.violationWindowSecs

/-- Every counter is the window of the last period of the utterances that it counts. -/
structure Follows (config : Config.Moderation) (before : List Utterance) (world : World) :
    Prop where
  distinct : world.counters.Distinct
  windows : ∀ actor (name : CounterName),
    world.counters.window? world.clock (name.key actor) =
      Period.openWindow (windowLength config name) (Period.last? (windowLength config name)
        (Utterance.times (countedIn actor name) before)) world.clock

theorem follows_nil (config : Config.Moderation) (uptime : Nat) : Follows config [] { uptime } :=
  ⟨List.nodup_nil, fun _ _ => rfl⟩

/-- Time that passes closes periods and windows alike. -/
theorem Follows.later (follows : Follows config before world) {time : Nat}
    (h : world.clock ≤ time) : Follows config before { world with clock := time } :=
  ⟨follows.distinct, fun actor name => Period.window?_later h (follows.windows actor name)⟩

theorem countedIn_iff {actor : Uuid} {name : CounterName} {utterance : Utterance} :
    countedIn actor name utterance = true ↔
      CounterName.burst.key utterance.actor = name.key actor ∨
      (CounterName.duplicates (Digest.Sha256.hex utterance.content)).key utterance.actor =
        name.key actor := by
  constructor
  · intro counted
    cases name with
    | burst =>
      obtain rfl : utterance.actor = actor := by simpa [countedIn] using counted
      exact .inl rfl
    | duplicates digest =>
      obtain ⟨rfl, rfl⟩ : utterance.actor = actor ∧
          Digest.Sha256.hex utterance.content = digest := by
        simpa [countedIn] using counted
      exact .inr rfl
    | violations => exact absurd counted Bool.false_ne_true
  · rintro (same | same)
    · obtain ⟨rfl, rfl⟩ := CounterName.key_injective same
      simp [countedIn]
    · obtain ⟨rfl, rfl⟩ := CounterName.key_injective same
      simp [countedIn]

/-- The clock reaches the ends of the windows that are opened when it reads so much. -/
structure ReachesEnds (config : Config.Moderation) (reading : Nat) : Prop where
  burst : Counters.isReachable reading (1000 * config.spamBurstWindowSecs) = true
  duplicates : Counters.isReachable reading (1000 * config.spamDuplicateWindowSecs) = true

theorem ReachesEnds.earlier {reading later : Nat} (reaches : ReachesEnds config later)
    (h : reading ≤ later) : ReachesEnds config reading :=
  ⟨Counters.isReachable_of_le (Nat.add_le_add_right h _) reaches.burst,
    Counters.isReachable_of_le (Nat.add_le_add_right h _) reaches.duplicates⟩

/-- One utterance is counted twice: among all of its actor, and among those of the same digest. -/
theorem Follows.step (follows : Follows config before world) (now : world.clock = next.time)
    (reaches : ReachesEnds config world.reading) :
    let burst := periodOf (1000 * config.spamBurstWindowSecs)
      (countedIn next.actor .burst) before next
    let duplicates := periodOf (1000 * config.spamDuplicateWindowSecs)
      (countedIn next.actor (.duplicates (Digest.Sha256.hex next.content))) before next
    ∃ after, (detectSpam (Rules.ofConfig config) next.actor next.content).perform world =
        (.ok (config.spamBurstLimit < (burst.calls : Int) ||
          config.spamDuplicateLimit < (duplicates.calls : Int)), after) ∧
      Follows config (before ++ [next]) after ∧ after.clock = next.time := by
  intro burst duplicates
  obtain ⟨time, actor, content⟩ := next
  obtain rfl : world.clock = time := now
  -- The two counts are made one after the other, each leaving the other's window as it is.
  have burstFollows : world.counters.window? world.clock (Rules.burstKey actor) =
      Period.openWindow (1000 * config.spamBurstWindowSecs)
        (Period.last? (1000 * config.spamBurstWindowSecs)
          (Utterance.times (countedIn actor .burst) before)) world.clock :=
    follows.windows actor .burst
  obtain ⟨first, counted, distinct, own, others⟩ :=
    Action.perform_countInWindow_of_period follows.distinct reaches.burst burstFollows
  have apart : Rules.burstKey actor ≠ Rules.duplicateKey actor content :=
    CounterName.burstKey_ne_duplicateKey actor actor content
  have duplicatesFollow : first.window? world.clock (Rules.duplicateKey actor content) =
      Period.openWindow (1000 * config.spamDuplicateWindowSecs)
        (Period.last? (1000 * config.spamDuplicateWindowSecs)
          (Utterance.times (countedIn actor (.duplicates (Digest.Sha256.hex content))) before))
        world.clock :=
    (others _ apart).trans (follows.windows actor (.duplicates _))
  let middle : World := { world with counters := first }
  have middleDistinct : middle.counters.Distinct := distinct
  have middleReaches : ReachesEnds config middle.reading := reaches
  obtain ⟨second, counted', distinct', own', others'⟩ :=
    Action.perform_countInWindow_of_period middleDistinct middleReaches.duplicates duplicatesFollow
  refine ⟨{ world with counters := second }, ?_, ⟨distinct', ?_⟩, rfl⟩
  · have burstCount : ((Rules.ofConfig config).count (Rules.burstKey actor)
        (1000 * (Rules.ofConfig config).config.spamBurstWindowSecs)).perform world =
        (.ok burst.calls, middle) := counted
    have duplicatesCount : ((Rules.ofConfig config).count (Rules.duplicateKey actor content)
        (1000 * (Rules.ofConfig config).config.spamDuplicateWindowSecs)).perform middle =
        (.ok duplicates.calls, { world with counters := second }) := counted'
    rw [detectSpam, Action.perform_bind, burstCount]
    dsimp only
    rw [Action.perform_bind, duplicatesCount]
    rfl
  · intro other name
    dsimp only
    rw [Utterance.times_concat]
    -- A counter that counts the utterance is one of the two, any other is touched by neither.
    by_cases here : countedIn other name ⟨world.clock, actor, content⟩ = true
    · rw [if_pos here, Period.last?_concat]
      rcases countedIn_iff.mp here with same | same
      · obtain ⟨rfl, rfl⟩ := CounterName.key_injective same
        exact (others' _ apart.symm).trans own
      · obtain ⟨rfl, rfl⟩ := CounterName.key_injective same
        exact own'
    · rw [if_neg here]
      rw [countedIn_iff, not_or] at here
      exact (others' _ here.2).trans ((others _ here.1).trans (follows.windows other name))

/-- The counters follow the history all along. -/
theorem follows_reached {uptime : Nat}
    (reaches : ∀ utterance ∈ before, ReachesEnds config (uptime + utterance.time))
    (ordered : before.Pairwise fun first second => first.time ≤ second.time) :
    let reached := reached (Rules.ofConfig config) (before.map Utterance.call) { uptime }
    Follows config before reached ∧
      ∀ time, (∀ utterance ∈ before, utterance.time ≤ time) → reached.clock ≤ time := by
  apply run_induction (Rules.ofConfig config) Utterance.call
    (fun utterance => ReachesEnds config (uptime + utterance.time))
    fun before _ world => Follows config before world
  · intro before next entries world reachesNext follows timely since
    have reading : World.reading { world with clock := next.time } = uptime + next.time :=
      congrArg (· + next.time) since
    obtain ⟨after, performed, follows', clock⟩ :=
      (follows.later timely).step rfl (reading ▸ reachesNext)
    have same : next.call.after (Rules.ofConfig config) world = after := congrArg Prod.snd performed
    rw [same]
    exact ⟨follows', clock⟩
  · exact follows_nil config uptime
  · rfl
  · rfl
  · exact reaches
  · exact ordered

/-- Equal contents have equal digests, and where no two digests collide the converse holds too. -/
theorem periodOf_duplicates {length : Nat}
    (apart : ∀ other ∈ before, Digest.Sha256.hex other.content = Digest.Sha256.hex next.content →
      other.content = next.content) :
    periodOf length (countedIn next.actor (.duplicates (Digest.Sha256.hex next.content))) before
        next =
      periodOf length (fun other => other.actor = next.actor && other.content = next.content) before
        next := by
  have same : before.filter (countedIn next.actor
      (.duplicates (Digest.Sha256.hex next.content))) =
      before.filter fun other => other.actor = next.actor && other.content = next.content := by
    apply List.filter_congr
    intro other listed
    have digests : (Digest.Sha256.hex other.content = Digest.Sha256.hex next.content) ↔
        other.content = next.content := ⟨apart other listed, congrArg _⟩
    simp only [countedIn, digests]
  rw [periodOf, periodOf, Utterance.times, Utterance.times, same]

/-- A first count is of no avail where the clock does not reach the end of the window. -/
theorem perform_countInWindow_of_unreachable {world : World} {key : String} {ttl : Nat}
    (unreachable : ¬ Counters.isReachable world.reading ttl = true)
    (distinct : world.counters.Distinct)
    (unused : world.counters.window? world.clock key = none) :
    ((Action.countInWindow key ttl).perform world).1 = .error .aborted := by
  have first : (world.counters.increment world.clock key).1 = 1 := by
    rw [Counters.increment_value distinct, unused]
    rfl
  rw [Action.perform_countInWindow, if_pos first, if_neg unreachable]

/-- So the first message is not answered where one of the windows has no end. -/
theorem detectSpam_aborts (actor : Uuid) (content : String) {world : World}
    (follows : Follows config [] world)
    (unreachable : ¬ ReachesEnds config world.reading) :
    ((detectSpam (Rules.ofConfig config) actor content).perform world).1 = .error .aborted := by
  have unused : ∀ name : CounterName,
      world.counters.window? world.clock (name.key actor) = none := follows.windows actor
  rw [detectSpam, Action.perform_bind]
  -- The burst window comes first: where it has an end, the count breaks off at the second one.
  by_cases burst :
      Counters.isReachable world.reading (1000 * config.spamBurstWindowSecs) = true
  · have noPeriod : world.counters.window? world.clock (Rules.burstKey actor) =
        Period.openWindow (1000 * config.spamBurstWindowSecs) none world.clock := unused .burst
    obtain ⟨first, counted, distinct, -, others⟩ :=
      Action.perform_countInWindow_of_period follows.distinct burst noPeriod
    have burstCount : ((Rules.ofConfig config).count (Rules.burstKey actor)
        (1000 * (Rules.ofConfig config).config.spamBurstWindowSecs)).perform world = _ := counted
    have aborted : (((Rules.ofConfig config).count (Rules.duplicateKey actor content)
        (1000 * (Rules.ofConfig config).config.spamDuplicateWindowSecs)).perform
          { world with counters := first }).1 = .error .aborted :=
      perform_countInWindow_of_unreachable (fun reachable => unreachable ⟨burst, reachable⟩)
        distinct ((others _ (CounterName.burstKey_ne_duplicateKey actor actor content)).trans
          (unused (.duplicates _)))
    rw [burstCount]
    dsimp only
    rw [Action.perform_bind, aborted]
  · have aborted : (((Rules.ofConfig config).count (Rules.burstKey actor)
        (1000 * (Rules.ofConfig config).config.spamBurstWindowSecs)).perform world).1 =
          .error .aborted :=
      perform_countInWindow_of_unreachable burst follows.distinct (unused .burst)
    rw [aborted]

/-- In every run up to a time, a message is answered as the history says, if and only if the clock
reaches the ends of both windows that are opened at that time. -/
theorem detectSpam_eq_history_iff (config : Config.Moderation) (uptime latest : Nat) :
    (∀ (before : List Utterance) (next : Utterance), next.time ≤ latest →
      (before ++ [next]).Pairwise (fun first second => first.time ≤ second.time) →
      (∀ other ∈ before, Digest.Sha256.hex other.content = Digest.Sha256.hex next.content →
        other.content = next.content) →
      next.call.answer (Rules.ofConfig config)
        (reached (Rules.ofConfig config) (before.map Utterance.call) { uptime }) =
          .ok (decide (IsSpam config before next))) ↔
    ReachesEnds config (uptime + latest) := by
  constructor
  · intro answers
    by_contra unreachable
    obtain ⟨next, rfl⟩ : ∃ next : Utterance, next.time = latest := ⟨⟨latest, ⟨0⟩, ""⟩, rfl⟩
    have answered := answers [] next (Nat.le_refl _) (List.pairwise_singleton _ _)
      fun other listed => absurd listed List.not_mem_nil
    have aborted : next.call.answer (Rules.ofConfig config) { uptime } = .error .aborted :=
      detectSpam_aborts next.actor next.content
        ((follows_nil config uptime).later (Nat.zero_le next.time)) unreachable
    rw [List.map_nil, reached, aborted] at answered
    exact absurd answered (by simp)
  · intro reaches before next timelyNext ordered apart
    rw [List.pairwise_append] at ordered
    have upTo : ∀ earlier ∈ before, earlier.time ≤ next.time := fun earlier listed =>
      ordered.2.2 earlier listed next (List.mem_singleton_self next)
    have reachesBy : ∀ time ≤ next.time, ReachesEnds config (uptime + time) := fun time h =>
      reaches.earlier (Nat.add_le_add_left (Nat.le_trans h timelyNext) uptime)
    obtain ⟨follows, timely⟩ := follows_reached
      (fun earlier listed => reachesBy earlier.time (upTo earlier listed)) ordered.1
    have later : (reached (Rules.ofConfig config) (before.map Utterance.call) { uptime }).clock ≤
        next.time := timely next.time upTo
    have reading : (next.call.start (reached (Rules.ofConfig config) (before.map Utterance.call)
        { uptime })).reading = uptime + next.time :=
      congrArg (· + next.time) (uptime_reached _ _ { uptime })
    obtain ⟨after, performed, -, -⟩ :=
      (follows.later later).step rfl (reading ▸ reachesBy next.time (Nat.le_refl _))
    refine (congrArg Prod.fst performed).trans ?_
    rw [periodOf_duplicates apart]
    exact congrArg Except.ok (Bool.decide_or _ _).symm

/-- A window without an end: the first message is counted only once, and the second, which says the
same again, passes. -/
theorem detectSpam_of_endless_window :
    let config : Config.Moderation :=
      { spamBurstWindowSecs := 18446744073709551615, spamDuplicateLimit := 1 }
    let first : Utterance := ⟨0, ⟨10⟩, "hi"⟩
    let second : Utterance := ⟨1, ⟨10⟩, "hi"⟩
    second.call.answer (Rules.ofConfig config)
        (reached (Rules.ofConfig config) [first.call] {}) = .ok false ∧
      IsSpam config [first] second := by
  intro config first second
  have answered : ((detectSpam (Rules.ofConfig config) ⟨10⟩ "hi").perform
      { reached (Rules.ofConfig config) [first.call] {} with clock := 1 }).1 = .ok false := by
    decide +kernel
  exact ⟨answered, by decide +kernel⟩

end Parley.Moderation
