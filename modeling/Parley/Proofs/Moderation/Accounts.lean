import Parley.Proofs.Flow.Effects
import Parley.Proofs.Moderation.Escalation
import Parley.Proofs.Moderation.Ledger

/-!
# Accounts of moderation

Metrics, stored bans and announcements are written at different places of the screening of a message,
and yet they agree: what a screened message books goes by its verdict alone, and an automatic ban is
stored, counted and announced or none of these. So in every run the metrics are sums over verdicts,
and the bans of a kind are as many as the metric says and the bus has been told.
-/

namespace Parley

/-- The request shows in the accounts: it counts a metric, stores a ban or publishes a message. -/
def Request.isBooked : Request → Bool
  | tally _ | createBan _ | publish _ => true
  | _ => false

namespace Action

variable {α β : Type} (action : Action α) (next : α → Action β) (world : World)

/-- The requests of an action that show in the accounts. -/
def booked : List Request := (action.asked world).filter Request.isBooked

theorem booked_bind : (action >>= next).booked world = action.booked world ++
    match (action.perform world).1 with
    | .ok a => (next a).booked (action.perform world).2
    | .error _ => [] := by
  rw [booked, asked_bind, List.filter_append]
  cases (action.perform world).1 <;> rfl

theorem booked_map (f : α → β) : (f <$> action).booked world = action.booked world :=
  congrArg (List.filter Request.isBooked) (asked_map action world f)

variable {action}

theorem booked_of_asks (h : action.Asks (·.isBooked = false)) : action.booked world = [] := by
  refine List.filter_eq_nil_iff.mpr fun request made => ?_
  have unbooked : request.isBooked = false :=
    Course.Asks.of_mem_asked h Request.perform world request made
  rw [unbooked]
  exact Bool.false_ne_true

variable (action)

theorem countP_booked (metric : Metric) :
    (action.booked world).countP (·.tallies metric) =
      (action.asked world).countP (·.tallies metric) := by
  rw [booked, List.countP_filter]
  refine List.countP_congr fun request _ => ?_
  cases request <;> simp [Request.tallies, Request.isBooked]

theorem created_eq_booked :
    action.created world = (action.booked world).filterMap Request.createdBan? := by
  rw [created, booked, List.filterMap_filter]
  refine List.filterMap_congr fun request _ => ?_
  cases request <;> rfl

theorem messages_booked : messages (action.booked world) = messages (action.asked world) := by
  rw [messages, messages, booked, List.filterMap_filter]
  refine List.filterMap_congr fun request _ => ?_
  cases request <;> rfl

end Action

namespace Moderation

open Calendar (Instant)

variable {config : Config.Moderation} {sender : Uuid} {scope : Option BanScope} {world : World}

namespace Verdict

def isAccepted : Verdict → Bool
  | accepted .. => true
  | _ => false

/-- Something was filtered out of the message that was let pass. -/
def isFiltered : Verdict → Bool
  | accepted _ filtered => filtered
  | _ => false

/-- The cause for which the verdict may bring a ban. -/
def cause? : Verdict → Option BanCause
  | spam => some .spam
  | accepted _ true => some .severe
  | _ => none

end Verdict

/-- The verdict on a screened message, if it got one. -/
def Entry.verdict? : Entry → Option Verdict
  | ⟨⟨_, .screen ..⟩, answer, _⟩ => answer.toOption
  | _ => none

/-- The verdicts in the order in which they were given. -/
def verdicts (entries : List Entry) : List Verdict := entries.filterMap Entry.verdict?

theorem verdicts_concat (entries : List Entry) (entry : Entry) :
    verdicts (entries ++ [entry]) = verdicts entries ++ entry.verdict?.toList := by
  rw [verdicts, List.filterMap_append]
  refine congrArg (verdicts entries ++ ·) ?_
  cases found : entry.verdict? with
  | none => exact List.filterMap_cons_none found
  | some verdict => exact List.filterMap_cons_some found

/-- The topic of automatic bans for a cause. -/
def autoBanTopic (cause : BanCause) : String := topicFor ("chat:ban:auto:" ++ cause.name)

/-- A ban is stored, counted and announced, or nothing is booked. -/
inductive BooksBan (cause : BanCause) : List Request → Prop
  | nothing : BooksBan cause []
  | given (ban : Ban) (time : Instant) (reason : ban.reason = cause.reason) :
    BooksBan cause [.createBan ban, .tally (.autoBans cause),
      .publish (Announcement.autoBan cause ban time).message]

/-- What a screened message books, by the answer. -/
inductive Books : Except Failure Verdict → List Request → Prop
  | broken (failure : Failure) : Books (.error failure) []
  | refused (ban : Ban) : Books (.ok (.banned ban)) []
  | spam {requests : List Request} (ban : BooksBan .spam requests) : Books (.ok .spam) requests
  | passed (text : String) : Books (.ok (.accepted text false)) [.tally .messagesChecked]
  | filtered (text : String) {requests : List Request} (ban : BooksBan .severe requests) :
    Books (.ok (.accepted text true)) (.tally .messagesChecked :: .tally .violations :: requests)

theorem booked_attempt {α : Type} (action : Action α) (world : World) :
    (attempt action).booked world = action.booked world :=
  congrArg (List.filter Request.isBooked) (asked_attempt action world)

/-- Whatever the world is, the action books one ban at most, and nothing when it fails. -/
structure KeepsBooks {α : Type} (cause : BanCause) (action : Action α) : Prop where
  books : ∀ world, BooksBan cause (action.booked world)
  failing : ∀ world failure, (action.perform world).1 = .error failure → action.booked world = []

namespace KeepsBooks

variable {α β : Type} {cause : BanCause} {action : Action α} {next : α → Action β}

theorem of_asks (h : action.Asks (·.isBooked = false)) : KeepsBooks cause action :=
  ⟨fun world => Action.booked_of_asks world h ▸ .nothing, fun world _ _ =>
    Action.booked_of_asks world h⟩

theorem after_asks (h : action.Asks (·.isBooked = false)) (rest : ∀ a, KeepsBooks cause (next a)) :
    KeepsBooks cause (action >>= next) := by
  constructor
  · intro world
    rw [Action.booked_bind, Action.booked_of_asks world h, List.nil_append]
    cases (action.perform world).1 with
    | ok a => exact (rest a).books _
    | error e => exact .nothing
  · intro world failure failed
    rw [Action.perform_bind] at failed
    rw [Action.booked_bind, Action.booked_of_asks world h, List.nil_append]
    cases result : (action.perform world).1 with
    | ok a =>
      rw [result] at failed
      exact (rest a).failing _ failure failed
    | error e => rfl

/-- What comes last books nothing and does not fail. -/
theorem then_asks (h : KeepsBooks cause action) (asks : ∀ a, (next a).Asks (·.isBooked = false))
    (succeeds : ∀ a world, ∃ b, ((next a).perform world).1 = .ok b) :
    KeepsBooks cause (action >>= next) := by
  have booked (world : World) : (action >>= next).booked world = action.booked world := by
    rw [Action.booked_bind]
    cases (action.perform world).1 with
    | ok a =>
      dsimp only
      rw [Action.booked_of_asks _ (asks a), List.append_nil]
    | error e => exact List.append_nil _
  refine ⟨fun world => booked world ▸ h.books world, fun world failure failed => ?_⟩
  rw [booked]
  rw [Action.perform_bind] at failed
  cases result : (action.perform world).1 with
  | error e => exact h.failing world e result
  | ok a =>
    obtain ⟨b, answered⟩ := succeeds a (action.perform world).2
    rw [result] at failed
    exact absurd (answered.symm.trans failed) nofun

theorem map (f : α → β) (h : KeepsBooks cause action) : KeepsBooks cause (f <$> action) := by
  constructor
  · intro world
    rw [Action.booked_map]
    exact h.books world
  · intro world failure failed
    rw [Action.perform_map] at failed
    rw [Action.booked_map]
    cases result : (action.perform world).1 with
    | ok a =>
      rw [result] at failed
      cases failed
    | error e => exact h.failing world e result

theorem ite {yes no : Action α} {c : Prop} [Decidable c] (hyes : KeepsBooks cause yes)
    (hno : KeepsBooks cause no) : KeepsBooks cause (if c then yes else no) := by
  split
  · exact hyes
  · exact hno

end KeepsBooks

/-- A ban is booked, if the calendar reaches to its end. -/
theorem keepsBooks_autoBan (cause : BanCause) (hours : Int) :
    KeepsBooks cause (autoBan sender scope cause hours) := by
  have drafting (world : World) : (draftBan sender (scope.map (·.channelId))
      (scope.map (·.channelType)) cause.reason none (some hours)).booked world = [] :=
    Action.booked_of_asks world (asks_draftBan rfl rfl)
  constructor
  · intro world
    rw [autoBan, Action.booked_bind, drafting, perform_draftBan]
    cases world.now.addHours? hours with
    | none => exact .nothing
    | some expiry => exact .given (autoBanned _ sender scope cause world.now expiry) world.now rfl
  · intro world failure failed
    cases ends : world.now.addHours? hours with
    | none =>
      rw [autoBan, Action.booked_bind, drafting, perform_draftBan, ends]
      rfl
    | some expiry =>
      obtain ⟨ban, bus, metrics, drafted, performed⟩ := perform_autoBan sender scope cause ends
      rw [performed] at failed
      cases failed

theorem keepsBooks_autoBanForSpam :
    KeepsBooks .spam (autoBanForSpam (Rules.ofConfig config) sender scope) := by
  refine .ite (.of_asks (.pure none)) (.after_asks (asks_readCounter rfl) fun count => ?_)
  exact .ite (.of_asks (.pure none)) ((keepsBooks_autoBan _ _).map _)

theorem keepsBooks_autoBanForViolations (violations : Int) :
    KeepsBooks .severe (autoBanForViolations (Rules.ofConfig config) sender scope violations) :=
  .ite (.of_asks (.pure none)) ((keepsBooks_autoBan _ _).map _)

theorem keepsBooks_recordViolation :
    KeepsBooks .severe (recordViolation (Rules.ofConfig config) sender scope) := by
  refine .after_asks (.countInWindow rfl rfl rfl) fun count => .ite ?_ (.of_asks (.pure ()))
  have drops : (Action.deleteCounter (Rules.violationKey sender)).Asks (·.isBooked = false) :=
    Action.Asks.answered ⟨rfl, fun _ => trivial⟩
  refine (keepsBooks_autoBanForViolations count).then_asks (fun ban => .ite drops (.pure ())) ?_
  intro ban world
  split
  · exact ⟨(), rfl⟩
  · exact ⟨(), rfl⟩

theorem autoBanForViolations_ok (violations : Int)
    (representable : (world.now.addHours? config.severeBanHours).isSome) :
    ∃ ban?, ((autoBanForViolations (Rules.ofConfig config) sender scope violations).perform
      world).1 = .ok ban? := by
  obtain ⟨expiry, ends⟩ := Option.isSome_iff_exists.mp representable
  obtain ⟨ban, bus, metrics, -, performed⟩ := perform_autoBan sender scope .severe ends
  have unfolded : autoBanForViolations (Rules.ofConfig config) sender scope violations =
      if !config.autoBanEnabled || violations < config.severeViolationThreshold then pure none
      else some <$> autoBan sender scope .severe config.severeBanHours := rfl
  rw [unfolded]
  split
  · exact ⟨none, rfl⟩
  · exact ⟨some ban, by rw [Action.perform_map, performed]; rfl⟩

/-- A violation is recorded, if its window ends and so does the ban that it may bring. -/
theorem recordViolation_ok
    (reachable : Counters.isReachable world.reading (1000 * config.violationWindowSecs) = true)
    (representable : (world.now.addHours? config.severeBanHours).isSome) :
    ((recordViolation (Rules.ofConfig config) sender scope).perform world).1 = .ok () := by
  obtain ⟨count, counters, counted⟩ : ∃ count counters,
      ((Rules.ofConfig config).count (Rules.violationKey sender)
        (1000 * (Rules.ofConfig config).config.violationWindowSecs)).perform world =
          (.ok count, { world with counters }) := by
    refine (Action.perform_countInWindow ..) ▸ ?_
    rw [if_pos (show Counters.isReachable world.reading
      (1000 * (Rules.ofConfig config).config.violationWindowSecs) = true from reachable)]
    split
    · exact ⟨_, _, rfl⟩
    · exact ⟨_, _, rfl⟩
  let later : World := { world with counters }
  obtain ⟨ban?, given⟩ : ∃ ban?, ((autoBanForViolations (Rules.ofConfig config) sender scope
      count).perform later).1 = .ok ban? := autoBanForViolations_ok count representable
  rw [recordViolation, Action.perform_bind, counted]
  dsimp only
  split
  · rw [Action.perform_bind, given]
    dsimp only
    split <;> rfl
  · rfl

theorem booked_attempt_then {α β : Type} (action : Action α) (value : β) (world : World) :
    (attempt action >>= fun _ => pure value).booked world = action.booked world := by
  rw [Action.booked_bind, booked_attempt]
  cases ((attempt action).perform world).1 <;> exact List.append_nil _

theorem answer_attempt_then {α β : Type} (action : Action α) (value : β) (world : World) :
    ((attempt action >>= fun _ => pure value).perform world).1 =
      match (action.perform world).1 with
      | .error .aborted => .error .aborted
      | _ => .ok value := by
  rw [Action.perform_bind, perform_attempt]
  match (action.perform world).1 with
  | .ok _ => rfl
  | .error (.refused _) => rfl
  | .error .aborted => rfl

/-- The message is counted, and so is its violation. -/
theorem booked_filterMessage (rules : Rules) (content : String) (world : World) :
    (filterMessage rules content).booked world =
      .tally .messagesChecked ::
        if (rules.filter.apply content).violation then [.tally .violations] else [] := by
  have checked : (Action.tally .messagesChecked).perform world =
      (.ok (), { world with metrics := Tally.add .messagesChecked world.metrics }) := rfl
  rw [filterMessage, Action.booked_bind, checked]
  dsimp only
  split <;> rfl

theorem books_spam :
    let action := do
      attempt (autoBanForSpam (Rules.ofConfig config) sender scope)
      pure Verdict.spam
    Books (action.perform world).1 (action.booked world) := by
  intro action
  have keeps : KeepsBooks .spam (autoBanForSpam (Rules.ofConfig config) sender scope) :=
    keepsBooks_autoBanForSpam
  rw [show action.booked world = _ from booked_attempt_then ..,
    show (action.perform world).1 = _ from answer_attempt_then ..]
  cases result : ((autoBanForSpam (Rules.ofConfig config) sender scope).perform world).1 with
  | ok ban? => exact .spam (keeps.books world)
  | error failure =>
    rw [keeps.failing world failure result]
    cases failure with
    | refused error => exact .spam .nothing
    | aborted => exact .broken .aborted

theorem books_accepted (content : String)
    (reachable : Counters.isReachable world.reading (1000 * config.violationWindowSecs) = true)
    (representable : (world.now.addHours? config.severeBanHours).isSome) :
    let rules := Rules.ofConfig config
    let action := do
      let outcome ← filterMessage rules content
      if outcome.violation then attempt (recordViolation rules sender scope)
      pure (Verdict.accepted outcome.content outcome.violation)
    Books (action.perform world).1 (action.booked world) := by
  intro rules action
  obtain ⟨metrics, filtered⟩ := perform_filterMessage rules content world
  rw [show action.perform world = _ from Action.perform_bind ..,
    show action.booked world = _ from Action.booked_bind .., booked_filterMessage, filtered]
  dsimp only
  cases violated : (rules.filter.apply content).violation with
  | false => exact .passed _
  | true =>
    let counted : World := { world with metrics }
    have recorded : ((recordViolation rules sender scope).perform counted).1 = .ok () :=
      recordViolation_ok reachable representable
    rw [if_pos rfl, if_pos rfl, booked_attempt_then, answer_attempt_then, recorded]
    exact .filtered _ (keepsBooks_recordViolation.books _)

/-- What is booked when a message is weighed that comes from someone who may speak. -/
theorem books_weigh (content : String) (distinct : world.counters.Distinct)
    (reachable : Counters.isReachable world.reading (1000 * config.violationWindowSecs) = true)
    (representable : (world.now.addHours? config.severeBanHours).isSome) :
    Books ((weigh (Rules.ofConfig config) sender scope content).perform world).1
      ((weigh (Rules.ofConfig config) sender scope content).booked world) := by
  have looking : (detectSpam (Rules.ofConfig config) sender content).booked world = [] :=
    Action.booked_of_asks world (asks_detectSpam (fun _ => .countInWindow rfl rfl rfl)
      fun _ => .countInWindow rfl rfl rfl)
  have same : SameViolations world
      ((detectSpam (Rules.ofConfig config) sender content).perform world).2 :=
    sameViolations_of_spares sparesViolations_detectSpam distinct
  rw [weigh, Action.perform_bind, Action.booked_bind, looking, List.nil_append]
  generalize (detectSpam (Rules.ofConfig config) sender content).perform world = outcome at same ⊢
  obtain ⟨result, middle⟩ := outcome
  cases result with
  | error failure => exact .broken failure
  | ok isSpam =>
    cases isSpam with
    | true => exact books_spam
    | false =>
      have now : middle.now = world.now := congrArg Instant.ofMillis same.clock
      exact books_accepted content (same.reading ▸ reachable) (now ▸ representable)

theorem books_screen (content : String) (distinct : world.counters.Distinct)
    (reachable : Counters.isReachable world.reading (1000 * config.violationWindowSecs) = true)
    (representable : (world.now.addHours? config.severeBanHours).isSome) :
    Books ((screen (Rules.ofConfig config) sender scope content).perform world).1
      ((screen (Rules.ofConfig config) sender scope content).booked world) := by
  have looking (channel : Option Uuid) : (checkBan sender channel).booked world = [] :=
    Action.booked_of_asks world (asks_checkBan rfl fun _ => rfl)
  rw [screen, Action.perform_bind, Action.booked_bind, looking, perform_checkBan]
  dsimp only [List.nil_append]
  cases world.store.activeBan? sender (scope.map (·.channelId)) world.now with
  | some ban => exact .refused ban
  | none => exact books_weigh content distinct reachable representable

/-- What is added to the accounts goes by the verdict. -/
structure Adds (verdict? : Option Verdict) (requests : List Request) : Prop where
  checked : requests.countP (·.tallies .messagesChecked) =
    verdict?.toList.countP Verdict.isAccepted
  violations : requests.countP (·.tallies .violations) =
    verdict?.toList.countP Verdict.isFiltered
  stored : ∀ cause, requests.countP (·.tallies (.autoBans cause)) =
    (requests.filterMap Request.createdBan?).countP (·.reason = BanCause.reason cause)
  published : ∀ cause, requests.countP (·.tallies (.autoBans cause)) =
    (messages requests).countP (·.topic = autoBanTopic cause)
  few : ∀ cause, (requests.filterMap Request.createdBan?).countP (·.reason = BanCause.reason cause) ≤
    if verdict?.bind Verdict.cause? = some cause then 1 else 0

theorem topic_autoBan (cause : BanCause) (ban : Ban) (time : Instant) :
    (Announcement.autoBan cause ban time).message.topic = autoBanTopic cause := by
  cases cause <;> rfl

theorem autoBanTopic_inj {cause other : BanCause} :
    autoBanTopic cause = autoBanTopic other ↔ cause = other := by
  cases cause <;> cases other <;> decide

theorem reason_inj {cause other : BanCause} : cause.reason = other.reason ↔ cause = other := by
  cases cause <;> cases other <;> decide

/-- A ban is stored, counted and announced as often, and that is once at most. -/
theorem BooksBan.adds {cause : BanCause} {requests : List Request}
    (books : BooksBan cause requests) {verdict : Verdict}
    (verdict_cause : verdict.cause? = some cause) (other : BanCause) :
    requests.countP (·.tallies (.autoBans other)) =
        (requests.filterMap Request.createdBan?).countP (·.reason = other.reason) ∧
      requests.countP (·.tallies (.autoBans other)) =
        (messages requests).countP (·.topic = autoBanTopic other) ∧
      (requests.filterMap Request.createdBan?).countP (·.reason = other.reason) ≤
        if verdict.cause? = some other then 1 else 0 := by
  rw [verdict_cause]
  cases books with
  | nothing => exact ⟨rfl, rfl, Nat.zero_le _⟩
  | given ban time reason =>
    have counted : [Request.createBan ban, .tally (.autoBans cause),
        .publish (Announcement.autoBan cause ban time).message].countP
          (·.tallies (.autoBans other)) = if cause = other then 1 else 0 := by
      simp [Request.tallies, List.countP_cons]
    have created : [Request.createBan ban, .tally (.autoBans cause),
        .publish (Announcement.autoBan cause ban time).message].filterMap Request.createdBan? =
          [ban] := rfl
    have published : messages [Request.createBan ban, .tally (.autoBans cause),
        .publish (Announcement.autoBan cause ban time).message] =
          [(Announcement.autoBan cause ban time).message] := rfl
    rw [counted, created, published, List.countP_singleton, List.countP_singleton, reason,
      topic_autoBan]
    simp [reason_inj, autoBanTopic_inj]

theorem BooksBan.countP_eq_zero {cause : BanCause} {requests : List Request}
    (books : BooksBan cause requests) {metric : Metric} (other : metric ≠ .autoBans cause) :
    requests.countP (·.tallies metric) = 0 := by
  cases books with
  | nothing => rfl
  | given ban time reason => simp [Request.tallies, Ne.symm other]

theorem Books.adds {answer : Except Failure Verdict} {requests : List Request}
    (books : Books answer requests) : Adds answer.toOption requests := by
  cases books with
  | broken failure => exact ⟨rfl, rfl, fun _ => rfl, fun _ => rfl, fun _ => Nat.zero_le _⟩
  | refused ban => exact ⟨rfl, rfl, fun _ => rfl, fun _ => rfl, fun _ => Nat.zero_le _⟩
  | spam ban =>
    have bans := ban.adds (show Verdict.spam.cause? = some .spam from rfl)
    exact ⟨ban.countP_eq_zero nofun, ban.countP_eq_zero nofun, fun cause => (bans cause).1,
      fun cause => (bans cause).2.1, fun cause => (bans cause).2.2⟩
  | passed text => exact ⟨rfl, rfl, fun _ => rfl, fun _ => rfl, fun _ => Nat.zero_le _⟩
  | filtered text ban =>
    have bans := ban.adds (show (Verdict.accepted text true).cause? = some .severe from rfl)
    refine ⟨?_, ?_, fun cause => (bans cause).1, fun cause => (bans cause).2.1,
      fun cause => (bans cause).2.2⟩
    · have none := ban.countP_eq_zero (show Metric.messagesChecked ≠ .autoBans .severe from nofun)
      rw [List.countP_cons, List.countP_cons, none]
      rfl
    · have none := ban.countP_eq_zero (show Metric.violations ≠ .autoBans .severe from nofun)
      rw [List.countP_cons, List.countP_cons, none]
      rfl

/-- What has been booked agrees with the verdicts, and bans with each other. -/
structure Balanced (entries : List Entry) (world : World) : Prop where
  checked : world.metrics.count .messagesChecked = (verdicts entries).countP Verdict.isAccepted
  violations : world.metrics.count .violations = (verdicts entries).countP Verdict.isFiltered
  stored : ∀ cause, world.metrics.count (.autoBans cause) =
    world.store.bans.countP (·.reason = BanCause.reason cause)
  published : ∀ cause, world.metrics.count (.autoBans cause) =
    world.bus.messages.toList.countP (·.topic = autoBanTopic cause)
  few : ∀ cause, ∀ entry ∈ entries, entry.created.countP (·.reason = BanCause.reason cause) ≤
    if entry.verdict?.bind Verdict.cause? = some cause then 1 else 0

theorem balanced_nil (uptime : Nat) (supply : Nat → Uuid) : Balanced [] { uptime, supply } :=
  ⟨rfl, rfl, fun _ => rfl, fun _ => rfl, fun _ _ listed => absurd listed List.not_mem_nil⟩

variable {entries : List Entry} {message : Submission} {left : Nat}

/-- New bans come after those that were stored before. -/
theorem Filed.bans_eq_append {created : List Ban} {after : World} (sound : Sound (left + 1) world)
    (filed : Filed world created after) : after.store.bans = world.store.bans ++ created := by
  cases filed with
  | nothing spent issued bans => rw [bans, List.append_nil]
  | ban given named active issued bans => exact bans.trans (sound.bans_putBan named)

/-- What a screened message adds to the accounts goes by its verdict. -/
theorem adds_screened (distinct : world.counters.Distinct)
    (reachable : Counters.isReachable (world.uptime + message.time)
      (1000 * config.violationWindowSecs) = true)
    (representable :
      ((Instant.ofMillis message.time).addHours? config.severeBanHours).isSome) :
    let rules := Rules.ofConfig config
    Adds (message.call.entry rules world).verdict?
      ((message.call.operation.action rules).booked (message.call.start world)) := by
  intro rules
  have distinctThen : (message.call.start world).counters.Distinct := distinct
  have representableThen :
      ((message.call.start world).now.addHours? config.severeBanHours).isSome := representable
  have reachableThen : Counters.isReachable (message.call.start world).reading
      (1000 * config.violationWindowSecs) = true := reachable
  exact (books_screen message.content distinctThen reachableThen representableThen).adds

/-- A message that is screened adds to the accounts by its verdict. -/
theorem Balanced.concat (balanced : Balanced entries world) (sound : Sound (left + 1) world)
    (reachable : Counters.isReachable (world.uptime + message.time)
      (1000 * config.violationWindowSecs) = true)
    (representable :
      ((Instant.ofMillis message.time).addHours? config.severeBanHours).isSome) :
    Balanced (entries ++ [message.call.entry (Rules.ofConfig config) world])
      (message.call.after (Rules.ofConfig config) world) := by
  have adds : Adds (message.call.entry (Rules.ofConfig config) world).verdict?
      ((message.call.operation.action (Rules.ofConfig config)).booked (message.call.start world)) :=
    adds_screened sound.counters reachable representable
  have created : message.call.created (Rules.ofConfig config) world = _ :=
    Action.created_eq_booked _ (message.call.start world)
  have counts (metric : Metric) :
      (message.call.after (Rules.ofConfig config) world).metrics.count metric =
        world.metrics.count metric + ((message.call.operation.action
          (Rules.ofConfig config)).booked (message.call.start world)).countP (·.tallies metric) := by
    rw [Action.countP_booked]
    exact Action.count_perform _ (message.call.start world) metric
  have told : (message.call.after (Rules.ofConfig config) world).bus.messages.toList =
      world.bus.messages.toList ++ messages ((message.call.operation.action
        (Rules.ofConfig config)).booked (message.call.start world)) := by
    rw [Action.messages_booked]
    exact Action.messages_perform _ (message.call.start world)
  have stored : (message.call.after (Rules.ofConfig config) world).store.bans =
      world.store.bans ++ message.call.created (Rules.ofConfig config) world := by
    have begun : SameBans world (message.call.start world) := ⟨rfl, rfl⟩
    exact (Filed.after_same begun rfl (files_screen message.content _)).bans_eq_append sound
  generalize (message.call.operation.action (Rules.ofConfig config)).booked
    (message.call.start world) = requests at adds created counts told
  constructor
  · rw [counts, verdicts_concat, List.countP_append, balanced.checked, adds.checked]
  · rw [counts, verdicts_concat, List.countP_append, balanced.violations, adds.violations]
  · intro cause
    rw [counts, stored, List.countP_append, balanced.stored, adds.stored, created]
  · intro cause
    rw [counts, told, List.countP_append, balanced.published, adds.published]
  · intro cause entry listed
    rcases List.mem_append.mp listed with before | last
    · exact balanced.few cause entry before
    · obtain rfl := List.mem_singleton.mp last
      have few := adds.few cause
      rw [← created] at few
      exact few

theorem Balanced.reached {messages : List Submission} (balanced : Balanced entries world)
    (sound : Sound messages.length world)
    (reachable : ∀ message ∈ messages, Counters.isReachable (world.uptime + message.time)
      (1000 * config.violationWindowSecs) = true)
    (representable : ∀ message ∈ messages,
      ((Instant.ofMillis message.time).addHours? config.severeBanHours).isSome) :
    Balanced (entries ++ journal (Rules.ofConfig config) (messages.map Submission.call) world)
      (Moderation.reached (Rules.ofConfig config) (messages.map Submission.call) world) := by
  induction messages generalizing entries world with
  | nil =>
    rw [List.map_nil, journal, Moderation.reached, List.append_nil]
    exact balanced
  | cons message rest ih =>
    obtain ⟨reachableNow, reachableLater⟩ := List.forall_mem_cons.mp reachable
    obtain ⟨now, later⟩ := List.forall_mem_cons.mp representable
    have since : (message.call.after (Rules.ofConfig config) world).uptime = world.uptime :=
      message.call.uptime_after _ world
    have more := ih (balanced.concat sound reachableNow now) (sound.call message.call)
      (since ▸ reachableLater) later
    rw [List.append_assoc] at more
    exact more

/-- In every run of screened messages from empty stores, the metrics are sums over the verdicts, and
the automatic bans of a kind are as many as were counted, stored and announced: one at most for each
verdict that may bring one. -/
theorem screen_balanced (config : Config.Moderation) (uptime : Nat) (supply : Nat → Uuid)
    (messages : List Submission) (distinct : SuppliesDistinct supply messages.length)
    (reachable : ∀ message ∈ messages, Counters.isReachable (uptime + message.time)
      (1000 * config.violationWindowSecs) = true)
    (representable : ∀ message ∈ messages,
      ((Instant.ofMillis message.time).addHours? config.severeBanHours).isSome) :
    let rules := Rules.ofConfig config
    let calls := messages.map Submission.call
    Balanced (journal rules calls { uptime, supply })
      (reached rules calls { uptime, supply }) := by
  intro rules calls
  have balanced := (balanced_nil uptime supply).reached (sound_of_suppliesDistinct distinct)
    reachable representable
  rw [List.nil_append] at balanced
  exact balanced

/-- Two filtered messages of one sender, with a threshold of two: both are counted, and one ban was
given. -/
theorem screen_balanced_escalated :
    let config : Config.Moderation := { bannedWords := ["bad"], severeViolationThreshold := 2 }
    let messages : List Submission := [⟨1000, ⟨1⟩, none, "bad"⟩, ⟨2000, ⟨1⟩, none, "so bad"⟩]
    let rules := Rules.ofConfig config
    let calls := messages.map Submission.call
    let world := reached rules calls {}
    (verdicts (journal rules calls {})).countP Verdict.isFiltered = 2 ∧
      world.metrics.count .violations = 2 ∧
      world.store.bans.countP (·.reason = BanCause.severe.reason) = 1 ∧
      world.bus.messages.toList.countP (·.topic = autoBanTopic .severe) = 1 := by
  intro config messages rules calls world
  have balanced : Balanced (journal rules calls {}) world :=
    screen_balanced config 1000 Uuid.ofSerial messages (by decide) (by decide) (by decide)
  have filtered : (verdicts (journal rules calls {})).countP Verdict.isFiltered = 2 := by
    decide +kernel
  have given : world.metrics.count (.autoBans .severe) = 1 := by decide +kernel
  exact ⟨filtered, balanced.violations.trans filtered, (balanced.stored .severe).symm.trans given,
    (balanced.published .severe).symm.trans given⟩

/-- A window without an end: a message is counted whose screening breaks off before the verdict. -/
theorem unbalanced_of_endless_window :
    let config : Config.Moderation := {
      bannedWords := ["bad"], violationWindowSecs := 18446744073709551615 }
    let messages : List Submission := [⟨0, ⟨10⟩, none, "bad"⟩]
    let rules := Rules.ofConfig config
    let calls := messages.map Submission.call
    (∀ message ∈ messages,
      ((Instant.ofMillis message.time).addHours? config.severeBanHours).isSome ∧
      ((Instant.ofMillis message.time).addHours? config.spamBanHours).isSome) ∧
    (reached rules calls {}).metrics.count .messagesChecked = 1 ∧
    (verdicts (journal rules calls {})).countP Verdict.isAccepted = 0 := by
  intro config messages rules calls
  exact ⟨by decide, by decide +kernel, by decide +kernel⟩

end Moderation

end Parley
