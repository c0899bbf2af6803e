import Parley.Proofs.Moderation.Reporting

/-!
# The contest for a report

Administrators may decide one report at the same time, request by request, while all other calls go
on. Until one of them writes a decision the report is open, and everybody who wants to decide it has
written nothing. The one who writes wins. From then on the report is closed: its row stays as it is,
and whoever comes later learns the decision.
-/

namespace Parley.Moderation

open Calendar (Instant)

/-- A call that decides a report, as far as it has come. -/
abbrev deciding (id admin : Uuid) (status : ReportStatus) (made : List Request)
    (left : Flow (Except Failure Report)) : Task Operation.Result :=
  ⟨.resolveReport id admin status, made, left⟩

/-- A report that an administrator has decided. -/
structure Decided (report : Report) : Prop where
  terminal : report.status.isTerminal = true
  signed : report.adminId ≠ none
  dated : report.resolvedAt ≠ none

/-- The call does not decide the report and leaves it alone. -/
structure Indifferent (id : Uuid) (task : Task Operation.Result) : Prop where
  other : ∀ admin status, task.call ≠ .resolveReport id admin status
  left : Course.Asks (Request.SparesReport id) task.left ∨ Draws task.left

/-- The call wants to decide the report and has written nothing. -/
inductive Waits (id : Uuid) : Task Operation.Result → Prop
  | intro {admin : Uuid} {status : ReportStatus} {made : List Request}
    {left : Flow (Except Failure Report)} (decides : Decides id admin status left)
    (silent : messages made = []) : Waits id (deciding id admin status made left)

/-- The call has written the decision. It announces it once and returns it. -/
inductive Wins (current : Report) : Task Operation.Result → Prop
  | telling {admin : Uuid} {made : List Request} {left : Flow (Except Failure Report)}
    (signed : current.adminId = some admin) (tells : Tells current left)
    (silent : messages made = []) :
    Wins current (deciding current.id admin current.status made left)
  | told {admin : Uuid} {made : List Request} (signed : current.adminId = some admin)
    (time : Instant) (once : messages made = [(Announcement.reportResolved current time).message]) :
    Wins current (deciding current.id admin current.status made (.done (.ok current)))

/-- The call came too late. It looks up the decision and returns an error that names it. -/
inductive Loses (current : Report) : Task Operation.Result → Prop
  | looking {admin : Uuid} {status : ReportStatus} {made : List Request}
    {left : Flow (Except Failure Report)} (terminal : status.isTerminal = true)
    (looks : LooksUp current.id left) (silent : messages made = []) :
    Loses current (deciding current.id admin status made left)
  | refused {admin : Uuid} {status : ReportStatus} {made : List Request}
    (terminal : status.isTerminal = true) (silent : messages made = []) :
    Loses current (deciding current.id admin status made (.done (.error (.refused
      (Complaint.alreadyDecided current.id current.status)))))

variable {config : Config.Moderation} {id : Uuid} {current report : Report} {left : Nat}
  {world : World} {stage after : Stage Operation.Result} {next : Move Operation}
  {task : Task Operation.Result} {made : List Request} {request : Request}
  {rest : request.Answer → Flow (Except Failure (Operation.Result task.call))}

theorem Indifferent.begin {call : Operation}
    (other : ∀ admin status, call ≠ .resolveReport id admin status) :
    Indifferent id (Task.begin (Operation.action (Rules.ofConfig config)) call) :=
  ⟨other, spares_or_draws other⟩

theorem Waits.begin (admin : Uuid) (status : ReportStatus) :
    Waits id (Task.begin (Operation.action (Rules.ofConfig config))
      (.resolveReport id admin status)) :=
  .intro (decides_resolveReport id admin status) rfl

/-- A request that publishes nothing leaves a call silent. -/
theorem messages_silent (silent : messages made = []) (quiet : request.message? = none) :
    messages (made ++ [request]) = [] := by
  rw [messages_concat, silent, quiet]
  rfl

/-- A call that leaves the report alone goes on doing so, unless it draws the identifier. -/
theorem Indifferent.answered_or_drawn (indifferent : Indifferent id task)
    (asks : task.left = .ask request rest) (world : World) :
    request.SparesReport id ∧
      (Indifferent id (task.answered request (rest (request.perform world).1)) ∨
        request = .freshId ∧ world.supply (world.issued + 1) = id ∧
          Writes id (rest (request.perform world).1)) := by
  rcases indifferent.left with spares | draws
  · rw [asks] at spares
    exact ⟨spares.1, .inl ⟨indifferent.other, .inl (spares.2 _)⟩⟩
  · rw [asks] at draws
    cases draws with
    | intro writes =>
      by_cases drawn : world.supply (world.issued + 1) = id
      · exact ⟨trivial, .inr ⟨rfl, drawn, drawn ▸ writes _⟩⟩
      · exact ⟨trivial, .inl ⟨indifferent.other, .inl ((writes _).spares drawn)⟩⟩

theorem Indifferent.answered (indifferent : Indifferent id task)
    (asks : task.left = .ask request rest) (fresh : world.supply (world.issued + 1) ≠ id) :
    request.SparesReport id ∧
      Indifferent id (task.answered request (rest (request.perform world).1)) :=
  (indifferent.answered_or_drawn asks world).imp_right fun either =>
    either.resolve_right fun drawn => fresh drawn.2.1

/-- While the report is open, whoever is the first to write decides it. -/
theorem Waits.answered_open (waits : Waits id task) (asks : task.left = .ask request rest)
    (stored : world.store.report? id = some report) (undecided : Undecided report) :
    (request.SparesReport id ∧
      Waits id (task.answered request (rest (request.perform world).1))) ∨
    ∃ current : Report, current.id = id ∧ Decided current ∧
      (request.perform world).2.store.report? id = some current ∧
      Wins current (task.answered request (rest (request.perform world).1)) := by
  obtain @⟨admin, status, made, flow, decides, silent⟩ := waits
  cases decides with
  | undated later =>
    cases asks
    exact .inl ⟨trivial, .intro (later _) (messages_silent silent rfl)⟩
  | @dated time next terminal won lost =>
    cases asks
    obtain rfl : report.id = id := Table.key_of_find? stored
    have performed : Request.perform world (.resolveReport report.id status admin time) =
        (.ok (some (report.decidedBy admin status time)),
          { world with store := world.store.putReport (report.decidedBy admin status time) }) := by
      simp only [Request.perform, Store.resolveReport_eq stored, if_pos undecided.pending]
    rw [performed]
    have decided : Decided (report.decidedBy admin status time) :=
      ⟨terminal, Option.some_ne_none admin, Option.some_ne_none time⟩
    refine .inr ⟨report.decidedBy admin status time, rfl, decided, ?_, ?_⟩
    · exact Store.report?_put _ (report.decidedBy admin status time)
    · exact .telling rfl (won _) (messages_silent silent rfl)
  | declined unfit => cases asks

/-- Once the report is decided, nobody else writes. -/
theorem Waits.answered_closed (waits : Waits current.id task)
    (asks : task.left = .ask request rest)
    (stored : world.store.report? current.id = some current) (decided : Decided current) :
    (request.perform world).2.store.report? current.id = some current ∧
    (Waits current.id (task.answered request (rest (request.perform world).1)) ∨
      Loses current (task.answered request (rest (request.perform world).1))) := by
  have settled : ¬ current.status = .pending := by
    simpa [ReportStatus.isTerminal] using decided.terminal
  obtain @⟨admin, status, made, flow, decides, silent⟩ := waits
  cases decides with
  | undated later =>
    cases asks
    exact ⟨stored, .inl (.intro (later _) (messages_silent silent rfl))⟩
  | @dated time next terminal won lost =>
    cases asks
    have performed : Request.perform world (.resolveReport current.id status admin time) =
        (.ok none, world) := by
      simp only [Request.perform, Store.resolveReport_eq stored, if_neg settled]
    rw [performed]
    exact ⟨stored, .inr (.looking terminal lost (messages_silent silent rfl))⟩
  | declined unfit => cases asks

theorem Wins.answered (wins : Wins current task) (asks : task.left = .ask request rest)
    (world : World) :
    request.SparesReport current.id ∧
      Wins current (task.answered request (rest (request.perform world).1)) := by
  cases wins with
  | told signed time once => cases asks
  | telling signed tells silent =>
    cases tells with
    | undated later =>
      cases asks
      exact ⟨trivial, .telling signed (later _) (messages_silent silent rfl)⟩
    | @dated time next returned =>
      cases asks
      rw [returned]
      refine ⟨trivial, .told signed time ?_⟩
      rw [messages_concat, silent]
      rfl

theorem Loses.answered (loses : Loses current task) (asks : task.left = .ask request rest)
    (stored : world.store.report? current.id = some current) :
    request.SparesReport current.id ∧
      Loses current (task.answered request (rest (request.perform world).1)) := by
  cases loses with
  | refused terminal silent => cases asks
  | looking terminal looks silent =>
    cases looks with
    | intro found =>
      cases asks
      have performed : Request.perform world (.findReport current.id) =
          (.ok (some current), world) := congrArg (fun row => (Except.ok row, world)) stored
      rw [performed, found]
      exact ⟨trivial, .refused terminal (messages_silent silent rfl)⟩

/-- None of the next so many identifiers is this one. -/
def Fresh (id : Uuid) (left : Nat) (world : World) : Prop :=
  ∀ i, world.issued < i → i ≤ world.issued + left → world.supply i ≠ id

theorem Fresh.ahead (fresh : Fresh id (left + 1) world) : world.supply (world.issued + 1) ≠ id :=
  fresh _ (by omega) (by omega)

/-- A step draws one identifier at most. -/
theorem supplied_step
    (step : Stage.Step (Operation.action (Rules.ofConfig config)) stage next after) :
    after.world.supply = stage.world.supply ∧ stage.world.issued ≤ after.world.issued ∧
      after.world.issued ≤ stage.world.issued + 1 := by
  cases step with
  | started call => exact ⟨rfl, Nat.le_refl _, Nat.le_succ _⟩
  | waited ms => exact ⟨rfl, Nat.le_refl _, Nat.le_succ _⟩
  | idle index => exact ⟨rfl, Nat.le_refl _, Nat.le_succ _⟩
  | asked request => exact ⟨request.supply_perform _, request.issued_perform _⟩

theorem Fresh.step (fresh : Fresh id (left + 1) stage.world)
    (step : Stage.Step (Operation.action (Rules.ofConfig config)) stage next after) :
    Fresh id left after.world := by
  obtain ⟨supply, more, less⟩ := supplied_step step
  intro i above below
  rw [supply]
  exact fresh i (by omega) (by omega)

/-- Nobody has decided the report yet. -/
structure Open (id : Uuid) (report : Report) (stage : Stage Operation.Result) : Prop where
  stored : stage.world.store.report? id = some report
  undecided : Undecided report
  tasks : ∀ (i : Nat) task, stage.tasks[i]? = some task → Waits id task ∨ Indifferent id task

/-- The report was decided by one of the calls. -/
structure Closed (current : Report) (winner : Nat) (stage : Stage Operation.Result) : Prop where
  stored : stage.world.store.report? current.id = some current
  decided : Decided current
  within : winner < stage.tasks.length
  tasks : ∀ (i : Nat) task, stage.tasks[i]? = some task → (i = winner → Wins current task) ∧
    (i ≠ winner → Waits current.id task ∨ Loses current task ∨ Indifferent current.id task)

theorem waits_or_indifferent (id : Uuid) (call : Operation) :
    Waits id (Task.begin (Operation.action (Rules.ofConfig config)) call) ∨
      Indifferent id (Task.begin (Operation.action (Rules.ofConfig config)) call) := by
  by_cases decides : ∃ admin status, call = .resolveReport id admin status
  · obtain ⟨admin, status, rfl⟩ := decides
    exact .inl (.begin admin status)
  · exact .inr (.begin fun admin status same => decides ⟨admin, status, same⟩)

theorem Open.step (opened : Open id report stage) (fresh : Fresh id (left + 1) stage.world)
    (step : Stage.Step (Operation.action (Rules.ofConfig config)) stage next after) :
    Open id report after ∨ ∃ current winner, current.id = id ∧ Closed current winner after := by
  obtain ⟨stored, undecided, tasks⟩ := opened
  cases step with
  | started call =>
    exact .inl ⟨stored, undecided, Stage.forall_begun (waits_or_indifferent id call) tasks⟩
  | waited ms => exact .inl ⟨stored, undecided, tasks⟩
  | idle index => exact .inl ⟨stored, undecided, tasks⟩
  | @asked index task request rest acting asks =>
    rcases tasks index task acting with waits | indifferent
    · rcases waits.answered_open asks stored undecided with ⟨spares, still⟩ | won
      · exact .inl ⟨(spares.perform _).trans stored, undecided,
          Stage.forall_set (.inl still) fun i other _ => tasks i other⟩
      · obtain ⟨current, rfl, decided, written, wins⟩ := won
        refine .inr ⟨current, index, rfl, written, decided, ?_, Stage.forall_set
          ⟨fun _ => wins, fun apart => absurd rfl apart⟩ fun i other apart listed => ?_⟩
        · rw [List.length_set]
          exact (List.getElem?_eq_some_iff.mp acting).1
        · exact ⟨fun same => absurd same apart, fun _ => (tasks i other listed).imp_right .inr⟩
    · obtain ⟨spares, still⟩ := indifferent.answered asks fresh.ahead
      exact .inl ⟨(spares.perform _).trans stored, undecided,
        Stage.forall_set (.inr still) fun i other _ => tasks i other⟩

theorem Closed.step {winner : Nat} (closed : Closed current winner stage)
    (fresh : Fresh current.id (left + 1) stage.world)
    (step : Stage.Step (Operation.action (Rules.ofConfig config)) stage next after) :
    Closed current winner after := by
  obtain ⟨stored, decided, within, tasks⟩ := closed
  cases step with
  | started call =>
    refine ⟨stored, decided, ?_, Stage.forall_begun ⟨fun same => ?_, fun _ => ?_⟩ tasks⟩
    · rw [List.length_append]
      omega
    · omega
    · exact (waits_or_indifferent current.id call).imp_right .inr
  | waited ms => exact ⟨stored, decided, within, tasks⟩
  | idle index => exact ⟨stored, decided, within, tasks⟩
  | @asked index task request rest acting asks =>
    suffices kept : (request.perform stage.world).2.store.report? current.id = some current ∧
        (index = winner → Wins current
          (task.answered request (rest (request.perform stage.world).1))) ∧
        (index ≠ winner → Waits current.id _ ∨ Loses current _ ∨ Indifferent current.id
          (task.answered request (rest (request.perform stage.world).1))) by
      refine ⟨kept.1, decided, ?_, Stage.forall_set kept.2 fun i other _ => tasks i other⟩
      rw [List.length_set]
      exact within
    obtain ⟨own, others⟩ := tasks index task acting
    by_cases same : index = winner
    · obtain ⟨spares, still⟩ := (own same).answered asks stage.world
      exact ⟨(spares.perform _).trans stored, fun _ => still, fun apart => absurd same apart⟩
    · rcases others same with waits | loses | indifferent
      · obtain ⟨kept, still⟩ := waits.answered_closed asks stored decided
        exact ⟨kept, fun own => absurd own same, fun _ => still.imp_right .inl⟩
      · obtain ⟨spares, still⟩ := loses.answered asks stored
        exact ⟨(spares.perform _).trans stored, fun own => absurd own same,
          fun _ => .inr (.inl still)⟩
      · obtain ⟨spares, still⟩ := indifferent.answered asks fresh.ahead
        exact ⟨(spares.perform _).trans stored, fun own => absurd own same,
          fun _ => .inr (.inr still)⟩

end Parley.Moderation
