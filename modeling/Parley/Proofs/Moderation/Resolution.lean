import Parley.Proofs.Moderation.Contest

/-!
# A report is decided once

A report is stored by the one call that drew its identifier, and no other call stores anything under
it. From there on it is open, until one call decides it for good: that call announces the decision,
and all others that wanted to decide it report how it was decided.
-/

namespace Parley.Moderation

open Calendar (Instant)

variable {config : Config.Moderation} {id : Uuid} {current report : Report} {left : Nat}
  {world : World} {stage after : Stage Operation.Result} {next : Move Operation}
  {task : Task Operation.Result} {request : Request}

/-- The reports that the call has stored under the identifier are of this kind. -/
def FilesOnly (id : Uuid) (kind : Report → Prop) (task : Task Operation.Result) : Prop :=
  ∀ other, Request.createReport other ∈ task.made → other.id = id → kind other

theorem FilesOnly.answered {kind : Report → Prop} (files : FilesOnly id kind task)
    (spares : request.SparesReport id) (flow : Flow (Except Failure (Operation.Result task.call))) :
    FilesOnly id kind (task.answered request flow) := by
  intro other listed named
  rcases List.mem_append.mp listed with early | last
  · exact files other early named
  · obtain rfl := List.mem_singleton.mp last
    exact absurd named spares

theorem FilesOnly.begin {kind : Report → Prop} (call : Operation) :
    FilesOnly id kind (Task.begin (Operation.action (Rules.ofConfig config)) call) :=
  fun _ listed => absurd listed List.not_mem_nil

/-- The next so many identifiers are distinct. -/
def DistinctAhead (left : Nat) (world : World) : Prop :=
  ∀ i, world.issued < i → i ≤ world.issued + left →
    ∀ j, world.issued < j → j ≤ world.issued + left → world.supply i = world.supply j → i = j

theorem DistinctAhead.step (ahead : DistinctAhead (left + 1) stage.world)
    (step : Stage.Step (Operation.action (Rules.ofConfig config)) stage next after) :
    DistinctAhead left after.world := by
  obtain ⟨supply, more, less⟩ := supplied_step step
  intro i above below j above' below'
  rw [supply]
  exact ahead i (by omega) (by omega) j (by omega) (by omega)

/-- An identifier that was drawn is not drawn again. -/
theorem DistinctAhead.fresh (ahead : DistinctAhead (left + 1) world) :
    Fresh (world.supply (world.issued + 1)) left (Request.perform world .freshId).2 := by
  intro i more less same
  change world.issued + 1 < i at more
  change i ≤ world.issued + 1 + left at less
  have apart := ahead i (by omega) (by omega) (world.issued + 1) (by omega) (by omega) same
  omega

/-- No report was filed under the identifier, and no call has drawn it for one. -/
def Unfiled (id : Uuid) (stage : Stage Operation.Result) : Prop :=
  ∀ (i : Nat) task, stage.tasks[i]? = some task →
    Indifferent id task ∧ FilesOnly id (fun _ => False) task

/-- One call has drawn the identifier and will file a report under it. -/
structure Drafted (id : Uuid) (left writer : Nat) (stage : Stage Operation.Result) : Prop where
  within : writer < stage.tasks.length
  fresh : Fresh id left stage.world
  tasks : ∀ (i : Nat) task, stage.tasks[i]? = some task →
    (i = writer → (∀ admin status, task.call ≠ .resolveReport id admin status) ∧
      Writes id task.left) ∧
    (i ≠ writer → Indifferent id task) ∧ FilesOnly id (fun _ => False) task

/-- The report is filed, and nobody wants to decide it. -/
structure OnFile (id : Uuid) (left : Nat) (report : Report) (stage : Stage Operation.Result) :
    Prop where
  fresh : Fresh id left stage.world
  stored : stage.world.store.report? id = some report
  undecided : Undecided report
  tasks : ∀ (i : Nat) task, stage.tasks[i]? = some task →
    Indifferent id task ∧ FilesOnly id (· = report) task

inductive Origin (id : Uuid) (left : Nat) (stage : Stage Operation.Result) : Prop
  | unfiled (unfiled : Unfiled id stage)
  | drafted (writer : Nat) (drafted : Drafted id left writer stage)
  | onFile (report : Report) (onFile : OnFile id left report stage)

theorem Indifferent.started {call : Operation}
    (unresolved : ∀ admin status, Move.start call ≠ .start (.resolveReport id admin status)) :
    Indifferent id (Task.begin (Operation.action (Rules.ofConfig config)) call) :=
  .begin fun admin status same => unresolved admin status (congrArg Move.start same)

section Filing

variable (unresolved : ∀ admin status, next ≠ .start (.resolveReport id admin status))
  (moved : Stage.Step (Operation.action (Rules.ofConfig config)) stage next after)
include unresolved moved

theorem Unfiled.step (unfiled : Unfiled id stage)
    (ahead : DistinctAhead (left + 1) stage.world) : Origin id left after := by
  cases moved with
  | started call =>
    exact .unfiled (Stage.forall_begun ⟨.started unresolved, .begin call⟩ unfiled)
  | waited ms => exact .unfiled unfiled
  | idle index => exact .unfiled unfiled
  | @asked index task request rest acting asks =>
    obtain ⟨indifferent, files⟩ := unfiled index task acting
    obtain ⟨spares, either⟩ := indifferent.answered_or_drawn asks stage.world
    rcases either with still | ⟨rfl, drawn, writes⟩
    · exact .unfiled (Stage.forall_set ⟨still, files.answered spares _⟩
        fun i other _ => unfiled i other)
    · refine .drafted index ⟨?_, drawn ▸ ahead.fresh, Stage.forall_set ⟨fun _ => ?_, ?_⟩ ?_⟩
      · rw [List.length_set]
        exact (List.getElem?_eq_some_iff.mp acting).1
      · exact ⟨indifferent.other, writes⟩
      · exact ⟨fun apart => absurd rfl apart, files.answered spares _⟩
      · intro i other apart listed
        obtain ⟨spared, others⟩ := unfiled i other listed
        exact ⟨fun same => absurd same apart, fun _ => spared, others⟩

theorem Drafted.step {writer : Nat} (drafted : Drafted id (left + 1) writer stage) :
    Origin id left after := by
  have later := drafted.fresh.step moved
  obtain ⟨within, fresh, tasks⟩ := drafted
  cases moved with
  | started call =>
    refine .drafted writer ⟨?_, later, Stage.forall_begun ⟨fun same => ?_, ?_⟩ tasks⟩
    · rw [List.length_append]
      omega
    · omega
    · exact ⟨fun _ => .started unresolved, .begin call⟩
  | waited ms => exact .drafted writer ⟨within, later, tasks⟩
  | idle index => exact .drafted writer ⟨within, later, tasks⟩
  | @asked index task request rest acting asks =>
    obtain ⟨own, others, files⟩ := tasks index task acting
    have kept (other : Task Operation.Result) :
        writer < (stage.tasks.set index other).length := by
      rw [List.length_set]
      exact within
    by_cases same : index = writer
    · obtain ⟨other, writes⟩ := own same
      rw [asks] at writes
      cases writes with
      | undated rest =>
        have spares : Request.SparesReport id .now := trivial
        refine .drafted writer ⟨kept _, later, Stage.forall_set ⟨fun _ => ⟨other, rest _⟩, ?_⟩ ?_⟩
        · exact ⟨fun apart => absurd same apart, files.answered spares _⟩
        · exact fun i other _ => tasks i other
      | @dated report _ named undecided rest =>
        have leaves := (rest (Request.perform stage.world (.createReport report)).1).mono
          fun _ (leaves : Request.LeavesReports _) => leaves.spares id
        refine .onFile report ⟨later, named ▸ Store.report?_put _ report, undecided,
          Stage.forall_set ⟨⟨other, .inl leaves⟩, fun filed listed its => ?_⟩ ?_⟩
        · rcases List.mem_append.mp listed with early | last
          · exact (files filed early its).elim
          · exact Request.createReport.inj (List.mem_singleton.mp last)
        · intro i other apart listed
          obtain ⟨-, spared, unfiled⟩ := tasks i other listed
          exact ⟨spared (same ▸ apart), fun filed early its => (unfiled filed early its).elim⟩
    · obtain ⟨spares, still⟩ := (others same).answered asks fresh.ahead
      refine .drafted writer ⟨kept _, later, Stage.forall_set ⟨fun own => absurd own same, ?_⟩ ?_⟩
      · exact ⟨fun _ => still, files.answered spares _⟩
      · exact fun i other _ => tasks i other

theorem OnFile.step (onFile : OnFile id (left + 1) report stage) : OnFile id left report after := by
  have later := onFile.fresh.step moved
  obtain ⟨fresh, stored, undecided, tasks⟩ := onFile
  cases moved with
  | started call =>
    exact ⟨later, stored, undecided, Stage.forall_begun ⟨.started unresolved, .begin call⟩ tasks⟩
  | waited ms => exact ⟨later, stored, undecided, tasks⟩
  | idle index => exact ⟨later, stored, undecided, tasks⟩
  | @asked index task request rest acting asks =>
    obtain ⟨indifferent, files⟩ := tasks index task acting
    obtain ⟨spares, still⟩ := indifferent.answered asks fresh.ahead
    exact ⟨later, (spares.perform _).trans stored, undecided,
      Stage.forall_set ⟨still, files.answered spares _⟩ fun i other _ => tasks i other⟩

theorem Origin.step (origin : Origin id (left + 1) stage)
    (ahead : DistinctAhead (left + 1) stage.world) : Origin id left after := by
  cases origin with
  | unfiled unfiled => exact unfiled.step unresolved moved ahead
  | drafted writer drafted => exact drafted.step unresolved moved
  | onFile report onFile => exact .onFile report (onFile.step unresolved moved)

end Filing

theorem Closed.deciding_cases {winner i : Nat} {admin : Uuid} {status : ReportStatus}
    {made : List Request} {flow : Flow (Except Failure Report)}
    (closed : Closed current winner stage)
    (listed : stage.tasks[i]? = some (deciding current.id admin status made flow)) :
    (i = winner ∧ Wins current (deciding current.id admin status made flow)) ∨
      Waits current.id (deciding current.id admin status made flow) ∨
      Loses current (deciding current.id admin status made flow) := by
  obtain ⟨own, others⟩ := closed.tasks i _ listed
  by_cases same : i = winner
  · exact .inl ⟨same, own same⟩
  · rcases others same with waits | loses | indifferent
    · exact .inr (.inl waits)
    · exact .inr (.inr loses)
    · exact absurd rfl (indifferent.other admin status)

/-- A call that succeeded is the one that decided the report. -/
theorem Closed.wins {winner i : Nat} {admin : Uuid} {status : ReportStatus} {made : List Request}
    (closed : Closed current winner stage) (listed : stage.tasks[i]? =
      some (deciding current.id admin status made (.done (.ok report)))) :
    i = winner ∧ Wins current (deciding current.id admin status made (.done (.ok report))) := by
  rcases closed.deciding_cases listed with wins | waits | loses
  · exact wins
  · obtain ⟨decides, silent⟩ := waits
    cases decides
  · cases loses with
    | looking terminal looks silent => cases looks

theorem Open.run {moves : List (Move Operation)} (left : Nat) (opened : Open id report stage)
    (fresh : Fresh id (left + moves.length) stage.world) :
    let reached := Stage.run (Operation.action (Rules.ofConfig config)) stage moves
    Fresh id left reached.world ∧ (Open id report reached ∨
      ∃ current winner, current.id = id ∧ Closed current winner reached) := by
  refine Stage.run_invariant (fun left stage => Fresh id left stage.world ∧ (Open id report stage ∨
    ∃ current winner, current.id = id ∧ Closed current winner stage)) ?_ left
    ⟨fresh, .inl opened⟩ fun _ _ => trivial
  rintro left stage next after - ⟨fresh, opened | ⟨current, winner, rfl, closed⟩⟩ step
  · exact ⟨fresh.step step, opened.step fresh step⟩
  · exact ⟨fresh.step step, .inr ⟨current, winner, rfl, closed.step fresh step⟩⟩

theorem Closed.run {winner : Nat} {moves : List (Move Operation)}
    (closed : Closed current winner stage)
    (fresh : Fresh current.id moves.length stage.world) :
    Closed current winner (Stage.run (Operation.action (Rules.ofConfig config)) stage moves) := by
  rw [← Nat.zero_add moves.length] at fresh
  refine (Stage.run_invariant (fun left stage => Fresh current.id left stage.world ∧
    Closed current winner stage) ?_ 0 ⟨fresh, closed⟩ fun _ _ => trivial).2
  rintro left stage next after - ⟨fresh, closed⟩ step
  exact ⟨fresh.step step, closed.step fresh step⟩

end Parley.Moderation
