import Parley.Proofs.Flow.Interleaving
import Parley.Proofs.Moderation.Violations

/-!
# What a call may do to one report

A report is touched by the two calls that are about reports and by no other. A call that files a
report draws an identifier and stores the report under it. A call that decides one writes the
decision at most once: it either announces the decision or looks up what was decided before.
-/

namespace Parley

open Calendar (Instant)

/-- A request that leaves alone the report of an identifier. -/
def Request.SparesReport (id : Uuid) : Request → Prop
  | createReport report => report.id ≠ id
  | resolveReport other .. => other ≠ id
  | _ => True

/-- The topic on which decisions about reports are announced. -/
def decisionTopic : String := topicFor "chat:report:resolved"

/-- A request that creates no report, decides none and announces no decision. -/
def Request.LeavesReports : Request → Prop
  | createReport _ | resolveReport .. => False
  | publish message => message.topic ≠ decisionTopic
  | _ => True

theorem Request.LeavesReports.spares {request : Request} (h : request.LeavesReports) (id : Uuid) :
    request.SparesReport id := by
  cases request with
  | createReport _ | resolveReport _ _ _ _ => exact h.elim
  | _ => trivial

theorem Store.report?_put (store : Store) (report : Report) :
    (store.putReport report).report? report.id = some report :=
  Table.find?_put_self report store.reports

theorem Store.report?_put_of_ne {store : Store} {report : Report} {id : Uuid}
    (h : report.id ≠ id) : (store.putReport report).report? id = store.report? id :=
  Table.find?_put_of_ne h

/-- The report with a decision written into it. -/
def Report.decidedBy (report : Report) (admin : Uuid) (status : ReportStatus) (time : Instant) :
    Report :=
  { report with status, adminId := some admin, resolvedAt := some time }

/-- Only a report that is pending is decided, and then the decision is written into its row. -/
theorem Store.resolveReport_eq {store : Store} {report : Report} {id admin : Uuid}
    {status : ReportStatus} {time : Instant} (stored : store.report? id = some report) :
    store.resolveReport id status admin time =
      if report.status = .pending then
        (some (report.decidedBy admin status time),
          store.putReport (report.decidedBy admin status time))
      else (none, store) := by
  rw [resolveReport, stored]
  rfl

theorem Request.SparesReport.perform {request : Request} {id : Uuid} (h : request.SparesReport id)
    (world : World) : (request.perform world).2.store.report? id = world.store.report? id := by
  cases request with
  | createReport report => exact Store.report?_put_of_ne h
  | resolveReport other status admin time =>
    simp only [Request.perform]
    cases stored : world.store.report? other with
    | none => rw [Store.resolveReport, stored]
    | some report =>
      rw [Store.resolveReport_eq stored]
      split
      · exact Store.report?_put_of_ne ((Table.key_of_find? stored).symm ▸ h)
      · rfl
  | setGuildLevel guild level experience =>
    simp only [Request.perform, Store.setGuildLevel]
    split
    · next store changed =>
      split at changed
      · exact absurd changed (by simp)
      · exact Option.some.inj changed ▸ rfl
    · rfl
  | expire key ttl =>
    simp only [Request.perform]
    split <;> rfl
  | _ => rfl

namespace Moderation

variable {α : Type} {config : Config.Moderation} {actor : Uuid} {scope : Option BanScope}

theorem topicFor_ne_decisionTopic :
    ∀ suffix ∈ ["chat:ban:created", "chat:ban:removed", "chat:ban:auto:spam",
      "chat:ban:auto:severe", "chat:report:created"], topicFor suffix ≠ decisionTopic := by
  decide

theorem leavesReports_autoBan (cause : BanCause) (hours : Int) :
    (autoBan actor scope cause hours).Asks Request.LeavesReports := by
  refine asks_autoBan trivial trivial (fun _ => trivial) trivial fun ban time => ?_
  cases cause with
  | spam => exact topicFor_ne_decisionTopic "chat:ban:auto:spam" (by simp)
  | severe => exact topicFor_ne_decisionTopic "chat:ban:auto:severe" (by simp)

theorem leavesReports_count (key : String) (window : Nat) :
    (Action.countInWindow key window).Asks Request.LeavesReports :=
  .countInWindow trivial trivial trivial

theorem leavesReports_autoBanForSpam :
    (autoBanForSpam (Rules.ofConfig config) actor scope).Asks Request.LeavesReports :=
  asks_autoBanForSpam trivial fun hours => leavesReports_autoBan .spam hours

theorem leavesReports_autoBanForViolations (violations : Int) :
    (autoBanForViolations (Rules.ofConfig config) actor scope violations).Asks
      Request.LeavesReports :=
  .ite (.pure none) ((leavesReports_autoBan _ _).map _)

theorem leavesReports_recordViolation :
    (recordViolation (Rules.ofConfig config) actor scope).Asks Request.LeavesReports := by
  refine (leavesReports_count _ _).bind fun count => .ite ?_ (.pure ())
  refine (leavesReports_autoBanForViolations count).bind fun ban => ?_
  exact .ite (Action.Asks.ask (r := .deleteCounter _) trivial).answered (.pure ())

theorem leavesReports_screen (content : String) :
    (screen (Rules.ofConfig config) actor scope content).Asks Request.LeavesReports := by
  refine (asks_checkBan trivial fun _ => trivial).bind fun ban => ?_
  cases ban with
  | some ban => exact .pure _
  | none =>
    refine (asks_detectSpam (leavesReports_count _) (leavesReports_count _)).bind fun isSpam => ?_
    refine .ite ((asks_attempt leavesReports_autoBanForSpam).bind fun _ => .pure _) ?_
    refine (asks_filterMessage _ fun _ => trivial).bind fun outcome => ?_
    exact .ite ((asks_attempt leavesReports_recordViolation).bind fun _ => .pure _) (.pure _)

theorem leavesReports_createBan (admin : Uuid) (request : BanRequest) :
    (createBan admin request).Asks Request.LeavesReports := by
  refine .guarded fun _ => .guarded fun _ => (asks_draftBan trivial trivial).bind fun ban => ?_
  refine (Action.Asks.ask (r := .createBan ban) trivial).answered.bind fun ban => ?_
  exact asks_announceNow trivial fun _ => topicFor_ne_decisionTopic "chat:ban:created" (by simp)

theorem leavesReports_removeBan (id : Uuid) : (removeBan id).Asks Request.LeavesReports := by
  refine (Action.Asks.ask (r := .deactivateBan id) trivial).answered.bind fun ban => ?_
  cases ban with
  | none => exact .fail _
  | some ban =>
    exact asks_announceNow trivial fun _ => topicFor_ne_decisionTopic "chat:ban:removed" (by simp)

/-- A report as it is filed: nobody has decided it. -/
structure Undecided (report : Report) : Prop where
  pending : report.status = .pending
  unsigned : report.adminId = none
  undated : report.resolvedAt = none

/-- What is left of a call that has drawn an identifier for its report, up to storing it. -/
inductive Writes (id : Uuid) : Flow α → Prop
  | undated {next : Instant → Flow α} (rest : ∀ time, Writes id (next time)) :
    Writes id (.ask .now next)
  | dated {report : Report} {next : Except Error Report → Flow α} (named : report.id = id)
    (undecided : Undecided report) (rest : ∀ answer, (next answer).Asks Request.LeavesReports) :
    Writes id (.ask (.createReport report) next)

/-- What is left of a call that is about to draw an identifier for its report. -/
inductive Draws : Flow α → Prop
  | intro {next : Uuid → Flow α} (rest : ∀ id, Writes id (next id)) : Draws (.ask .freshId next)

theorem Writes.spares {id other : Uuid} {left : Flow α} (writes : Writes id left)
    (apart : id ≠ other) : left.Asks (Request.SparesReport other) := by
  induction writes with
  | undated rest ih => exact ⟨trivial, ih⟩
  | dated named undecided rest =>
    refine ⟨fun same => apart (named.symm.trans same), fun answer => ?_⟩
    exact (rest answer).mono fun _ leaves => leaves.spares other

theorem draws_createReport (reporter : Uuid) {request : ReportRequest}
    (reasoned : isBlank request.reason = false) : Draws (createReport reporter request).run := by
  have announced (report : Report) : Action.Asks Request.LeavesReports (do
      announce (.reportCreated report (← Action.now))
      pure report) :=
    asks_announceNow trivial fun _ => topicFor_ne_decisionTopic "chat:report:created" (by simp)
  rw [createReport, if_neg (by simp [reasoned])]
  refine .intro fun id => .undated fun time => .dated rfl ⟨rfl, rfl, rfl⟩ fun answer => ?_
  cases answer with
  | ok report => exact announced report
  | error e => trivial

/-- What is left of a call whose decision was written, up to announcing it. -/
inductive Tells (report : Report) : Flow (Except Failure Report) → Prop
  | undated {next : Instant → Flow (Except Failure Report)}
    (rest : ∀ time, Tells report (next time)) : Tells report (.ask .now next)
  | dated {time : Instant} {next : Except Error Unit → Flow (Except Failure Report)}
    (rest : ∀ answer, next answer = .done (.ok report)) :
    Tells report (.ask (.publish (Announcement.reportResolved report time).message) next)

/-- What is left of a call that came too late. -/
inductive LooksUp (id : Uuid) : Flow (Except Failure Report) → Prop
  | intro {next : Except Error (Option Report) → Flow (Except Failure Report)}
    (found : ∀ report, next (.ok (some report)) =
      .done (.error (.refused (Complaint.alreadyDecided id report.status)))) :
    LooksUp id (.ask (.findReport id) next)

/-- What is left of a call that has written no decision yet. -/
inductive Decides (id admin : Uuid) (status : ReportStatus) : Flow (Except Failure Report) → Prop
  | undated {next : Instant → Flow (Except Failure Report)}
    (rest : ∀ time, Decides id admin status (next time)) : Decides id admin status (.ask .now next)
  | dated {time : Instant} {next : Except Error (Option Report) → Flow (Except Failure Report)}
    (terminal : status.isTerminal = true)
    (won : ∀ report, Tells report (next (.ok (some report))))
    (lost : LooksUp id (next (.ok none))) :
    Decides id admin status (.ask (.resolveReport id status admin time) next)
  | declined (unfit : status.isTerminal = false) :
    Decides id admin status (.done (.error (.refused (Complaint.notADecision status))))

theorem decides_resolveReport (id admin : Uuid) (status : ReportStatus) :
    Decides id admin status (resolveReport id admin status).run := by
  rw [resolveReport]
  cases terminal : status.isTerminal with
  | false => exact .declined terminal
  | true =>
    refine .undated fun time => .dated terminal (fun report => ?_) (.intro fun report => rfl)
    refine .undated fun time => .dated fun answer => ?_
    cases answer <;> rfl

theorem leavesReports_action {operation : Operation}
    (files : ∀ reporter request, operation ≠ .createReport reporter request)
    (decides : ∀ id admin status, operation ≠ .resolveReport id admin status) :
    (operation.action (Rules.ofConfig config)).Asks Request.LeavesReports := by
  cases operation with
  | checkBan actor channel => exact asks_checkBan trivial fun _ => trivial
  | filterMessage content => exact asks_filterMessage _ fun _ => trivial
  | detectSpam actor content =>
    exact asks_detectSpam (leavesReports_count _) (leavesReports_count _)
  | autoBanForSpam actor scope => exact leavesReports_autoBanForSpam
  | autoBanForViolations actor scope violations =>
    exact leavesReports_autoBanForViolations violations
  | createBan admin request => exact leavesReports_createBan admin request
  | removeBan id => exact leavesReports_removeBan id
  | listBans character limit offset =>
    exact (Action.Asks.ask (r := .listBans ..) trivial).answered
  | createReport reporter request => exact absurd rfl (files reporter request)
  | listReports status limit offset =>
    exact (Action.Asks.ask (r := .listReports ..) trivial).answered
  | resolveReport id admin status => exact absurd rfl (decides id admin status)
  | screen sender scope content => exact leavesReports_screen content

/-- A call that does not decide the report leaves it alone, unless it will draw the identifier of
the report for one of its own. -/
theorem spares_or_draws {operation : Operation} {id : Uuid}
    (other : ∀ admin status, operation ≠ .resolveReport id admin status) :
    (operation.action (Rules.ofConfig config)).Asks (Request.SparesReport id) ∨
      Draws (operation.action (Rules.ofConfig config)).run := by
  by_cases files : ∃ reporter request, operation = .createReport reporter request
  · obtain ⟨reporter, request, rfl⟩ := files
    cases reasoned : isBlank request.reason with
    | false => exact .inr (draws_createReport reporter reasoned)
    | true =>
      left
      change (createReport reporter request).Asks (Request.SparesReport id)
      rw [createReport, if_pos reasoned]
      trivial
  by_cases decides : ∃ report admin status, operation = .resolveReport report admin status
  · obtain ⟨report, admin, status, rfl⟩ := decides
    have apart : report ≠ id := fun same => other admin status (same ▸ rfl)
    exact .inl (asks_resolveReport trivial (fun _ => apart) trivial fun _ _ => trivial)
  · have leaves : (operation.action (Rules.ofConfig config)).Asks Request.LeavesReports :=
      leavesReports_action (fun reporter request same => files ⟨reporter, request, same⟩)
        fun report admin status same => decides ⟨report, admin, status, same⟩
    exact .inl (Course.Asks.mono leaves fun _ leaves => leaves.spares id)

end Moderation

end Parley
