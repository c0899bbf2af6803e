import Mathlib.Data.List.Induction
import Parley.Notice.Inbox
import Parley.Proofs.Flow.Interleaving
import Parley.Proofs.Store.Table

/-!
# Clients that mark one notification

To mark a notification a call looks it up, declines if a read one is to become unread, and then
writes the status, whatever has happened in the meantime. Calls of many clients take turns request by
request. What was read is unread again exactly where one call looks before and writes after another
call has marked the notification as read.
-/

namespace Parley.Inbox

/-- A call that marks the notification, with the status that it is to have. -/
abbrev Marker := Task fun _ : NoticeStatus => Notification

/-- The stage that a schedule of calls leads to. -/
abbrev marked (id : Uuid) (world : World) (moves : List (Move NoticeStatus)) :
    Stage fun _ : NoticeStatus => Notification :=
  Stage.run (mark id) ⟨world, []⟩ moves

/-- The status that is stored. -/
def statusIn (id : Uuid) (world : World) : Option NoticeStatus :=
  (world.store.notice? id).map Notification.status

variable {id : Uuid} {world : World} {stage : Stage fun _ : NoticeStatus => Notification}
  {moves between : List (Move NoticeStatus)} {next : Move NoticeStatus} {status : NoticeStatus}
  {task : Marker} {i : Nat}

/-- What is left of a call whose status was written. -/
def afterWrite (id : Uuid) :
    Except Error (Option Notification) → Flow (Except Failure Notification)
  | .error e => .done (.error (.refused e))
  | .ok none => .done (.error (.refused (Complaint.noticeMissing id)))
  | .ok (some notice) => .done (.ok notice)

/-- What is left of a call that has looked the notification up. -/
def afterLook (id : Uuid) (status : NoticeStatus) :
    Except Error (Option Notification) → Flow (Except Failure Notification)
  | .error e => .done (.error (.refused e))
  | .ok none => .done (.error (.refused (Complaint.noticeMissing id)))
  | .ok (some current) =>
    if current.status = .read ∧ status = .unread then
      .done (.error (.refused (Complaint.alreadyRead id)))
    else .ask (.setNoticeStatus id status) (afterWrite id)

theorem run_mark (id : Uuid) (status : NoticeStatus) :
    (mark id status).run = .ask (.findNotice id) (afterLook id status) := by
  refine congrArg (Course.ask (Request.findNotice id)) (funext fun answer => ?_)
  match answer with
  | .error e => rfl
  | .ok none => rfl
  | .ok (some current) =>
    rw [afterLook]
    by_cases declined : current.status = .read ∧ status = .unread
    · rw [if_pos declined]
      change ExceptT.run (m := Flow) (if _ then _ else _) = _
      rw [if_pos declined]
      rfl
    · rw [if_neg declined]
      change ExceptT.run (m := Flow) (if _ then _ else _) = _
      rw [if_neg declined]
      refine congrArg (Course.ask (Request.setNoticeStatus id status)) (funext fun answer => ?_)
      match answer with
      | .error e => rfl
      | .ok none => rfl
      | .ok (some notice) => rfl

/-- The call has looked and is about to write. -/
def writing (id : Uuid) (status : NoticeStatus) : Marker :=
  ⟨status, [.findNotice id], .ask (.setNoticeStatus id status) (afterWrite id)⟩

/-- How far a call that marks the notification may have come. -/
inductive Marks (id : Uuid) : Marker → Prop
  | begun (status : NoticeStatus) : Marks id (Task.begin (mark id) status)
  | writing (status : NoticeStatus) : Marks id (writing id status)
  | through (status : NoticeStatus) (made : List Request) (result : Except Failure Notification) :
    Marks id ⟨status, made, .done result⟩

theorem begin_ne_writing (status status' : NoticeStatus) :
    Task.begin (mark id) status ≠ writing id status' := by
  intro same
  have made : ([] : List Request) = [.findNotice id] := congrArg Task.made same
  exact List.cons_ne_nil _ _ made.symm

theorem through_ne_writing {made : List Request} {result : Except Failure Notification}
    (status' : NoticeStatus) :
    (⟨status, made, .done result⟩ : Marker) ≠ writing id status' := by
  intro same
  cases same

theorem advance_begin (status : NoticeStatus) (world : World) :
    (Task.begin (mark id) status).advance world =
      (⟨status, [.findNotice id], afterLook id status (.ok (world.store.notice? id))⟩, world) := by
  rw [Task.advance, Task.begin, run_mark]
  rfl

/-- A call goes on after its look unless it is to make a read notification unread. -/
theorem advance_begin_cases (id : Uuid) (status : NoticeStatus) (world : World) :
    (∃ made result, (Task.begin (mark id) status).advance world =
        (⟨status, made, .done result⟩, world)) ∨
      ((Task.begin (mark id) status).advance world = (writing id status, world) ∧
        ∃ current, statusIn id world = some current ∧
          ¬ (current = .read ∧ status = .unread)) := by
  rw [advance_begin, statusIn]
  cases world.store.notice? id with
  | none => exact .inl ⟨_, _, rfl⟩
  | some current =>
    rw [afterLook]
    split
    · exact .inl ⟨_, _, rfl⟩
    · next admitted => exact .inr ⟨rfl, _, rfl, admitted⟩

/-- A write is not checked again. -/
theorem advance_writing (id : Uuid) (status : NoticeStatus) (world : World) :
    (∃ made result, ((writing id status).advance world).1 = ⟨status, made, .done result⟩) ∧
      statusIn id ((writing id status).advance world).2 =
        (statusIn id world).map fun _ => status := by
  have performed : (writing id status).advance world =
      (⟨status, [.findNotice id] ++ [.setNoticeStatus id status],
        afterWrite id (.ok (world.store.setNoticeStatus id status).1)⟩,
        { world with store := (world.store.setNoticeStatus id status).2 }) := rfl
  rw [performed]
  constructor
  · cases (world.store.setNoticeStatus id status).1 with
    | none => exact ⟨_, _, rfl⟩
    | some notice => exact ⟨_, _, rfl⟩
  · have kept : ∀ notice : Notification, { notice with status }.id = notice.id := fun _ => rfl
    have found : Table.find? Notification.id id (world.store.setNoticeStatus id status).2.notices =
        (world.store.notice? id).map _ := Table.find?_modify_self kept
    change (Table.find? Notification.id id _).map Notification.status = _
    rw [statusIn, Store.notice?]
    exact (congrArg (Option.map Notification.status) found).trans (by
      rw [Option.map_map, Option.map_map]
      rfl)

theorem marks_marked (id : Uuid) (world : World) (moves : List (Move NoticeStatus)) :
    ∀ (i : Nat) task, (marked id world moves).tasks[i]? = some task → Marks id task := by
  refine Stage.forall_run (fun status => .begun status) (fun task world marks => ?_) world moves
  cases marks with
  | begun status =>
    rcases advance_begin_cases id status world with ⟨made, result, through⟩ | ⟨writes, -⟩
    · exact through ▸ .through status made result
    · exact writes ▸ .writing status
  | writing status =>
    obtain ⟨⟨made, result, through⟩, -⟩ := advance_writing id status world
    exact through ▸ .through status made result
  | through status made result => exact .through status made result

/-- The stored status changes only when a call writes its own. -/
theorem statusIn_move (tasks : ∀ (i : Nat) task, stage.tasks[i]? = some task → Marks id task)
    (next : Move NoticeStatus) :
    statusIn id (stage.move (mark id) next).world = statusIn id stage.world ∨
    ∃ i status, next = .turn i ∧ stage.tasks[i]? = some (writing id status) ∧
      statusIn id (stage.move (mark id) next).world =
        (statusIn id stage.world).map fun _ => status := by
  cases next with
  | start status => exact .inl rfl
  | wait ms => exact .inl rfl
  | turn i =>
    cases listed : stage.tasks[i]? with
    | none =>
      rw [Stage.move, listed]
      exact .inl rfl
    | some task =>
      rw [Stage.move_turn (mark id) stage listed]
      cases tasks i task listed with
      | begun status =>
        rcases advance_begin_cases id status stage.world with
          ⟨made, result, through⟩ | ⟨writes, -⟩
        · exact .inl (congrArg (statusIn id) (congrArg Prod.snd through))
        · exact .inl (congrArg (statusIn id) (congrArg Prod.snd writes))
      | writing status => exact .inr ⟨i, status, rfl, listed, (advance_writing id status stage.world).2⟩
      | through status made result => exact .inl rfl

/-- After a schedule, a call that is begun is to look next, and finds this status. -/
structure LooksAt (id : Uuid) (world : World) (first : List (Move NoticeStatus)) (i : Nat)
    (status current : NoticeStatus) : Prop where
  begun : (marked id world first).tasks[i]? = some (Task.begin (mark id) status)
  stored : statusIn id (marked id world first).world = some current

theorem getElem?_marked_append {rest : List (Move NoticeStatus)} (quiet : .turn i ∉ rest)
    (listed : (marked id world moves).tasks[i]? = some task) :
    (marked id world (moves ++ rest)).tasks[i]? = some task := by
  induction rest using List.reverseRecOn with
  | nil => rwa [List.append_nil]
  | append_singleton rest next ih =>
    rw [List.mem_append, not_or] at quiet
    rw [← List.append_assoc, marked, Stage.run_concat]
    refine Stage.getElem?_move (mark id) _ (fun same => quiet.2 ?_) (ih quiet.1)
    rw [same]
    exact List.mem_singleton_self _

/-- After its look the call writes at its next turn. -/
theorem getElem?_marked_of_looksAt {first : List (Move NoticeStatus)} {current : NoticeStatus}
    (looks : LooksAt id world first i status current) (admitted : ¬ (current = .read ∧ status = .unread))
    (quiet : .turn i ∉ between) :
    (marked id world (first ++ .turn i :: between)).tasks[i]? = some (writing id status) := by
  have looked : (marked id world (first ++ [.turn i])).tasks[i]? = some (writing id status) := by
    rw [marked, Stage.run_concat, Stage.move_turn (mark id) _ looks.begun, advance_begin]
    have within := (List.getElem?_eq_some_iff.mp looks.begun).1
    refine (List.getElem?_set_self within).trans (congrArg some ?_)
    have stored := looks.stored
    rw [statusIn, Option.map_eq_some_iff] at stored
    obtain ⟨notice, found, same⟩ := stored
    rw [found, afterLook, same, if_neg admitted]
    rfl
  rw [List.append_cons]
  exact getElem?_marked_append quiet looked

/-- A call that is about to write has looked before. -/
theorem exists_looksAt (listed : (marked id world moves).tasks[i]? = some (writing id status)) :
    ∃ first between current, moves = first ++ .turn i :: between ∧ .turn i ∉ between ∧
      LooksAt id world first i status current ∧ ¬ (current = .read ∧ status = .unread) := by
  induction moves using List.reverseRecOn with
  | nil => simp [marked, Stage.run] at listed
  | append_singleton moves next ih =>
    rw [marked, Stage.run_concat] at listed
    by_cases own : next = .turn i
    · subst own
      cases before : (marked id world moves).tasks[i]? with
      | none =>
        rw [Stage.move, before] at listed
        exact absurd (before.symm.trans listed) (by simp)
      | some task =>
        rw [Stage.move_turn (mark id) _ before,
          List.getElem?_set_self (List.getElem?_eq_some_iff.mp before).1] at listed
        have same := Option.some.inj listed
        cases marks_marked id world moves i task before with
        | begun begun =>
          rcases advance_begin_cases id begun (marked id world moves).world with
            ⟨made, result, through⟩ | ⟨writes, current, stored, admitted⟩
          · rw [through] at same
            exact absurd same (through_ne_writing status)
          · rw [writes] at same
            obtain rfl : begun = status := congrArg Task.call same
            exact ⟨moves, [], current, rfl, List.not_mem_nil, ⟨before, stored⟩, admitted⟩
        | writing begun =>
          obtain ⟨⟨made, result, through⟩, -⟩ :=
            advance_writing id begun (marked id world moves).world
          exact absurd (through.symm.trans same) (through_ne_writing status)
        | through begun made result => exact absurd same (through_ne_writing status)
    · rcases Stage.of_getElem?_move (mark id) _ own listed with before | ⟨begun, same⟩
      · obtain ⟨first, between, current, rfl, quiet, looks⟩ := ih before
        exact ⟨first, between ++ [next], current, by simp, by simp [quiet, Ne.symm own], looks⟩
      · exact absurd same.symm (begin_ne_writing begun status)

/-- What holds first and not in the end ceases to hold at some move. -/
theorem exists_ceasing {p : List (Move NoticeStatus) → Prop} {early mid : List (Move NoticeStatus)}
    (holds : p early) (fails : ¬ p (early ++ mid)) :
    ∃ before next after, mid = before ++ next :: after ∧ p (early ++ before) ∧
      ¬ p (early ++ before ++ [next]) := by
  induction mid generalizing early with
  | nil => exact absurd (by rwa [List.append_nil]) fails
  | cons next rest ih =>
    by_cases still : p (early ++ [next])
    · rw [List.append_cons] at fails
      obtain ⟨before, last, after, rfl, held, failed⟩ := ih still fails
      exact ⟨next :: before, last, after, rfl, by simpa using held, by simpa using failed⟩
    · exact ⟨[], next, rest, rfl, by simpa using holds, by simpa using still⟩

/-- However many clients mark a notification, and in whatever order their requests are answered, it
is unread after it was read exactly if one of them, who is to mark it as unread, looks while it is
unread and writes when another has marked it as read. -/
theorem unread_again_iff (id : Uuid) (world : World) (moves : List (Move NoticeStatus)) :
    (∃ early mid late, moves = early ++ (mid ++ late) ∧
      statusIn id (marked id world early).world = some .read ∧
      statusIn id (marked id world (early ++ mid)).world = some .unread) ↔
    ∃ first between last i, moves = first ++ .turn i :: (between ++ .turn i :: last) ∧
      LooksAt id world first i .unread .unread ∧ .turn i ∉ between ∧
      statusIn id (marked id world (first ++ .turn i :: between)).world = some .read := by
  constructor
  · rintro ⟨early, mid, late, rfl, read, unread⟩
    obtain ⟨before, next, after, rfl, held, failed⟩ := exists_ceasing
      (p := fun moves => statusIn id (marked id world moves).world = some .read) read
      (by rw [unread]; simp)
    rw [marked, Stage.run_concat] at failed
    rcases statusIn_move (marks_marked id world (early ++ before)) next with
      same | ⟨i, status, rfl, acting, written⟩
    · exact absurd (same.trans held) failed
    · rw [held, Option.map_some] at written
      obtain rfl : status = .unread := by
        cases status with
        | read => exact absurd written failed
        | unread => rfl
      obtain ⟨first, between, current, split, quiet, looks, admitted⟩ := exists_looksAt acting
      obtain rfl : current = .unread := by
        cases current with
        | read => exact absurd ⟨rfl, rfl⟩ admitted
        | unread => rfl
      refine ⟨first, between, after ++ late, i, ?_, looks, quiet, split ▸ held⟩
      calc early ++ (before ++ .turn i :: after ++ late)
          = early ++ before ++ .turn i :: (after ++ late) := by simp
        _ = first ++ .turn i :: (between ++ .turn i :: (after ++ late)) := by
            rw [split]
            simp
  · rintro ⟨first, between, last, i, rfl, looks, quiet, read⟩
    refine ⟨first ++ .turn i :: between, [.turn i], last, by simp, read, ?_⟩
    have acting := getElem?_marked_of_looksAt looks (by simp) quiet
    rw [marked, Stage.run_concat, Stage.move_turn (mark id) _ acting,
      (advance_writing id .unread _).2, read]
    rfl

/-- Of two clients the one who looks first, to mark the notification as unread, writes last. -/
theorem unread_again_of_late_write :
    let notice : Notification := {
      id := ⟨1⟩, accountId := ⟨2⟩, kind := .quest, priority := .medium, title := "Quest complete"
      content := "", data := [], status := .unread, channels := [.inGame]
      createdAt := Calendar.Instant.ofMillis 0, expiresAt := none }
    let world : World := { store := { notices := [notice] } }
    let early : List (Move NoticeStatus) :=
      [.start .unread, .start .read, .turn 0, .turn 1, .turn 1]
    statusIn ⟨1⟩ (marked ⟨1⟩ world early).world = some .read ∧
      statusIn ⟨1⟩ (marked ⟨1⟩ world (early ++ [.turn 0])).world = some .unread := by
  decide

end Parley.Inbox
