import Parley.Proofs.Flow.Interleaving
import Parley.Proofs.Store.Counters

/-!
# Counters that do not lose their windows

A call that counts up makes up to three requests: it counts, sets the deadline of a window that it
opened, and deletes the counter if that was refused. Others may count, close and delete in between,
and a count or a deadline may be refused at any time. A counter without a deadline is then one that
some call is about to close or to delete; so when no call is under way every counter has one. For this
the clock has to reach the deadlines: a call that asks for another one breaks off, and leaves the
counter behind without any.
-/

namespace Parley

section Refusals

variable {Call : Type} {Result : Call → Type}

/-- A step of a schedule in which requests may be refused. -/
inductive Happening (Call : Type) where
  | moved (next : Move Call)
  | refused (index : Nat) (error : Error)

namespace Task

/-- The request that a call makes next, if it has not ended. -/
def next? (task : Task Result) : Option Request :=
  match task.left with
  | .done _ => none
  | .ask request _ => some request

/-- The task after its next request was refused, if that is a count or a deadline. -/
def refused (task : Task Result) (error : Error) : Task Result :=
  match task.left with
  | .ask (.increment key) next => task.answered (.increment key) (next (.error error))
  | .ask (.expire key ttl) next => task.answered (.expire key ttl) (next (.error error))
  | _ => task

/-- The call is about to set the deadline of a counter or to delete it. -/
def Attends (task : Task Result) (key : String) : Prop :=
  (∃ ttl, task.next? = some (.expire key ttl)) ∨ task.next? = some (.deleteCounter key)

variable {task : Task Result} {key own : String} {ttl : Nat}

theorem attends_iff_of_expire (asks : task.next? = some (.expire own ttl)) :
    task.Attends key ↔ own = key := by
  simp [Attends, asks]

theorem attends_iff_of_delete (asks : task.next? = some (.deleteCounter own)) :
    task.Attends key ↔ own = key := by
  simp [Attends, asks]

theorem not_attends_of_increment (asks : task.next? = some (.increment own)) :
    ¬ task.Attends key := by
  simp [Attends, asks]

theorem not_attends_of_ended (ended : task.next? = none) : ¬ task.Attends key := by
  simp [Attends, ended]

theorem reading_advance (task : Task Result) (world : World) :
    world.reading ≤ (task.advance world).2.reading := by
  rw [advance]
  cases task.left with
  | done result => exact Nat.le_refl _
  | ask request next => exact request.reading_perform world

end Task

namespace Stage

variable (action : (call : Call) → Action (Result call)) (stage : Stage Result)

def happen : Happening Call → Stage Result
  | .moved next => stage.move action next
  | .refused index error =>
    match stage.tasks[index]? with
    | none => stage
    | some task => { stage with tasks := stage.tasks.set index (task.refused error) }

/-- The stage that a schedule with refusals leads to. -/
def pass (schedule : List (Happening Call)) : Stage Result := schedule.foldl (happen action) stage

theorem reading_happen (happening : Happening Call) :
    stage.world.reading ≤ (stage.happen action happening).world.reading := by
  match happening with
  | .moved (.start call) => exact Nat.le_refl _
  | .moved (.wait ms) => exact Nat.add_le_add_left (Nat.le_add_right _ _) _
  | .moved (.turn i) =>
    rw [happen]
    cases acting : stage.tasks[i]? with
    | none => exact Nat.le_of_eq (by rw [move, acting])
    | some task =>
      rw [move_turn action stage acting]
      exact task.reading_advance stage.world
  | .refused i error =>
    rw [happen]
    cases stage.tasks[i]? <;> exact Nat.le_refl _

theorem reading_pass (schedule : List (Happening Call)) :
    stage.world.reading ≤ (stage.pass action schedule).world.reading := by
  induction schedule generalizing stage with
  | nil => exact Nat.le_refl _
  | cons happening rest ih => exact Nat.le_trans (stage.reading_happen action happening) (ih _)

/-- No call is under way. -/
def Quiet : Prop := ∀ task ∈ stage.tasks, task.next?.isNone = true

instance : Decidable stage.Quiet := inferInstanceAs (Decidable (∀ _ ∈ _, _))

end Stage

end Refusals

namespace Counters

variable {counters : Counters} {now ttl : Nat} {key other : String}

/-- There is a counter of this key, and it has no deadline. -/
def Lacks (counters : Counters) (key : String) : Prop :=
  ∃ counter, counters.find? key = some counter ∧ counter.deadline = none

/-- Every counter has a deadline. -/
def Bounded (counters : Counters) : Prop := ∀ counter ∈ counters.entries, counter.deadline ≠ none

instance : Decidable counters.Bounded := inferInstanceAs (Decidable (∀ _ ∈ _, _))

theorem bounded_iff (distinct : counters.Distinct) :
    counters.Bounded ↔ ∀ key, ¬ counters.Lacks key := by
  constructor
  · rintro bounded key ⟨counter, found, missing⟩
    exact bounded counter (Table.mem_of_find? found) missing
  · intro none_lacks counter listed missing
    exact none_lacks counter.key
      ⟨counter, (Table.mem_iff_find?_eq_some distinct).mp listed, missing⟩

theorem find?_of_swept (distinct : counters.Distinct) {counter : Counter}
    (found : (counters.swept now).find? key = some counter) :
    counters.find? key = some counter := by
  rw [swept] at found
  split at found
  · have counted : ({ counters with increments := counters.increments + 1 } : Counters).Distinct :=
      distinct
    rw [find?_sweep counted] at found
    exact (Option.filter_eq_some_iff.mp found).1
  · exact found

theorem lacks_increment_of_ne (distinct : counters.Distinct) (apart : key ≠ other)
    (lacks : (counters.increment now key).2.Lacks other) : counters.Lacks other := by
  obtain ⟨counter, found, missing⟩ := lacks
  have kept : (counters.increment now key).2.find? other = (counters.swept now).find? other :=
    Table.find?_put_of_ne (key_raisedCounter.trans_ne apart)
  exact ⟨counter, find?_of_swept distinct (kept.symm.trans found), missing⟩

/-- A count that leaves a counter without a deadline is the first one, or the counter had none. -/
theorem lacks_increment_self (distinct : counters.Distinct)
    (lacks : (counters.increment now key).2.Lacks key) :
    (counters.increment now key).1 = 1 ∨ counters.Lacks key := by
  obtain ⟨counter, found, missing⟩ := lacks
  rw [find?_increment] at found
  obtain rfl := Option.some.inj found
  have closes : (Window.raised (counters.window? now key)).closes = none := by
    rw [← window?_swept distinct, ← window_raisedCounter]
    exact missing
  rw [increment_value distinct]
  cases isOpen : counters.window? now key with
  | none => exact .inl rfl
  | some former =>
    rw [isOpen] at closes
    obtain ⟨counter, listed, rfl⟩ := Option.map_eq_some_iff.mp (Option.filter_eq_some_iff.mp isOpen).1
    exact .inr ⟨counter, listed, closes⟩

theorem lacks_expire (lacks : (counters.expire now key ttl).Lacks other) :
    key ≠ other ∧ counters.Lacks other := by
  obtain ⟨counter, found, missing⟩ := lacks
  by_cases same : key = other
  · subst same
    have changed : (counters.expire now key ttl).find? key =
        (counters.find? key).map fun counter => { counter with deadline := some (now + ttl) } :=
      Table.find?_modify_self key_withDeadline
    rw [changed] at found
    obtain ⟨former, -, rfl⟩ := Option.map_eq_some_iff.mp found
    cases missing
  · have kept : (counters.expire now key ttl).find? other = counters.find? other :=
      Table.find?_modify_of_ne key_withDeadline same
    exact ⟨same, counter, kept.symm.trans found, missing⟩

theorem lacks_delete (distinct : counters.Distinct) (lacks : (counters.delete key).Lacks other) :
    key ≠ other ∧ counters.Lacks other := by
  obtain ⟨counter, found, missing⟩ := lacks
  have kept : (counters.delete key).find? other = (counters.find? other).filter (·.key != key) :=
    Table.find?_filter distinct _
  refine ⟨?_, counter, (Option.filter_eq_some_iff.mp (kept.symm.trans found)).1, missing⟩
  rintro rfl
  rw [find?_delete_self] at found
  cases found

end Counters

/-- A call that works on a counter. -/
inductive Counting where
  | count (key : String) (window : Nat)
  | delete (key : String)
  deriving DecidableEq

namespace Counting

abbrev Result : Counting → Type
  | count .. => Int
  | delete _ => Unit

def action : (call : Counting) → Action call.Result
  | count key window => Action.countInWindow key window
  | delete key => Action.deleteCounter key

/-- What is left of a count that has asked for its deadline. -/
def afterExpire (key : String) : Except Error Bool → Flow (Except Failure Int)
  | .ok true => .done (.ok 1)
  | .ok false => .done (.error .aborted)
  | .error e => .ask (.deleteCounter key) fun _ => .done (.error (.refused e))

/-- What is left of a count that was answered. -/
def afterIncrement (key : String) (window : Nat) : Except Error Int → Flow (Except Failure Int)
  | .ok value =>
    if value = 1 then .ask (.expire key window) (afterExpire key) else .done (.ok value)
  | .error e => .done (.error (.refused e))

theorem run_countInWindow (key : String) (window : Nat) :
    (Action.countInWindow key window).run = .ask (.increment key) (afterIncrement key window) := by
  refine congrArg (Course.ask (Request.increment key)) (funext fun answer => ?_)
  match answer with
  | .error e => rfl
  | .ok value =>
    rw [afterIncrement]
    by_cases first : value = 1
    · subst first
      rw [if_pos rfl]
      refine congrArg (Course.ask (Request.expire key window)) (funext fun answer => ?_)
      match answer with
      | .ok true => rfl
      | .ok false => rfl
      | .error e =>
        refine congrArg (Course.ask (Request.deleteCounter key)) (funext fun answer => ?_)
        match answer with
        | .ok () => rfl
        | .error _ => rfl
    · rw [if_neg first]
      change ExceptT.run (m := Flow) (if _ then _ else _) = _
      rw [if_neg first]
      rfl

/-- How far a call may have come. -/
inductive Phase (calls : Counting → Prop) : Task Result → Prop
  | counting {key : String} {window : Nat} (allowed : calls (.count key window)) :
    Phase calls ⟨.count key window, [], .ask (.increment key) (afterIncrement key window)⟩
  | closing {key : String} {window : Nat} (allowed : calls (.count key window))
      (made : List Request) :
    Phase calls ⟨.count key window, made, .ask (.expire key window) (afterExpire key)⟩
  | dropping {key : String} {window : Nat} (allowed : calls (.count key window))
      (made : List Request) (error : Error) :
    Phase calls ⟨.count key window, made,
      .ask (.deleteCounter key) fun _ => .done (.error (.refused error))⟩
  | deleting {key : String} (allowed : calls (.delete key)) :
    Phase calls (Task.begin action (.delete key))
  | through {call : Counting} (allowed : calls call) (made : List Request)
      (result : Except Failure call.Result) : Phase calls ⟨call, made, .done result⟩

variable {calls : Counting → Prop} {task : Task Result} {call : Counting} {key : String}
  {world : World} {error : Error}

theorem phase_begin (allowed : calls call) : Phase calls (Task.begin action call) := by
  cases call with
  | count key window =>
    rw [Task.begin, action, run_countInWindow]
    exact .counting allowed
  | delete key => exact .deleting allowed

/-- A count that opened a window is to set its deadline, and the others have ended. -/
theorem phase_afterIncrement {window : Nat} (allowed : calls (.count key window))
    (made : List Request) (answer : Except Error Int) :
    Phase calls ⟨.count key window, made, afterIncrement key window answer⟩ := by
  match answer with
  | .error e => exact .through allowed made _
  | .ok value =>
    rw [afterIncrement]
    split
    · exact .closing allowed made
    · exact .through allowed made _

theorem Phase.refused (phase : Phase calls task) (error : Error) :
    Phase calls (task.refused error) := by
  cases phase with
  | counting allowed => exact phase_afterIncrement allowed _ (.error error)
  | closing allowed made => exact .dropping allowed _ error
  | dropping allowed made former => exact .dropping allowed made former
  | deleting allowed => exact .deleting allowed
  | through allowed made result => exact .through allowed made result

theorem Phase.advance (phase : Phase calls task) (world : World) :
    Phase calls (task.advance world).1 := by
  cases phase with
  | counting allowed => exact phase_afterIncrement allowed _ _
  | @closing key window allowed made =>
    have closed : ∀ reached : Bool,
        Phase calls ⟨.count key window, made ++ [.expire key window], afterExpire key (.ok reached)⟩ :=
      fun reached => by cases reached <;> exact .through allowed _ _
    rw [Task.advance]
    dsimp only
    rw [Request.perform]
    split
    · exact closed true
    · exact closed false
  | dropping allowed made former => exact .through allowed _ _
  | deleting allowed => exact .through allowed _ _
  | through allowed made result => exact .through allowed made result

theorem distinct_advance (phase : Phase calls task) (distinct : world.counters.Distinct) :
    (task.advance world).2.counters.Distinct := by
  cases phase with
  | counting allowed => exact Counters.increment_distinct distinct
  | closing allowed made =>
    rw [Task.advance]
    dsimp only
    rw [Request.perform]
    split
    · exact Counters.expire_distinct distinct
    · exact distinct
  | dropping allowed made former => exact Counters.delete_distinct distinct
  | deleting allowed => exact Counters.delete_distinct distinct
  | through allowed made result => exact distinct

/-- When it reads so much, the clock reaches every deadline that one of the calls may ask for. -/
def Reaches (reading : Nat) (calls : Counting → Prop) : Prop :=
  ∀ key window, calls (.count key window) → Counters.isReachable reading window = true

theorem Reaches.earlier {reading latest : Nat} (reaches : Reaches latest calls)
    (h : reading ≤ latest) : Reaches reading calls :=
  fun key window allowed =>
    Counters.isReachable_of_le (Nat.add_le_add_right h window) (reaches key window allowed)

/-- A counter that is without a deadline after a request is attended by the call that made it, or was
without one before and was not attended by that call. -/
theorem attends_or_lacks (phase : Phase calls task) (reaches : Reaches world.reading calls)
    (distinct : world.counters.Distinct) (lacks : (task.advance world).2.counters.Lacks key) :
    (task.advance world).1.Attends key ∨ world.counters.Lacks key ∧ ¬ task.Attends key := by
  cases phase with
  | @counting own window allowed =>
    let counting : Task Result :=
      ⟨.count own window, [], .ask (.increment own) (afterIncrement own window)⟩
    have idle : ¬ counting.Attends key := Task.not_attends_of_increment rfl
    by_cases same : own = key
    · subst same
      rcases Counters.lacks_increment_self distinct lacks with first | before
      · have closes : afterIncrement own window
            (.ok (world.counters.increment world.clock own).1) =
              .ask (.expire own window) (afterExpire own) := if_pos first
        let counted : Task Result := ⟨.count own window, [.increment own],
          afterIncrement own window (.ok (world.counters.increment world.clock own).1)⟩
        have asks : counted.next? = some (.expire own window) := by
          dsimp only [counted]
          rw [closes]
          rfl
        exact .inl ((Task.attends_iff_of_expire asks).mpr rfl)
      · exact .inr ⟨before, idle⟩
    · exact .inr ⟨Counters.lacks_increment_of_ne distinct same lacks, idle⟩
  | @closing own window allowed made =>
    rw [Task.advance] at lacks
    dsimp only at lacks
    rw [Request.perform, if_pos (by rw [reaches own window allowed, Bool.or_true])] at lacks
    obtain ⟨apart, before⟩ := Counters.lacks_expire lacks
    exact .inr ⟨before, fun attends => apart ((Task.attends_iff_of_expire rfl).mp attends)⟩
  | dropping allowed made former =>
    obtain ⟨apart, before⟩ := Counters.lacks_delete distinct lacks
    exact .inr ⟨before, fun attends => apart ((Task.attends_iff_of_delete rfl).mp attends)⟩
  | deleting allowed =>
    obtain ⟨apart, before⟩ := Counters.lacks_delete distinct lacks
    exact .inr ⟨before, fun attends => apart ((Task.attends_iff_of_delete rfl).mp attends)⟩
  | through allowed made result => exact .inr ⟨lacks, Task.not_attends_of_ended rfl⟩

/-- A call whose deadline was refused is to delete the counter next. -/
theorem Phase.attends_refused (phase : Phase calls task) (attends : task.Attends key)
    (error : Error) : (task.refused error).Attends key := by
  cases phase with
  | counting allowed => exact absurd attends (Task.not_attends_of_increment rfl)
  | closing allowed made =>
    have same := (Task.attends_iff_of_expire rfl).mp attends
    exact (Task.attends_iff_of_delete rfl).mpr same
  | dropping allowed made former => exact attends
  | deleting allowed => exact attends
  | through allowed made result => exact absurd attends (Task.not_attends_of_ended rfl)

variable {stage : Stage Result} {happening : Happening Counting}
  {schedule : List (Happening Counting)}

/-- Every call that is begun is one of these. -/
def Begins (calls : Counting → Prop) (schedule : List (Happening Counting)) : Prop :=
  ∀ call, .moved (.start call) ∈ schedule → calls call

def Phases (calls : Counting → Prop) (stage : Stage Result) : Prop :=
  ∀ (i : Nat) task, stage.tasks[i]? = some task → Phase calls task

theorem phases_happen (phases : Phases calls stage)
    (allowed : ∀ call, happening = .moved (.start call) → calls call) :
    Phases calls (stage.happen action happening) := by
  match happening with
  | .moved next =>
    exact Stage.forall_move (fun call same => phase_begin (allowed call (congrArg _ same)))
      (fun task phase => phase.advance stage.world) phases
  | .refused i error =>
    rw [Stage.happen]
    cases acting : stage.tasks[i]? with
    | none => exact phases
    | some task =>
      exact Stage.forall_set ((phases i task acting).refused error) fun j other _ => phases j other

/-- Each counter without a deadline is one that a call is about to close or to delete. -/
structure Attended (stage : Stage Result) : Prop where
  distinct : stage.world.counters.Distinct
  attended : ∀ key, stage.world.counters.Lacks key →
    ∃ (i : Nat) (task : Task Result), stage.tasks[i]? = some task ∧ task.Attends key

/-- What some task does is done by some task still, if the one that was exchanged goes on with it. -/
theorem exists_set {p : Task Result → Prop} {tasks : List (Task Result)} {i : Nat}
    {former later : Task Result} (acting : tasks[i]? = some former) (kept : p former → p later)
    (some_task : ∃ (j : Nat) (task : Task Result), tasks[j]? = some task ∧ p task) :
    ∃ (j : Nat) (task : Task Result), (tasks.set i later)[j]? = some task ∧ p task := by
  obtain ⟨j, task, listed, holds⟩ := some_task
  by_cases same : i = j
  · subst same
    obtain rfl := Option.some.inj (acting.symm.trans listed)
    exact ⟨i, later, List.getElem?_set_self (List.getElem?_eq_some_iff.mp acting).1, kept holds⟩
  · exact ⟨j, task, (List.getElem?_set_ne same).trans listed, holds⟩

theorem attended_happen (phases : Phases calls stage)
    (reaches : Reaches stage.world.reading calls) (before : Attended stage) :
    Attended (stage.happen action happening) := by
  match happening with
  | .moved (.start call) =>
    refine ⟨before.distinct, fun key lacks => ?_⟩
    obtain ⟨i, task, listed, attends⟩ := before.attended key lacks
    have within := (List.getElem?_eq_some_iff.mp listed).1
    exact ⟨i, task, (List.getElem?_append_left within).trans listed, attends⟩
  | .moved (.wait ms) => exact ⟨before.distinct, before.attended⟩
  | .moved (.turn i) =>
    rw [Stage.happen]
    cases acting : stage.tasks[i]? with
    | none =>
      rw [Stage.move, acting]
      exact before
    | some task =>
      have phase := phases i task acting
      rw [Stage.move_turn action stage acting]
      refine ⟨distinct_advance phase before.distinct, fun key lacks => ?_⟩
      rcases attends_or_lacks phase reaches before.distinct lacks with attends | ⟨lacked, idle⟩
      · have within := (List.getElem?_eq_some_iff.mp acting).1
        exact ⟨i, _, List.getElem?_set_self within, attends⟩
      · exact exists_set acting (fun attends => absurd attends idle) (before.attended key lacked)
  | .refused i error =>
    rw [Stage.happen]
    cases acting : stage.tasks[i]? with
    | none => exact before
    | some task =>
      refine ⟨before.distinct, fun key lacks => ?_⟩
      exact exists_set acting (fun attends => (phases i task acting).attends_refused attends error)
        (before.attended key lacks)

theorem phases_pass (begins : Begins calls schedule) (phases : Phases calls stage) :
    Phases calls (stage.pass action schedule) :=
  List.foldlRecOn schedule _ phases fun _ phases _ listed =>
    phases_happen phases fun call same => begins call (same ▸ listed)

/-- The clock reads no more while a schedule is under way than it does in the end. -/
theorem attended_pass (begins : Begins calls schedule)
    (reaches : Reaches (stage.pass action schedule).world.reading calls)
    (phases : Phases calls stage) (before : Attended stage) :
    Attended (stage.pass action schedule) := by
  induction schedule generalizing stage with
  | nil => exact before
  | cons happening rest ih =>
    have now : Reaches stage.world.reading calls :=
      reaches.earlier (stage.reading_pass action (happening :: rest))
    refine ih (fun call listed => begins call (List.mem_cons_of_mem _ listed)) reaches ?_ ?_
    · exact phases_happen phases fun call same => begins call (same ▸ List.mem_cons_self)
    · exact attended_happen phases now before

/-- The stage that calls lead to, from a world in which none is under way. -/
abbrev counted (world : World) (schedule : List (Happening Counting)) : Stage Result :=
  Stage.pass action ⟨world, []⟩ schedule

theorem phases_nobody (world : World) : Phases calls (⟨world, []⟩ : Stage Result) :=
  fun (i : Nat) task (listed : [][i]? = some task) => by simp at listed

/-- A task goes on at its own turns only, if no request of it can be refused. -/
theorem getElem?_happen {i : Nat} (listed : stage.tasks[i]? = some task)
    (other : happening ≠ .moved (.turn i)) (firm : ∀ error, task.refused error = task) :
    (stage.happen action happening).tasks[i]? = some task := by
  match happening with
  | .moved next =>
    exact Stage.getElem?_move action stage (fun same => other (congrArg _ same)) listed
  | .refused j error =>
    rw [Stage.happen]
    cases acting : stage.tasks[j]? with
    | none => exact listed
    | some turned =>
      by_cases same : j = i
      · subst same
        obtain rfl := Option.some.inj (acting.symm.trans listed)
        dsimp only
        rw [firm]
        exact List.getElem?_set_self (List.getElem?_eq_some_iff.mp listed).1
      · exact (List.getElem?_set_ne same).trans listed

variable {i : Nat} {window : Nat} {made : List Request}

/-- A call that has ended stays as it is. -/
theorem getElem?_pass_of_done {result : Except Failure Int}
    (listed : stage.tasks[i]? = some ⟨.count key window, made, .done result⟩) :
    (stage.pass action schedule).tasks[i]? = some ⟨.count key window, made, .done result⟩ := by
  induction schedule generalizing stage with
  | nil => exact listed
  | cons happening rest ih =>
    refine ih ?_
    by_cases own : happening = .moved (.turn i)
    · rw [own, Stage.happen, Stage.move_turn action stage listed]
      exact List.getElem?_set_self (List.getElem?_eq_some_iff.mp listed).1
    · exact getElem?_happen listed own fun _ => rfl

/-- A call whose deadline was refused deletes the counter at its next turn and returns the error. -/
theorem getElem?_pass_of_dropping
    (listed : stage.tasks[i]? = some ⟨.count key window, made,
      .ask (.deleteCounter key) fun _ => .done (.error (.refused error))⟩) :
    ∃ later left, (stage.pass action schedule).tasks[i]? = some ⟨.count key window, later, left⟩ ∧
      (.moved (.turn i) ∈ schedule → left = .done (.error (.refused error))) ∧
      ∀ result, left = .done result → result = .error (.refused error) := by
  induction schedule generalizing stage with
  | nil => exact ⟨_, _, listed, fun turned => absurd turned List.not_mem_nil, nofun⟩
  | cons happening rest ih =>
    by_cases own : happening = .moved (.turn i)
    · have ended : (stage.happen action happening).tasks[i]? = some ⟨.count key window,
          made ++ [.deleteCounter key], .done (.error (.refused error))⟩ := by
        rw [own, Stage.happen, Stage.move_turn action stage listed]
        exact List.getElem?_set_self (List.getElem?_eq_some_iff.mp listed).1
      have still : ((stage.happen action happening).pass action rest).tasks[i]? = some _ :=
        getElem?_pass_of_done ended
      exact ⟨_, _, still, fun _ => rfl, fun result same => (Course.done.inj same).symm⟩
    · obtain ⟨later, left, now, turned, ended⟩ := ih (getElem?_happen listed own fun _ => rfl)
      refine ⟨later, left, now, fun listed => turned ?_, ended⟩
      exact (List.mem_cons.mp listed).resolve_left (Ne.symm own)

/-- A call of this number that is about to set a deadline when that is refused goes on as follows:
it returns this error at its next turn, and nothing else ever. -/
theorem returns_refusal {world : World} {before after : List (Happening Counting)}
    (listed : (counted world before).tasks[i]? = some task)
    (asks : task.next? = some (.expire key window)) (error : Error) :
    ∃ final : Task Result,
      (counted world (before ++ .refused i error :: after)).tasks[i]? = some final ∧
      final.call = task.call ∧
      (.moved (.turn i) ∈ after → final.left = .done (.error (.refused error))) ∧
      ∀ result, final.left = .done result → result = .error (.refused error) := by
  have phases : Phases (fun _ => True) (counted world before) :=
    phases_pass (fun _ _ => trivial) (phases_nobody world)
  have step : counted world (before ++ .refused i error :: after) =
      ((counted world before).happen action (.refused i error)).pass action after :=
    List.foldl_append
  have refused : ((counted world before).happen action (.refused i error)).tasks[i]? =
      some (task.refused error) := by
    rw [Stage.happen, listed]
    exact List.getElem?_set_self (List.getElem?_eq_some_iff.mp listed).1
  rw [step]
  cases phases i task listed with
  | closing allowed made =>
    obtain ⟨later, left, now, turned, ended⟩ := getElem?_pass_of_dropping refused
    exact ⟨_, now, rfl, turned, ended⟩
  | counting | dropping | deleting | through => cases asks

/-- A call that asks for a window without an end breaks off, and leaves a counter behind that has no
deadline. -/
theorem breaks_off {latest window : Nat} (key : String)
    (unreachable : ¬ Counters.isReachable latest window = true) :
    let stage := counted { uptime := latest }
      [.moved (.start (.count key window)), .moved (.turn 0), .moved (.turn 0)]
    stage.world.reading = latest ∧ stage.Quiet ∧ ¬ stage.world.counters.Bounded := by
  let world : World := { uptime := latest, counters := (({} : Counters).increment 0 key).2 }
  have begun : Task.begin action (.count key window) =
      ⟨.count key window, [], .ask (.increment key) (afterIncrement key window)⟩ := by
    rw [Task.begin, action, run_countInWindow]
  have inMemory : (world.counters.find? key).isNone = false := by
    rw [Counters.find?_increment]
    rfl
  have asked : (Request.expire key window).perform world = (.ok false, world) := by
    rw [Request.perform, if_neg (by rw [inMemory, Bool.false_or]; exact unreachable)]
  have ended : counted { uptime := latest } [.moved (.start (.count key window)),
      .moved (.turn 0), .moved (.turn 0)] = ⟨world, [⟨.count key window,
        [.increment key, .expire key window], .done (.error .aborted)⟩]⟩ := by
    change Stage.pass action ⟨{ uptime := latest }, [Task.begin action (.count key window)]⟩ _ = _
    rw [begun]
    change Stage.pass action ⟨world, [⟨.count key window, [.increment key],
      .ask (.expire key window) (afterExpire key)⟩]⟩ [.moved (.turn 0)] = _
    change (⟨((Request.expire key window).perform world).2, [⟨.count key window,
      [.increment key, .expire key window],
      afterExpire key ((Request.expire key window).perform world).1⟩]⟩ : Stage Result) = _
    rw [asked]
    rfl
  dsimp only
  rw [ended]
  refine ⟨rfl, ?_, ?_⟩
  · intro task listed
    rw [List.mem_singleton.mp listed]
    rfl
  · intro bounded
    exact bounded ⟨key, 1, none⟩ List.mem_cons_self rfl

/-- As long as the clock reads so much at most, calls that count and delete keep the deadline of
every counter that is there when none of them is under way, whatever counts and deadlines are
refused, if and only if the clock then reaches all deadlines that they may ask for. A call whose
deadline was refused returns the error in any case. -/
theorem keeps_deadlines_iff (calls : Counting → Prop) (latest : Nat) :
    ((∀ (world : World) (schedule : List (Happening Counting)), world.counters.Distinct →
        world.counters.Bounded → Begins calls schedule →
        (counted world schedule).world.reading ≤ latest → (counted world schedule).Quiet →
        (counted world schedule).world.counters.Bounded) ↔ Reaches latest calls) ∧
    ∀ (world : World) (before : List (Happening Counting)) (i : Nat) (error : Error)
      (after : List (Happening Counting)) (task : Task Result) (key : String) (window : Nat),
      (counted world before).tasks[i]? = some task → task.next? = some (.expire key window) →
      ∃ final : Task Result,
        (counted world (before ++ .refused i error :: after)).tasks[i]? = some final ∧
        final.call = task.call ∧
        (.moved (.turn i) ∈ after → final.left = .done (.error (.refused error))) ∧
        ∀ result, final.left = .done result → result = .error (.refused error) := by
  refine ⟨⟨fun keeps key window allowed => ?_, ?_⟩, ?_⟩
  · by_contra unreachable
    obtain ⟨reading, quiet, lost⟩ := breaks_off key unreachable
    refine lost (keeps _ _ List.nodup_nil nofun ?_ (Nat.le_of_eq reading) quiet)
    intro call listed
    obtain rfl : call = .count key window := by simpa using listed
    exact allowed
  · intro reaches world schedule distinct bounded begins timely quiet
    have start : Attended (⟨world, []⟩ : Stage Result) :=
      ⟨distinct, fun key lacks => absurd lacks ((Counters.bounded_iff distinct).mp bounded key)⟩
    have after := attended_pass begins (reaches.earlier timely) (phases_nobody world) start
    rw [Counters.bounded_iff after.distinct]
    intro key lacks
    obtain ⟨i, task, listed, attends⟩ := after.attended key lacks
    have ended := Option.isNone_iff_eq_none.mp (quiet task (List.mem_of_getElem? listed))
    exact Task.not_attends_of_ended ended attends
  · intro world before i error after task key window listed asks
    exact returns_refusal listed asks error

/-- A window that ends later than the clock reaches leaves a counter without a deadline. -/
theorem unbounded_of_endless_window :
    let stage := counted {} [.moved (.start (.count "k" 18446744073709551615000)),
      .moved (.turn 0), .moved (.turn 0)]
    stage.Quiet ∧ ¬ stage.world.counters.Bounded := by
  decide

end Counting

end Parley
