import Parley.Proofs.Flow.Trace

/-!
# Calls that take turns

On a stage any number of calls are under way in one world. A schedule says which of them makes its
next request, when a new call is begun and when time passes; a call that gets no further turn is one
that was given up. Whatever holds of a stage and is kept by each move holds after every schedule.
-/

namespace Parley

/-- The message that a request publishes. -/
def Request.message? : Request → Option Message
  | publish message => some message
  | _ => none

/-- The messages that requests publish. -/
def messages (made : List Request) : List Message := made.filterMap Request.message?

theorem messages_concat (made : List Request) (request : Request) :
    messages (made ++ [request]) = messages made ++ request.message?.toList := by
  rw [messages, List.filterMap_append]
  refine congrArg (messages made ++ ·) ?_
  cases found : request.message? with
  | none => exact List.filterMap_cons_none found
  | some message => exact List.filterMap_cons_some found

/-- A call that was begun: the requests that it has made, and what is left of it. -/
structure Task {Call : Type} (Result : Call → Type) where
  call : Call
  made : List Request
  left : Flow (Except Failure (Result call))

/-- The calls that were begun, in the order in which they were, and the world that they share. -/
structure Stage {Call : Type} (Result : Call → Type) where
  world : World
  tasks : List (Task Result)

/-- A step of a schedule. -/
inductive Move (Call : Type) where
  | start (call : Call)
  | turn (index : Nat)
  | wait (ms : Nat)
  deriving DecidableEq

variable {Call : Type} {Result : Call → Type}

namespace Task

/-- A call that has made no request yet. -/
def begin (action : (call : Call) → Action (Result call)) (call : Call) : Task Result :=
  ⟨call, [], (action call).run⟩

/-- What has become of a task after its next request, if it makes one. -/
def advance (task : Task Result) (world : World) : Task Result × World :=
  match task.left with
  | .done _ => (task, world)
  | .ask request next =>
    let (answer, world) := request.perform world
    ({ task with made := task.made ++ [request], left := next answer }, world)

/-- The task after a request that was answered. -/
def answered (task : Task Result) (request : Request)
    (left : Flow (Except Failure (Result task.call))) : Task Result :=
  { task with made := task.made ++ [request], left }

end Task

namespace Stage

variable (action : (call : Call) → Action (Result call)) (stage : Stage Result)

def move : Move Call → Stage Result
  | .start call => { stage with tasks := stage.tasks ++ [Task.begin action call] }
  | .turn index =>
    match stage.tasks[index]? with
    | none => stage
    | some task =>
      let (task, world) := task.advance stage.world
      { world, tasks := stage.tasks.set index task }
  | .wait ms => { stage with world := { stage.world with clock := stage.world.clock + ms } }

/-- The stage that a schedule leads to. -/
def run (moves : List (Move Call)) : Stage Result := moves.foldl (move action) stage

theorem run_append (moves rest : List (Move Call)) :
    run action stage (moves ++ rest) = run action (run action stage moves) rest :=
  List.foldl_append

theorem run_concat (moves : List (Move Call)) (next : Move Call) :
    run action stage (moves ++ [next]) = (run action stage moves).move action next :=
  run_append action stage moves [next]

theorem move_turn {index : Nat} {task : Task Result} (acting : stage.tasks[index]? = some task) :
    stage.move action (.turn index) =
      ⟨(task.advance stage.world).2, stage.tasks.set index (task.advance stage.world).1⟩ := by
  rw [move, acting]

/-- A call goes on at its own turns only. -/
theorem getElem?_move {next : Move Call} {index : Nat} {task : Task Result}
    (other : next ≠ .turn index) (listed : stage.tasks[index]? = some task) :
    (stage.move action next).tasks[index]? = some task := by
  cases next with
  | start call => exact List.getElem?_append_left (List.getElem?_eq_some_iff.mp listed).1 ▸ listed
  | wait ms => exact listed
  | turn acting =>
    rw [move]
    cases stage.tasks[acting]? with
    | none => exact listed
    | some turned =>
      have apart : acting ≠ index := fun same => other (congrArg Move.turn same)
      exact (List.getElem?_set_ne apart).trans listed

theorem of_getElem?_move {next : Move Call} {index : Nat} {task : Task Result}
    (other : next ≠ .turn index) (listed : (stage.move action next).tasks[index]? = some task) :
    stage.tasks[index]? = some task ∨ ∃ call, task = Task.begin action call := by
  cases next with
  | wait ms => exact .inl listed
  | start call =>
    rw [move, List.getElem?_append] at listed
    split at listed
    · exact .inl listed
    · exact .inr ⟨call, List.mem_singleton.mp (List.mem_of_getElem? listed)⟩
  | turn acting =>
    rw [move] at listed
    cases turned : stage.tasks[acting]? with
    | none =>
      rw [turned] at listed
      exact .inl listed
    | some other_task =>
      have apart : acting ≠ index := fun same => other (congrArg Move.turn same)
      rw [turned] at listed
      exact .inl ((List.getElem?_set_ne apart).symm.trans listed)

/-- What a move does. -/
inductive Step : Move Call → Stage Result → Prop
  | started (call : Call) :
    Step (.start call) { stage with tasks := stage.tasks ++ [Task.begin action call] }
  | waited (ms : Nat) :
    Step (.wait ms) { stage with world := { stage.world with clock := stage.world.clock + ms } }
  | idle (index : Nat) : Step (.turn index) stage
  | asked {index : Nat} {task : Task Result} (request : Request)
      (next : request.Answer → Flow (Except Failure (Result task.call)))
      (acting : stage.tasks[index]? = some task) (asks : task.left = .ask request next) :
    Step (.turn index) {
      world := (request.perform stage.world).2
      tasks := stage.tasks.set index
        (task.answered request (next (request.perform stage.world).1)) }

theorem step_move (next : Move Call) : Step action stage next (stage.move action next) := by
  cases next with
  | start call => exact .started call
  | wait ms => exact .waited ms
  | turn index =>
    rw [move]
    cases acting : stage.tasks[index]? with
    | none => exact .idle index
    | some task =>
      dsimp only
      rw [Task.advance]
      cases asks : task.left with
      | ask request next => exact .asked request next acting asks
      | done value =>
        have unchanged : stage.tasks.set index task = stage.tasks := by
          obtain ⟨within, rfl⟩ := List.getElem?_eq_some_iff.mp acting
          exact List.set_getElem_self within
        dsimp only
        rw [unchanged]
        exact .idle index

variable {action stage}

/-- What is kept by each move while moves are counted down holds after a schedule. -/
theorem run_invariant (holds : Nat → Stage Result → Prop) {allowed : Move Call → Prop}
    (kept : ∀ left stage next after, allowed next → holds (left + 1) stage →
      Step action stage next after → holds left after)
    {moves : List (Move Call)} (left : Nat) (start : holds (left + moves.length) stage)
    (all : ∀ next ∈ moves, allowed next) : holds left (run action stage moves) := by
  induction moves generalizing stage with
  | nil => exact start
  | cons next rest ih =>
    obtain ⟨this, later⟩ := List.forall_mem_cons.mp all
    exact ih (kept _ stage next _ this start (step_move action stage next)) later

/-- The tasks after a request of one of them: that one, and the others as they were. -/
theorem forall_set {p : Nat → Task Result → Prop} {tasks : List (Task Result)} {index : Nat}
    {task : Task Result} (acting : p index task)
    (others : ∀ i other, i ≠ index → tasks[i]? = some other → p i other) :
    ∀ i other, (tasks.set index task)[i]? = some other → p i other := by
  intro i other listed
  rw [List.getElem?_set] at listed
  split at listed
  · next same =>
    subst same
    split at listed
    · exact Option.some.inj listed ▸ acting
    · exact absurd listed (by simp)
  · next apart => exact others i other (Ne.symm apart) listed

theorem forall_begun {p : Nat → Task Result → Prop} {tasks : List (Task Result)}
    {task : Task Result} (begun : p tasks.length task)
    (others : ∀ i other, tasks[i]? = some other → p i other) :
    ∀ i other, (tasks ++ [task])[i]? = some other → p i other := by
  intro i other listed
  rw [List.getElem?_append] at listed
  split at listed
  · exact others i other listed
  · next beyond =>
    obtain ⟨within, same⟩ := List.getElem?_eq_some_iff.mp listed
    rw [List.length_singleton] at within
    obtain rfl : i = tasks.length := by omega
    simp only [List.getElem_singleton] at same
    exact same ▸ begun

/-- What holds of each call when it begins and is kept by its requests holds of all after a move. -/
theorem forall_move {p : Task Result → Prop} {next : Move Call}
    (begun : ∀ call, next = .start call → p (Task.begin action call))
    (kept : ∀ task, p task → p (task.advance stage.world).1)
    (all : ∀ (i : Nat) task, stage.tasks[i]? = some task → p task) :
    ∀ (i : Nat) task, (stage.move action next).tasks[i]? = some task → p task := by
  cases next with
  | start call => exact forall_begun (begun call rfl) all
  | wait ms => exact all
  | turn index =>
    cases acting : stage.tasks[index]? with
    | none =>
      rw [move, acting]
      exact all
    | some task =>
      rw [move_turn action stage acting]
      exact forall_set (kept task (all index task acting)) fun i other _ => all i other

theorem forall_run {p : Task Result → Prop} (begun : ∀ call, p (Task.begin action call))
    (kept : ∀ task world, p task → p (task.advance world).1) (world : World)
    (moves : List (Move Call)) :
    ∀ (i : Nat) task, (run action ⟨world, []⟩ moves).tasks[i]? = some task → p task := by
  have nothing : ∀ (i : Nat) task, ([] : List (Task Result))[i]? = some task → p task :=
    fun i task listed => by simp at listed
  exact List.foldlRecOn (motive := fun stage : Stage Result =>
    ∀ (i : Nat) task, stage.tasks[i]? = some task → p task) moves _ nothing fun stage all next _ =>
      forall_move (fun call _ => begun call) (fun task => kept task stage.world) all

/-- All requests of each call, those that it has made and those that are left, are of the kinds that
belong to the call. -/
def Within (p : Call → Request → Prop) (stage : Stage Result) : Prop :=
  ∀ (i : Nat) (task : Task Result), stage.tasks[i]? = some task →
    Course.Asks (p task.call) task.left ∧ ∀ request ∈ task.made, p task.call request

end Stage

end Parley
