import Parley.Proofs.Flow.Interleaving

/-!
# What requests add up to

The world after an action is what its requests have made of it, one after the other. So a metric
grows by the requests that count it, and the bus by the messages that are published.
-/

namespace Parley

theorem Tally.count_add (tally : Tally) (metric other : Metric) :
    (tally.add metric).count other = tally.count other + if metric = other then 1 else 0 := by
  induction tally with
  | nil => simp [add, count]
  | cons row rest ih =>
    obtain ⟨found, n⟩ := row
    rw [add]
    by_cases here : found = metric
    · subst here
      rw [if_pos rfl, count, count]
      by_cases same : found = other
      · simp only [if_pos same]
      · simp only [if_neg same, Nat.add_zero]
    · rw [if_neg here, count, count, ih]
      by_cases same : found = other
      · have apart : metric ≠ other := fun also => here (same.trans also.symm)
        simp only [if_pos same, if_neg apart, Nat.add_zero]
      · simp only [if_neg same]

/-- A request that is not one of the counter's leaves it as it is. -/
theorem Request.count_perform {request : Request} {metric : Metric}
    (other : request ≠ .tally metric) (world : World) :
    (request.perform world).2.metrics.count metric = world.metrics.count metric := by
  cases request with
  | tally counted =>
    have apart : counted ≠ metric := fun same => other (congrArg Request.tally same)
    exact (Tally.count_add _ _ _).trans (by rw [if_neg apart, Nat.add_zero])
  | setGuildLevel guild level experience =>
    simp only [perform]
    split <;> rfl
  | expire key ttl =>
    simp only [perform]
    split <;> rfl
  | _ => rfl

/-- A request publishes its message or leaves the bus as it is. -/
theorem Request.bus_perform (request : Request) (world : World) :
    (request.perform world).2.bus =
      (request.message?).elim world.bus fun message => world.bus.publish message := by
  cases request with
  | setGuildLevel guild level experience =>
    simp only [perform]
    split <;> rfl
  | expire key ttl =>
    simp only [perform]
    split <;> rfl
  | _ => rfl

/-- The request counts the metric. -/
def Request.tallies (metric : Metric) : Request → Bool
  | tally counted => counted = metric
  | _ => false

/-- The state after a course is what its queries make of the state before. -/
theorem Course.run_eq_foldl {Query σ α : Type} {Answer : Query → Type}
    (perform : σ → (q : Query) → Answer q × σ) (course : Course Answer α) (state : σ) :
    (run perform course state).2 =
      (asked perform course state).foldl (fun state q => (perform state q).2) state := by
  induction course generalizing state with
  | done value => rfl
  | ask q rest ih => exact ih _ _

namespace Action

variable {α : Type} (action : Action α) (world : World)

theorem count_perform (metric : Metric) :
    (action.perform world).2.metrics.count metric =
      world.metrics.count metric + (action.asked world).countP (·.tallies metric) := by
  rw [show (action.perform world).2 = _ from Course.run_eq_foldl Request.perform action.run world,
    asked]
  generalize Course.asked Request.perform action.run world = made
  induction made generalizing world with
  | nil => rfl
  | cons request made ih =>
    rw [List.foldl_cons, ih, List.countP_cons]
    by_cases counts : request = .tally metric
    · subst counts
      have added : ((Request.tally metric).perform world).2.metrics.count metric =
          world.metrics.count metric + 1 := (Tally.count_add _ _ _).trans (by rw [if_pos rfl])
      rw [added, if_pos (by simp [Request.tallies])]
      omega
    · have silent : request.tallies metric = false := by
        cases request with
        | tally counted =>
          exact decide_eq_false fun same => counts (congrArg Request.tally same)
        | _ => rfl
      rw [Request.count_perform counts, silent, if_neg Bool.false_ne_true, Nat.add_zero]

theorem messages_perform :
    (action.perform world).2.bus.messages.toList =
      world.bus.messages.toList ++ messages (action.asked world) := by
  rw [show (action.perform world).2 = _ from Course.run_eq_foldl Request.perform action.run world,
    asked]
  generalize Course.asked Request.perform action.run world = made
  induction made generalizing world with
  | nil => exact (List.append_nil _).symm
  | cons request made ih =>
    rw [List.foldl_cons, ih, Request.bus_perform]
    cases found : request.message? with
    | none =>
      rw [messages, messages, List.filterMap_cons_none found]
      rfl
    | some message =>
      rw [messages, messages, List.filterMap_cons_some found, Option.elim_some, Bus.publish,
        Array.toList_push, List.append_assoc, List.singleton_append]

end Action

end Parley
