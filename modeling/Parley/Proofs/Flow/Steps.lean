import Parley.Flow.Basic
import Parley.Proofs.Store.Counters

/-!
# Actions step by step

`Action.perform` carries out an action in a world that nobody else changes. It goes through the
requests of the action one after the other, so what an action does follows from what its parts do.
-/

namespace Parley

/-- The clock moves only when a pause lets it. -/
theorem Request.clock_perform (request : Request) (prompt : ∀ ms, request ≠ .pause (ms + 1))
    (world : World) : (request.perform world).2.clock = world.clock := by
  cases request with
  | pause ms =>
    cases ms with
    | zero => rfl
    | succ ms => exact absurd rfl (prompt ms)
  | setGuildLevel guild level experience =>
    simp only [Request.perform]
    split <;> rfl
  | expire key ttl =>
    simp only [Request.perform]
    split <;> rfl
  | _ => rfl

/-- The monotonic clock stays ahead of the clock by as much as it is. -/
theorem Request.uptime_perform (request : Request) (world : World) :
    (request.perform world).2.uptime = world.uptime := by
  cases request with
  | setGuildLevel guild level experience =>
    simp only [Request.perform]
    split <;> rfl
  | expire key ttl =>
    simp only [Request.perform]
    split <;> rfl
  | _ => rfl

/-- The monotonic clock never goes back. -/
theorem Request.reading_perform (request : Request) (world : World) :
    world.reading ≤ (request.perform world).2.reading := by
  rw [World.reading, World.reading, request.uptime_perform]
  refine Nat.add_le_add_left ?_ world.uptime
  by_cases prompt : ∀ ms, request ≠ .pause (ms + 1)
  · exact Nat.le_of_eq (request.clock_perform prompt world).symm
  · obtain ⟨ms, rfl⟩ : ∃ ms, request = .pause (ms + 1) := by simpa using prompt
    exact Nat.le_add_right _ _

namespace Course

variable {Query σ α β : Type} {Answer : Query → Type}

theorem run_bind (perform : σ → (q : Query) → Answer q × σ) (course : Course Answer α)
    (next : α → Course Answer β) (state : σ) :
    run perform (course.bind next) state =
      run perform (next (run perform course state).1) (run perform course state).2 := by
  induction course generalizing state with
  | done value => rfl
  | ask q rest ih => exact ih _ _

end Course

namespace Action

variable {α β : Type}

/-- The result of an action and the world after it. -/
def perform (action : Action α) (world : World) : Except Failure α × World :=
  Flow.run action.run world

variable (action : Action α) (next : α → Action β) (world : World)

theorem perform_bind : (action >>= next).perform world =
    match (action.perform world).1 with
    | .ok a => (next a).perform (action.perform world).2
    | .error e => (.error e, (action.perform world).2) := by
  refine (Course.run_bind Request.perform action.run (ExceptT.bindCont next) world).trans ?_
  change Course.run Request.perform (ExceptT.bindCont next (action.perform world).1) _ = _
  cases (action.perform world).1 <;> rfl

@[simp] theorem perform_pure (a : α) : (pure a : Action α).perform world = (.ok a, world) := rfl

@[simp] theorem perform_ask (r : Request) :
    (ask r).perform world = (.ok (r.perform world).1, (r.perform world).2) := rfl

@[simp] theorem perform_now : now.perform world = (.ok world.now, world) := rfl

@[simp] theorem perform_freshId : freshId.perform world =
    (.ok (world.supply (world.issued + 1)), { world with issued := world.issued + 1 }) := rfl

theorem perform_ofOption (value? : Option α) :
    (ofOption value?).perform world = (value?.elim (.error .aborted) .ok, world) := by
  cases value? <;> rfl

theorem map_eq_bind (f : α → β) : f <$> action = action >>= fun a => pure (f a) := by
  refine congrArg (Course.bind action.run) (funext fun result => ?_)
  cases result <;> rfl

theorem perform_map (f : α → β) :
    (f <$> action).perform world =
      ((action.perform world).1.map f, (action.perform world).2) := by
  rw [map_eq_bind, perform_bind]
  cases (action.perform world).1 <;> rfl

/-- A handler is not reached by an action that is not refused. -/
theorem perform_onError (handler : Error → Action α)
    (h : ∀ e, (action.perform world).1 ≠ .error (.refused e)) :
    (action.onError handler).perform world = action.perform world := by
  refine (Course.run_bind Request.perform action.run _ world).trans ?_
  change Course.run Request.perform _ (action.perform world).2 = action.perform world
  cases result : (action.perform world).1 with
  | ok a =>
    rw [show (Course.run Request.perform action.run world).1 = .ok a from result]
    exact Prod.ext result.symm rfl
  | error failure =>
    rw [show (Course.run Request.perform action.run world).1 = .error failure from result]
    cases failure with
    | refused e => exact absurd result (h e)
    | aborted => exact Prod.ext result.symm rfl

theorem perform_setGuildLevel (guild : Uuid) (level experience : Int) (world : World) :
    (setGuildLevel guild level experience).perform world =
      match world.store.setGuildLevel guild level experience world.now with
      | some store => (.ok (), { world with store })
      | none => (.error (.refused (Guild.missing guild)), world) := by
  rw [setGuildLevel, perform_bind, perform_ask, Request.perform]
  cases world.store.setGuildLevel guild level experience world.now <;> rfl

theorem perform_expire (key : String) (ttl : Nat) (world : World) :
    (Action.expire key ttl).perform world =
      if (world.counters.find? key).isNone || Counters.isReachable world.reading ttl then
        (.ok (), { world with counters := world.counters.expire world.clock key ttl })
      else (.error .aborted, world) := by
  rw [expire, perform_bind, perform_ask, Request.perform]
  by_cases h : (world.counters.find? key).isNone || Counters.isReachable world.reading ttl
  · rw [if_pos h, if_pos h]
    rfl
  · rw [if_neg h, if_neg h]
    rfl

theorem perform_readCounter (key : String) (world : World) :
    (Action.readCounter key).perform world =
      (.ok (world.counters.read world.clock key).1,
        { world with counters := (world.counters.read world.clock key).2 }) :=
  rfl

/-- The first count of a window sets its end, if the clock can reach that. -/
theorem perform_countInWindow (key : String) (ttl : Nat) (world : World) :
    (Action.countInWindow key ttl).perform world =
      if (world.counters.increment world.clock key).1 = 1 then
        if Counters.isReachable world.reading ttl then
          (.ok 1, { world with
            counters := (world.counters.increment world.clock key).2.expire world.clock key ttl })
        else (.error .aborted,
          { world with counters := (world.counters.increment world.clock key).2 })
      else (.ok (world.counters.increment world.clock key).1,
        { world with counters := (world.counters.increment world.clock key).2 }) := by
  have counted : (Action.increment key).perform world =
      (.ok (world.counters.increment world.clock key).1,
        { world with counters := (world.counters.increment world.clock key).2 }) := rfl
  have inMemory : ((world.counters.increment world.clock key).2.find? key).isNone = false := by
    rw [Counters.find?_increment]
    rfl
  rw [countInWindow, perform_bind, counted]
  by_cases first : (world.counters.increment world.clock key).1 = 1
  · have reading : World.reading { world with
        counters := (world.counters.increment world.clock key).2 } = world.reading := rfl
    have expired := perform_expire key ttl
      { world with counters := (world.counters.increment world.clock key).2 }
    rw [inMemory, Bool.false_or, reading] at expired
    simp only [if_pos first]
    rw [perform_bind, perform_onError]
    · rw [expired]
      by_cases reachable : Counters.isReachable world.reading ttl
      · rw [if_pos reachable, if_pos reachable, perform_pure, first]
      · rw [if_neg reachable, if_neg reachable]
    · intro e
      rw [expired]
      split <;> simp
  · simp only [if_neg first]
    rfl

end Action

end Parley
