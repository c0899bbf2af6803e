import Parley.Moderation.Rules
import Parley.Proofs.Flow.Steps

/-!
# Requests that are made

`asked` lists the requests that an action makes in a world that nobody else changes, and `Asks` says
of what kind all requests of an action are, whatever it is answered. A relation between worlds that
every request of this kind respects is respected by the whole action: that is how a part of the
world is shown to stay as it is.
-/

namespace Parley

namespace Course

variable {Query σ α β : Type} {Answer : Query → Type} {p : Query → Prop}

/-- The queries of a course in the order in which they are made. -/
def asked (perform : σ → (q : Query) → Answer q × σ) : Course Answer α → σ → List Query
  | done _, _ => []
  | ask q next, state => q :: asked perform (next (perform state q).1) (perform state q).2

theorem asked_bind (perform : σ → (q : Query) → Answer q × σ) (course : Course Answer α)
    (next : α → Course Answer β) (state : σ) :
    asked perform (course.bind next) state = asked perform course state ++
      asked perform (next (run perform course state).1) (run perform course state).2 := by
  induction course generalizing state with
  | done value => rfl
  | ask q rest ih => exact congrArg (List.cons q) (ih _ _)

/-- Whatever the course is answered, all its queries are of one kind. -/
def Asks (p : Query → Prop) : Course Answer α → Prop
  | done _ => True
  | ask q next => p q ∧ ∀ answer, (next answer).Asks p

theorem Asks.bind {course : Course Answer α} {next : α → Course Answer β} (first : course.Asks p)
    (second : ∀ a, (next a).Asks p) : (course.bind next).Asks p := by
  induction course with
  | done value => exact second value
  | ask q rest ih => exact ⟨first.1, fun answer => ih answer (first.2 answer)⟩

theorem Asks.mono {p' : Query → Prop} {course : Course Answer α} (h : course.Asks p)
    (weaker : ∀ q, p q → p' q) : course.Asks p' := by
  induction course with
  | done value => trivial
  | ask q rest ih => exact ⟨weaker q h.1, fun answer => ih answer (h.2 answer)⟩

theorem asks_true (course : Course Answer α) : course.Asks fun _ => True := by
  induction course with
  | done value => trivial
  | ask query rest ih => exact ⟨trivial, ih⟩

theorem Asks.of_mem_asked {course : Course Answer α} (h : course.Asks p)
    (perform : σ → (q : Query) → Answer q × σ) (state : σ) :
    ∀ q ∈ asked perform course state, p q := by
  induction course generalizing state with
  | done value => exact fun q made => absurd made List.not_mem_nil
  | ask q rest ih =>
    intro made listed
    rcases List.mem_cons.mp listed with rfl | listed
    · exact h.1
    · exact ih _ (h.2 _) _ made listed

/-- Whatever the course is answered, it ends with such a value. -/
def Ends (p : α → Prop) : Course Answer α → Prop
  | done value => p value
  | ask _ next => ∀ answer, (next answer).Ends p

theorem Ends.bind {good : α → Prop} {p : β → Prop} {course : Course Answer α}
    {next : α → Course Answer β} (first : course.Ends good)
    (second : ∀ a, good a → (next a).Ends p) : (course.bind next).Ends p := by
  induction course with
  | done value => exact second value first
  | ask q rest ih => exact fun answer => ih answer (first answer)

/-- A relation that each query respects is respected by the course. -/
theorem Asks.run {course : Course Answer α} (h : course.Asks p)
    {perform : σ → (q : Query) → Answer q × σ} {r : σ → σ → Prop} (refl : ∀ state, r state state)
    (trans : ∀ {a b c}, r a b → r b c → r a c)
    (step : ∀ q, p q → ∀ state, r state (perform state q).2) (state : σ) :
    r state (course.run perform state).2 := by
  induction course generalizing state with
  | done value => exact refl state
  | ask q rest ih => exact trans (step q h.1 state) (ih _ (h.2 _) _)

end Course

namespace Action

variable {α β : Type} {p : Request → Prop}

/-- The requests of an action in the order in which they are made. -/
def asked (action : Action α) (world : World) : List Request :=
  Course.asked Request.perform action.run world

/-- Whatever the action is answered, all its requests are of one kind. -/
def Asks (p : Request → Prop) (action : Action α) : Prop := Course.Asks p action.run

section Asked

variable (action : Action α) (next : α → Action β) (world : World)

theorem asked_bind : (action >>= next).asked world = action.asked world ++
    match (action.perform world).1 with
    | .ok a => (next a).asked (action.perform world).2
    | .error _ => [] := by
  refine (Course.asked_bind Request.perform action.run (ExceptT.bindCont next) world).trans ?_
  refine congrArg (action.asked world ++ ·) ?_
  change Course.asked Request.perform (ExceptT.bindCont next (action.perform world).1) _ = _
  cases (action.perform world).1 <;> rfl

theorem asked_map (f : α → β) : (f <$> action).asked world = action.asked world := by
  rw [map_eq_bind, asked_bind]
  cases (action.perform world).1 <;> exact List.append_nil _

theorem perform_onError_of_refused {action : Action α} {world : World} {e : Error}
    (handler : Error → Action α) (refused : (action.perform world).1 = .error (.refused e)) :
    (action.onError handler).perform world = (handler e).perform (action.perform world).2 := by
  refine (Course.run_bind Request.perform action.run _ world).trans ?_
  rw [show (Course.run Request.perform action.run world).1 = .error (.refused e) from refused]
  rfl

/-- A handler that does nothing makes no request. -/
theorem asked_onError {handler : Error → Action α} {value : α}
    (quiet : ∀ e, handler e = pure value) :
    (action.onError handler).asked world = action.asked world := by
  refine (Course.asked_bind Request.perform action.run _ world).trans ?_
  cases result : (action.perform world).1 with
  | ok a =>
    rw [show (Course.run Request.perform action.run world).1 = .ok a from result]
    exact List.append_nil _
  | error failure =>
    rw [show (Course.run Request.perform action.run world).1 = .error failure from result]
    cases failure with
    | refused e =>
      dsimp only
      rw [quiet e]
      exact List.append_nil _
    | aborted => exact List.append_nil _

end Asked

theorem Asks.pure (a : α) : Asks p (Pure.pure a : Action α) := trivial

theorem Asks.fail (error : Error) : Asks p (fail error : Action α) := trivial

theorem Asks.abort : Asks p (abort : Action α) := trivial

theorem Asks.ask {r : Request} (h : p r) : Asks p (ask r) := ⟨h, fun _ => trivial⟩

theorem Asks.bind {action : Action α} {next : α → Action β} (first : action.Asks p)
    (second : ∀ a, (next a).Asks p) : (action >>= next).Asks p := by
  refine Course.Asks.bind (show Course.Asks p action.run from first) fun result => ?_
  cases result with
  | ok a => exact second a
  | error e => trivial

theorem Asks.map {action : Action α} (f : α → β) (h : action.Asks p) : (f <$> action).Asks p := by
  rw [map_eq_bind]
  exact h.bind fun a => Asks.pure (f a)

theorem Asks.ite {yes no : Action α} {c : Prop} [Decidable c] (hyes : yes.Asks p)
    (hno : no.Asks p) : (if c then yes else no).Asks p := by
  split
  · exact hyes
  · exact hno

theorem Asks.onError {action : Action α} {handler : Error → Action α} (h : action.Asks p)
    (handled : ∀ e, (handler e).Asks p) : (action.onError handler).Asks p := by
  refine Course.Asks.bind (show Course.Asks p action.run from h) fun result => ?_
  cases result with
  | ok a => trivial
  | error failure =>
    cases failure with
    | refused e => exact handled e
    | aborted => trivial

theorem Asks.ofAnswer (answer : Except Error α) : Asks p (ofAnswer answer) := by
  cases answer <;> trivial

theorem Asks.ofOption (value? : Option α) : Asks p (ofOption value?) := by
  cases value? <;> trivial

/-- What comes behind a check comes whether the check failed or not, as far as requests go. -/
theorem Asks.guarded {error : Error} {rest : Unit → Action α} {c : Prop} {_ : Decidable c}
    (h : ∀ u, (rest u).Asks p) :
    Asks p (if c then Action.fail error >>= rest else rest ()) :=
  Asks.ite ((Asks.fail error).bind h) (h ())

/-- A request that may be refused is one request all the same. -/
theorem Asks.answered {action : Action (Except Error α)} (h : action.Asks p) :
    (action >>= Action.ofAnswer).Asks p :=
  h.bind Asks.ofAnswer

theorem asks_announce {a : Announcement} (publish : p (.publish ⟨a.topic, a.payload.toBody⟩)) :
    (announce a).Asks p :=
  (Asks.ask publish).answered.onError fun _ => Asks.pure ()

theorem Asks.countInWindow {key : String} {window : Nat} (increment : p (.increment key))
    (expire : p (.expire key window)) (delete : p (.deleteCounter key)) :
    Asks p (countInWindow key window) := by
  have closed : Asks p (Action.expire key window) := by
    refine (Asks.ask expire).answered.bind fun reached => ?_
    exact Asks.ite Asks.abort (Asks.pure ())
  have dropped : Asks p (Action.deleteCounter key) := (Asks.ask delete).answered
  refine (Asks.ask increment).answered.bind fun count => ?_
  have closedOrDropped : Asks p (Action.onError (Action.expire key window) fun e => do
      Action.onError (Action.deleteCounter key) fun _ => Pure.pure ()
      Action.fail e) :=
    closed.onError fun e => (dropped.onError fun _ => Asks.pure ()).bind fun _ => Asks.fail e
  exact Asks.ite (closedOrDropped.bind fun _ => Asks.pure count) (Asks.pure count)

/-- Whatever it is answered, the action is not aborted. -/
def Steady (action : Action α) : Prop := Course.Ends (· ≠ .error .aborted) action.run

theorem Steady.pure (a : α) : Steady (Pure.pure a : Action α) := nofun

theorem Steady.ask (r : Request) : Steady (ask r) := fun _ => nofun

theorem Steady.ofAnswer (answer : Except Error α) : Steady (ofAnswer answer) := by
  cases answer <;> exact nofun

theorem Steady.bind {action : Action α} {next : α → Action β} (first : action.Steady)
    (second : ∀ a, (next a).Steady) : (action >>= next).Steady := by
  refine Course.Ends.bind first fun result sound => ?_
  match result with
  | .ok a => exact second a
  | .error (.refused e) => exact nofun
  | .error .aborted => exact absurd rfl sound

theorem Steady.ite {yes no : Action α} {c : Prop} [Decidable c] (hyes : yes.Steady)
    (hno : no.Steady) : (if c then yes else no).Steady := by
  split
  · exact hyes
  · exact hno

/-- A request that may be refused. -/
theorem Steady.answered {action : Action (Except Error α)} (h : action.Steady) :
    (action >>= Action.ofAnswer).Steady :=
  h.bind Steady.ofAnswer

theorem steady_announce (a : Announcement) : (announce a).Steady := by
  refine Course.Ends.bind (Steady.ask (.publish ⟨a.topic, a.payload.toBody⟩)).answered
    fun result sound => ?_
  match result with
  | .ok _ => exact nofun
  | .error (.refused e) => exact nofun
  | .error .aborted => exact absurd rfl sound

/-- A relation that each request respects is respected by the action. -/
theorem Asks.perform {action : Action α} (h : action.Asks p) {r : World → World → Prop}
    (refl : ∀ world, r world world) (trans : ∀ {a b c}, r a b → r b c → r a c)
    (step : ∀ request, p request → ∀ world, r world (request.perform world).2) (world : World) :
    r world (action.perform world).2 :=
  Course.Asks.run h refl trans step world

theorem uptime_perform (action : Action α) (world : World) :
    (action.perform world).2.uptime = world.uptime :=
  Asks.perform (Course.asks_true action.run)
    (r := fun world after => after.uptime = world.uptime) (fun _ => rfl)
    (fun first second => second.trans first) (fun request _ world => request.uptime_perform world)
    world

end Action

end Parley
