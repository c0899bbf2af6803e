import Mathlib.Data.List.Induction
import Parley.Moderation.Screening
import Parley.Proofs.Flow.Trace

/-!
# Runs of the moderation services

A run is a list of calls, each at its time, made one after the other. Its journal has an entry for
each call: what was answered, and the bans that the store was asked to keep. The history of a run is
read from the journal alone.
-/

namespace Parley

/-- The ban that a request asks the store to keep. -/
def Request.createdBan? : Request → Option Ban
  | createBan ban => some ban
  | _ => none

namespace Action

variable {α β : Type} (action : Action α) (next : α → Action β) (world : World)

/-- The bans that an action asks the store to keep. -/
def created : List Ban := (action.asked world).filterMap Request.createdBan?

@[simp] theorem created_pure (a : α) : (pure a : Action α).created world = [] := rfl

theorem created_bind : (action >>= next).created world = action.created world ++
    match (action.perform world).1 with
    | .ok a => (next a).created (action.perform world).2
    | .error _ => [] := by
  rw [created, asked_bind, List.filterMap_append]
  cases (action.perform world).1 <;> rfl

theorem created_map (f : α → β) : (f <$> action).created world = action.created world :=
  congrArg (List.filterMap Request.createdBan?) (asked_map action world f)

end Action

namespace Moderation

/-- A call of a moderation service. -/
inductive Operation where
  | checkBan (actor : Uuid) (channel : Option Uuid)
  | filterMessage (content : String)
  | detectSpam (actor : Uuid) (content : String)
  | autoBanForSpam (actor : Uuid) (scope : Option BanScope)
  | autoBanForViolations (actor : Uuid) (scope : Option BanScope) (violations : Int)
  | createBan (admin : Uuid) (request : BanRequest)
  | removeBan (id : Uuid)
  | listBans (character : Option Uuid) (limit offset : Int)
  | createReport (reporter : Uuid) (request : ReportRequest)
  | listReports (status : Option ReportStatus) (limit offset : Int)
  | resolveReport (id admin : Uuid) (status : ReportStatus)
  | screen (sender : Uuid) (scope : Option BanScope) (content : String)
  deriving DecidableEq

namespace Operation

/-- What a call returns. -/
abbrev Result : Operation → Type
  | checkBan .. => Option Ban
  | filterMessage _ => Filter.Outcome
  | detectSpam .. => Bool
  | autoBanForSpam .. => Option Ban
  | autoBanForViolations .. => Option Ban
  | createBan .. => Ban
  | removeBan _ => Ban
  | listBans .. => List Ban × Nat
  | createReport .. => Report
  | listReports .. => List Report × Nat
  | resolveReport .. => Report
  | screen .. => Verdict

def action (rules : Rules) : (operation : Operation) → Action operation.Result
  | checkBan actor channel => Moderation.checkBan actor channel
  | filterMessage content => Moderation.filterMessage rules content
  | detectSpam actor content => Moderation.detectSpam rules actor content
  | autoBanForSpam actor scope => Moderation.autoBanForSpam rules actor scope
  | autoBanForViolations actor scope violations =>
    Moderation.autoBanForViolations rules actor scope violations
  | createBan admin request => Moderation.createBan admin request
  | removeBan id => Moderation.removeBan id
  | listBans character limit offset => Moderation.listBans character limit offset
  | createReport reporter request => Moderation.createReport reporter request
  | listReports status limit offset => Moderation.listReports status limit offset
  | resolveReport id admin status => Moderation.resolveReport id admin status
  | screen sender scope content => Moderation.screen rules sender scope content

end Operation

/-- A call at a time. -/
structure Call where
  time : Nat
  operation : Operation
  deriving DecidableEq

/-- What became of a call. -/
structure Entry where
  call : Call
  answer : Except Failure call.operation.Result
  created : List Ban

namespace Call

variable (rules : Rules) (call : Call) (world : World)

/-- The world at the time of the call. -/
def start : World := { world with clock := call.time }

def answer : Except Failure call.operation.Result :=
  ((call.operation.action rules).perform (call.start world)).1

def after : World := ((call.operation.action rules).perform (call.start world)).2

def created : List Ban := (call.operation.action rules).created (call.start world)

def entry : Entry := ⟨call, call.answer rules world, call.created rules world⟩

theorem uptime_after : (call.after rules world).uptime = world.uptime :=
  Action.uptime_perform _ (call.start world)

end Call

section Runs

variable (rules : Rules)

/-- The entries of the calls, made one after the other. -/
def journal : List Call → World → List Entry
  | [], _ => []
  | call :: rest, world => call.entry rules world :: journal rest (call.after rules world)

/-- The world that the calls lead to. -/
def reached : List Call → World → World
  | [], world => world
  | call :: rest, world => reached rest (call.after rules world)

theorem journal_append (calls rest : List Call) (world : World) :
    journal rules (calls ++ rest) world =
      journal rules calls world ++ journal rules rest (reached rules calls world) := by
  induction calls generalizing world with
  | nil => rfl
  | cons call calls ih => exact congrArg (List.cons _) (ih _)

theorem reached_append (calls rest : List Call) (world : World) :
    reached rules (calls ++ rest) world = reached rules rest (reached rules calls world) := by
  induction calls generalizing world with
  | nil => rfl
  | cons call calls ih => exact ih _

theorem uptime_reached (calls : List Call) (world : World) :
    (reached rules calls world).uptime = world.uptime := by
  induction calls generalizing world with
  | nil => rfl
  | cons call calls ih => exact (ih _).trans (call.uptime_after rules world)

/-- The journal is about the calls of the run and no others. -/
theorem forall_journal {p : Call → Prop} {calls : List Call} {world : World} :
    (∀ entry ∈ journal rules calls world, p entry.call) ↔ ∀ call ∈ calls, p call := by
  induction calls generalizing world with
  | nil => simp [journal]
  | cons call calls ih =>
    rw [journal, List.forall_mem_cons, List.forall_mem_cons, ih]
    exact Iff.rfl

/-- What the clock showed before a run is nothing to its calls. -/
theorem journal_clock (calls : List Call) (world : World) (time : Nat) :
    journal rules calls { world with clock := time } = journal rules calls world := by
  cases calls <;> rfl

/-- What every call of a run preserves, if it is made at the time of the world or later, holds all
along a run whose times never go back. -/
theorem run_induction {α : Type} (call : α → Call) (allowed : α → Prop)
    (holds : List α → List Entry → World → Prop) {uptime : Nat}
    (step : ∀ before next entries world, allowed next → holds before entries world →
      world.clock ≤ (call next).time → world.uptime = uptime →
      holds (before ++ [next]) (entries ++ [(call next).entry rules world])
          ((call next).after rules world) ∧
        ((call next).after rules world).clock = (call next).time)
    {items : List α} {world : World} (start : holds [] [] world) (atZero : world.clock = 0)
    (since : world.uptime = uptime)
    (all : ∀ item ∈ items, allowed item)
    (ordered : items.Pairwise fun first second => (call first).time ≤ (call second).time) :
    holds items (journal rules (items.map call) world) (reached rules (items.map call) world) ∧
      ∀ time, (∀ item ∈ items, (call item).time ≤ time) →
        (reached rules (items.map call) world).clock ≤ time := by
  induction items using List.reverseRecOn with
  | nil => exact ⟨start, fun time _ => Nat.le_trans (Nat.le_of_eq atZero) (Nat.zero_le time)⟩
  | append_singleton before next ih =>
    rw [List.pairwise_append] at ordered
    obtain ⟨holding, timely⟩ :=
      ih (fun item listed => all item (List.mem_append_left _ listed)) ordered.1
    have later := timely (call next).time fun item listed =>
      ordered.2.2 item listed next (List.mem_singleton_self next)
    have allowedNext := all next (List.mem_append_right _ (List.mem_singleton_self next))
    obtain ⟨held, clock⟩ := step before next _ _ allowedNext holding later
      ((uptime_reached rules _ world).trans since)
    rw [List.map_append, journal_append, reached_append]
    refine ⟨held, fun time bound => ?_⟩
    refine Nat.le_trans (Nat.le_of_eq clock) (bound next ?_)
    exact List.mem_append_right _ (List.mem_singleton_self next)

end Runs

section Attempts

variable {α : Type} (action : Action α) (world : World)

theorem perform_attempt : (attempt action).perform world =
    (match (action.perform world).1 with
      | .error .aborted => .error .aborted
      | _ => .ok (), (action.perform world).2) := by
  have effects : (action >>= fun _ => pure ()).perform world =
      ((action.perform world).1.map fun _ => (), (action.perform world).2) := by
    rw [Action.perform_bind]
    cases (action.perform world).1 <;> rfl
  rw [attempt]
  cases result : (action.perform world).1 with
  | ok a =>
    rw [Action.perform_onError _ _ _ (by simp [effects, result, Except.map]), effects, result]
    rfl
  | error failure =>
    cases failure with
    | refused e =>
      rw [Action.perform_onError_of_refused _ (e := e) (by rw [effects, result]; rfl), effects]
      rfl
    | aborted =>
      rw [Action.perform_onError _ _ _ (by simp [effects, result, Except.map]), effects, result]
      rfl

theorem asked_attempt : (attempt action).asked world = action.asked world := by
  have effects : (action >>= fun _ => pure ()).asked world = action.asked world := by
    rw [Action.asked_bind]
    cases (action.perform world).1 <;> exact List.append_nil _
  exact (Action.asked_onError _ _ fun e => rfl).trans effects

theorem created_attempt : (attempt action).created world = action.created world :=
  congrArg (List.filterMap Request.createdBan?) (asked_attempt action world)

end Attempts

end Moderation

end Parley
