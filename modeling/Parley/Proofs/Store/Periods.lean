import Parley.Proofs.Flow.Steps

/-!
# Periods of calls

Calls fall into periods by their times alone: a call that is made while no period is open opens one,
and a period closes so many milliseconds after it opened. A counter that is counted up at each of
the calls, with a deadline set by the first count, is the window of their last period.
-/

namespace Parley

structure Period where
  opened : Nat
  /-- How many calls came after the one that opened the period. -/
  more : Nat
  deriving DecidableEq, Repr

namespace Period

variable {length now later : Nat} {period? : Option Period}

def calls (period : Period) : Nat := period.more + 1

/-- The period of a call: the last one while it is open, or else a new one. -/
def join (length : Nat) (period? : Option Period) (time : Nat) : Period :=
  match period? with
  | some last =>
    if time < last.opened + length then { last with more := last.more + 1 } else ⟨time, 0⟩
  | none => ⟨time, 0⟩

/-- The period of the last of some calls, given by their times. -/
def last? (length : Nat) (times : List Nat) : Option Period :=
  times.foldl (fun period? time => some (join length period? time)) none

theorem last?_concat (length : Nat) (times : List Nat) (time : Nat) :
    last? length (times ++ [time]) = some (join length (last? length times) time) :=
  List.foldl_concat ..

/-- The window of a counter that counts the calls of the period. -/
def window (length : Nat) (period : Period) : Window :=
  ⟨period.calls, some (period.opened + length)⟩

/-- The window that is open at a time. -/
def openWindow (length : Nat) (period? : Option Period) (now : Nat) : Option Window :=
  (period?.map (window length)).filter (·.isOpen now)

theorem openWindow_of_le (h : now ≤ later) :
    openWindow length period? later = (openWindow length period? now).filter (·.isOpen later) :=
  Window.filter_of_le h

/-- What follows the periods of calls goes on following them while time passes. -/
theorem window?_later {counters : Counters} {key : String} (h : now ≤ later)
    (follows : counters.window? now key = openWindow length period? now) :
    counters.window? later key = openWindow length period? later := by
  rw [Counters.window?_of_le h, follows, ← openWindow_of_le h]

theorem openWindow_some (period : Period) :
    openWindow length (some period) now =
      if now < period.opened + length then some (period.window length) else none := by
  rw [openWindow, Option.map_some, Option.filter_some]
  simp [window, Window.isOpen]

/-- The first count of a period sets the deadline, and later ones leave it. -/
theorem window_join (length : Nat) (period? : Option Period) (now : Nat) :
    (join length period? now).window length =
      let raised := Window.raised (openWindow length period? now)
      if raised.count = 1 then { raised with closes := some (now + length) } else raised := by
  cases period? with
  | none => rfl
  | some last =>
    rw [openWindow_some, join]
    by_cases isOpen : now < last.opened + length
    · have counted : ((last.calls : Int) + 1) ≠ 1 := by
        simp only [calls]
        omega
      simp only [if_pos isOpen, Window.raised, window, if_neg counted]
      simp [calls]
    · simp only [if_neg isOpen]
      rfl

theorem calls_join (length : Nat) (period? : Option Period) (now : Nat) :
    ((join length period? now).calls : Int) =
      (Window.raised (openWindow length period? now)).count := by
  have same := congrArg Window.count (window_join length period? now)
  dsimp only at same
  split at same <;> exact same

/-- A period grows by one call at a time. -/
theorem calls_join_le {most : Int} (positive : 1 ≤ most)
    (below : ∀ period ∈ period?, (period.calls : Int) < most) :
    ((join length period? now).calls : Int) ≤ most := by
  cases period? with
  | none => simpa [join, calls] using positive
  | some period =>
    have bound := below period rfl
    rw [join]
    split
    · simp only [calls] at bound ⊢
      omega
    · simpa [calls] using positive

end Period

/-- Counting up a counter that follows the calls of the key counts one more of them. -/
theorem Action.perform_countInWindow_of_period {world : World} {key : String} {ttl : Nat}
    {period? : Option Period} (distinct : world.counters.Distinct)
    (reachable : Counters.isReachable world.reading ttl = true)
    (follows : world.counters.window? world.clock key = Period.openWindow ttl period? world.clock) :
    ∃ counters : Counters, (Action.countInWindow key ttl).perform world =
        (.ok (Period.join ttl period? world.clock).calls, { world with counters }) ∧
      counters.Distinct ∧
      counters.window? world.clock key =
        Period.openWindow ttl (some (Period.join ttl period? world.clock)) world.clock ∧
      ∀ other, key ≠ other →
        counters.window? world.clock other = world.counters.window? world.clock other := by
  have raised : (world.counters.increment world.clock key).2.window? world.clock key =
      some (Window.raised (world.counters.window? world.clock key)) :=
    Counters.window?_increment_self distinct
  have kept : ∀ other, key ≠ other →
      (world.counters.increment world.clock key).2.window? world.clock other =
        world.counters.window? world.clock other := fun other =>
    Counters.window?_increment_of_ne distinct
  have value := Period.calls_join ttl period? world.clock
  have window := Period.window_join ttl period? world.clock
  rw [Action.perform_countInWindow, if_pos reachable, Counters.increment_value distinct]
  rw [← follows] at value window
  by_cases first : (Window.raised (world.counters.window? world.clock key)).count = 1
  · rw [if_pos first, value, first]
    refine ⟨_, rfl, Counters.expire_distinct (Counters.increment_distinct distinct), ?_, ?_⟩
    · rw [Counters.window?_expire_self raised, Period.openWindow, Option.map_some, window]
      simp only [if_pos first]
    · intro other apart
      exact (Counters.window?_expire_of_ne apart).trans (kept other apart)
  · rw [if_neg first, value]
    refine ⟨_, rfl, Counters.increment_distinct distinct, ?_, kept⟩
    rw [raised, Period.openWindow, Option.map_some, window]
    simp only [if_neg first]
    exact Counters.filter_raised.symm

end Parley
