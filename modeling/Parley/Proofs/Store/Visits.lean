import Parley.Proofs.Store.Lingering

/-!
# Counting in windows

A window of a key opens at a count that is made while none is open. It stays open for as long as
that count asks for, and is closed earlier only when the key is deleted. Every count is answered by
its place in the window, and a reader is told how many there are. When expired counters are dropped
from memory is never seen.
-/

namespace Parley

/-- What is done with counters that are only counted up in windows. -/
inductive Visit where
  | wait (ms : Nat)
  | count (key : String) (window : Nat)
  | read (key : String)
  | delete (key : String)
  | purge
  deriving DecidableEq, Repr

def Visit.use : Visit → Use
  | wait ms => .wait ms
  | count key window => .count key window
  | read key => .read key
  | delete key => .delete key
  | purge => .purge

/-- A count that was made: when, and what window it asked for. -/
structure Mark where
  time : Nat
  length : Nat
  deriving DecidableEq, Repr

/-- What has been done with each key since a window of it was opened or the key was deleted. -/
structure Chronicle where
  time : Nat := 0
  marks : String → List Mark := fun _ => []

namespace Chronicle

variable (chronicle : Chronicle)

/-- The counts in the current window of a key, from the one that opened it on. -/
def current (key : String) : List Mark :=
  match chronicle.marks key with
  | [] => []
  | opening :: more =>
    if chronicle.time < opening.time + opening.length then opening :: more else []

def write (key : String) (marks : List Mark) : Chronicle :=
  { chronicle with marks := Function.update chronicle.marks key marks }

def tell : Visit → Chronicle
  | .wait ms => { chronicle with time := chronicle.time + ms }
  | .count key window => chronicle.write key (chronicle.current key ++ [⟨chronicle.time, window⟩])
  | .delete key => chronicle.write key []
  | .read _ | .purge => chronicle

/-- What a visit is to be answered: the place of a count in its window, and the number of counts in
the window that is open. -/
def answer : Visit → Option Int
  | .count key _ => some ((chronicle.current key).length + 1)
  | .read key => if chronicle.current key = [] then none else some (chronicle.current key).length
  | .wait _ | .delete _ | .purge => none

/-- What the visits of a run are to be answered. -/
def answers : List Visit → Chronicle → List (Option Int)
  | [], _ => []
  | visit :: rest, chronicle => chronicle.answer visit :: answers rest (chronicle.tell visit)

/-- The clock reaches the end of every window that is opened in a run. -/
def Closes (uptime : Nat) (visits : List Visit) : Prop :=
  ∀ before key window later, visits = before ++ .count key window :: later →
    (before.foldl tell chronicle).current key = [] →
    Counters.isReachable (uptime + (before.foldl tell chronicle).time) window = true

/-- The window of some counts. -/
def window? : List Mark → Option Window
  | [] => none
  | opening :: more => some ⟨more.length + 1, some (opening.time + opening.length)⟩

def register : Register := ⟨chronicle.time, fun key => window? (chronicle.current key)⟩

variable {chronicle} {key other : String}

theorem window?_current :
    window? (chronicle.current key) =
      (window? (chronicle.marks key)).filter (·.isOpen chronicle.time) := by
  rw [current]
  cases chronicle.marks key with
  | nil => rfl
  | cons opening more =>
    dsimp only [window?]
    rw [Option.filter_some]
    by_cases isOpen : chronicle.time < opening.time + opening.length
    · rw [if_pos isOpen, if_pos (by simpa [Window.isOpen] using isOpen)]
    · rw [if_neg isOpen, if_neg (by simpa [Window.isOpen] using isOpen)]

theorem marks_write_self {marks : List Mark} : (chronicle.write key marks).marks key = marks :=
  Function.update_self ..

theorem marks_write_of_ne {marks : List Mark} (h : key ≠ other) :
    (chronicle.write key marks).marks other = chronicle.marks other :=
  Function.update_of_ne h.symm ..

theorem register_write {marks : List Mark} :
    (chronicle.write key marks).register = chronicle.register.put key (window? marks) := by
  refine Register.ext rfl (funext fun other => ?_)
  change window? ((chronicle.write key marks).current other) = _
  rw [window?_current]
  by_cases same : key = other
  · subst same
    rw [marks_write_self, Register.window?_put_self]
    rfl
  · rw [marks_write_of_ne same, Register.window?_put_of_ne same]
    exact window?_current.symm

theorem register_wait (ms : Nat) :
    (chronicle.tell (.wait ms)).register = chronicle.register.wait ms := by
  refine Register.ext rfl (funext fun key => ?_)
  change window? ((chronicle.tell (.wait ms)).current key) =
    (window? (chronicle.current key)).filter (·.isOpen (chronicle.time + ms))
  rw [window?_current, window?_current]
  exact Window.filter_of_le (Nat.le_add_right _ _)

theorem register_window? :
    chronicle.register.window? key = window? (chronicle.current key) := rfl

/-- A count is the first of its window exactly if none is open. -/
theorem count_raised_eq_one_iff :
    (Window.raised (chronicle.register.window? key)).count = 1 ↔ chronicle.current key = [] := by
  rw [register_window?]
  cases chronicle.current key with
  | nil => simp [window?, Window.raised]
  | cons opening more =>
    simp only [window?, Window.raised]
    simp
    omega

theorem register_count (window : Nat) :
    (chronicle.tell (.count key window)).register =
      chronicle.register.after (.count key window) := by
  rw [tell, register_write, Register.after]
  cases opened : chronicle.current key with
  | nil =>
    rw [if_pos (count_raised_eq_one_iff.mpr opened), Register.expire, Register.raise,
      Register.put_put, Register.window?_put_self, register_window?, opened]
    rfl
  | cons opening more =>
    rw [if_neg fun first => by simp [count_raised_eq_one_iff.mp first] at opened]
    rw [Register.raise, register_window?, opened]
    simp [window?, Window.raised]

/-- What is told to a chronicle of a visit is what the visit does to a register. -/
theorem register_tell (visit : Visit) :
    (chronicle.tell visit).register = chronicle.register.after visit.use := by
  cases visit with
  | wait ms => exact register_wait ms
  | count key window => exact register_count window
  | delete key => exact register_write
  | read key => rfl
  | purge => rfl

/-- A register answers a visit by the counts in the current window. -/
theorem value_register (visit : Visit) :
    chronicle.register.value visit.use = chronicle.answer visit := by
  cases visit with
  | count key window =>
    change some (Window.raised (chronicle.register.window? key)).count = some _
    rw [register_window?]
    cases chronicle.current key with
    | nil => rfl
    | cons opening more => rfl
  | read key =>
    change (chronicle.register.window? key).map Window.count = _
    rw [register_window?, answer]
    cases chronicle.current key with
    | nil => rfl
    | cons opening more => rfl
  | _ => rfl

theorem closes_cons {uptime : Nat} {visit : Visit} {rest : List Visit} :
    chronicle.Closes uptime (visit :: rest) ↔
      (∀ key window, visit = .count key window → chronicle.current key = [] →
        Counters.isReachable (uptime + chronicle.time) window = true) ∧
      (chronicle.tell visit).Closes uptime rest := by
  constructor
  · intro closes
    refine ⟨fun key window same => closes [] key window rest (by rw [same]; rfl), ?_⟩
    intro before key window later split
    exact closes (visit :: before) key window later (by rw [split]; rfl)
  · rintro ⟨head, tail⟩ before key window later split
    cases before with
    | nil => exact head key window (List.cons.inj split).1
    | cons first before =>
      obtain ⟨rfl, rest_split⟩ := List.cons.inj split
      exact tail before key window later rest_split

variable {world : World} {visits : List Visit}

theorem timely_iff {visit : Visit} (same : Register.ofWorld world = chronicle.register) :
    visit.use.Timely world ↔ ∀ key window, visit = .count key window →
      chronicle.current key = [] →
      Counters.isReachable (world.uptime + chronicle.time) window = true := by
  have reading : world.reading = world.uptime + chronicle.time :=
    congrArg (world.uptime + ·) (congrArg Register.clock same)
  cases visit with
  | count key window =>
    have first : (Window.raised (world.counters.window? world.clock key)).count = 1 ↔
        chronicle.current key = [] := by
      rw [← Register.ofWorld_window?, same, count_raised_eq_one_iff]
    rw [Visit.use, Use.Timely, reading]
    constructor
    · intro timely counted length same opened
      obtain ⟨rfl, rfl⟩ := Visit.count.inj same
      exact timely (first.mpr opened)
    · intro h opened
      exact h key window rfl (first.mp opened)
  | _ =>
    refine iff_of_true trivial ?_
    intro counted length same
    cases same

/-- Visits are answered as the chronicle says if and only if the clock reaches the end of every
window that they open. -/
theorem answers_eq_iff (distinct : world.counters.Distinct)
    (same : Register.ofWorld world = chronicle.register) :
    Use.answers (visits.map Visit.use) world = answers visits chronicle ↔
      chronicle.Closes world.uptime visits := by
  induction visits generalizing world chronicle with
  | nil =>
    refine iff_of_true rfl fun before key window later split => ?_
    simp at split
  | cons visit rest ih =>
    rw [List.map_cons, Use.answers, answers, closes_cons, ← timely_iff same, List.cons.injEq]
    by_cases timely : visit.use.Timely world
    · have answered : visit.use.value world = chronicle.answer visit := by
        rw [Use.value_ofWorld distinct timely, same, value_register]
      have told : Register.ofWorld (visit.use.after world) = (chronicle.tell visit).register := by
        rw [Use.ofWorld_after distinct timely, same, register_tell]
      rw [ih (Use.distinct_after _ distinct) told, Use.uptime_after]
      exact and_congr (iff_of_true answered timely) Iff.rfl
    · refine iff_of_false (fun agree => ?_) fun closes => timely closes.1
      cases visit with
      | count key window =>
        have broken := Use.value_count_of_untimely distinct timely
        exact absurd (agree.1.symm.trans broken) (Option.some_ne_none _)
      | _ => exact timely trivial

/-- Visits to counters that are empty at first are answered by the counts in the current window of
their key, whatever is dropped from memory in between, if and only if the clock reaches the end of
every window that they open. -/
theorem answers_eq_chronicle_iff (uptime : Nat) (visits : List Visit) :
    Use.answers (visits.map Visit.use) { uptime } = answers visits {} ↔
      ({} : Chronicle).Closes uptime visits :=
  answers_eq_iff List.nodup_nil rfl

/-- A window that ends later than the clock reaches is not opened: its first count breaks off. -/
theorem answers_of_endless_window :
    Use.answers ([.count "k" 18446744073709551615000].map Visit.use) {} = [none] ∧
      answers [.count "k" 18446744073709551615000] {} = [some 1] := by
  decide

end Chronicle

end Parley
