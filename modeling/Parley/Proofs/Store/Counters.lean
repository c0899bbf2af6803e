import Parley.Proofs.Store.Table
import Parley.Store.Counters

/-!
# Counters as windows

All that a reader can tell of a counter is its window: how often it was counted up since the window
opened, and when it closes. Each operation changes the window of its own key and of no other. When
expired counters are dropped from memory does not show.
-/

namespace Parley

/-- A counter that has not expired. -/
structure Window where
  count : Int
  closes : Option Nat
  deriving DecidableEq, Repr

namespace Window

def isOpen (window : Window) (now : Nat) : Bool :=
  (window.closes.map fun t => decide (now < t)).getD true

/-- A window counted up once more, or a new one. -/
def raised : Option Window → Window
  | some window => { window with count := window.count + 1 }
  | none => ⟨1, none⟩

theorem isOpen_raised {window? : Option Window} {now : Nat}
    (h : ∀ window ∈ window?, window.isOpen now = true) : (raised window?).isOpen now = true := by
  cases window? with
  | none => rfl
  | some window => exact h window rfl

/-- What is open later was open before. -/
theorem isOpen_of_le {window : Window} {now later : Nat} (h : now ≤ later)
    (isOpen : window.isOpen later = true) : window.isOpen now = true := by
  cases hcloses : window.closes with
  | none => simp [Window.isOpen, hcloses]
  | some t =>
    simp only [Window.isOpen, hcloses, Option.map_some, Option.getD_some, decide_eq_true_eq]
      at isOpen ⊢
    omega

theorem filter_of_le {window? : Option Window} {now later : Nat} (h : now ≤ later) :
    window?.filter (·.isOpen later) =
      (window?.filter (·.isOpen now)).filter (·.isOpen later) := by
  rw [Option.filter_filter]
  congr 1
  funext window
  cases open_later : window.isOpen later with
  | true => rw [isOpen_of_le h open_later]; rfl
  | false => rw [Bool.and_false]

end Window

namespace Counter

def window (counter : Counter) : Window := ⟨counter.value, counter.deadline⟩

@[simp] theorem isOpen_window (counter : Counter) (now : Nat) :
    counter.window.isOpen now = counter.isLive now := rfl

end Counter

namespace Counters

/-- The open window of a key. -/
def window? (counters : Counters) (now : Nat) (key : String) : Option Window :=
  ((counters.find? key).map Counter.window).filter (·.isOpen now)

/-- No two counters have one key. -/
def Distinct (counters : Counters) : Prop := (counters.entries.map Counter.key).Nodup

variable {counters : Counters} {now later ttl : Nat} {key other : String}

theorem window?_of_missing (missing : counters.find? key = none) :
    counters.window? now key = none := by
  rw [window?, missing]
  rfl

/-- A counter that lapsed has no open window, whether it is in memory or not. -/
theorem window?_of_found {counter : Counter} (found : counters.find? key = some counter) :
    counters.window? now key = if counter.isLive now then some counter.window else none := by
  rw [window?, found, Option.map_some, Option.filter_some, Counter.isOpen_window]

theorem isOpen_of_window? {window : Window} (h : window ∈ counters.window? now key) :
    window.isOpen now = true :=
  (Option.filter_eq_some_iff.mp h).2

theorem window?_of_le (h : now ≤ later) :
    counters.window? later key = (counters.window? now key).filter (·.isOpen later) :=
  Window.filter_of_le h

theorem find?_sweep (distinct : counters.Distinct) :
    (counters.sweep now).find? key = (counters.find? key).filter (·.isLive now) :=
  Table.find?_filter distinct _

/-- Sweeping drops no open window. -/
theorem window?_sweep (distinct : counters.Distinct) :
    (counters.sweep now).window? now key = counters.window? now key := by
  rw [window?, window?, find?_sweep distinct]
  cases counters.find? key with
  | none => rfl
  | some counter =>
    cases live : counter.isLive now with
    | true => rw [Option.filter_some, if_pos live]
    | false =>
      rw [Option.filter_some, if_neg (by simp [live]), Option.map_some, Option.filter_some,
        if_neg (by simp [live])]
      rfl

/-- The counters that a count is added to: one more increment, and swept at every 1024th. -/
def swept (counters : Counters) (now : Nat) : Counters :=
  let counted := { counters with increments := counters.increments + 1 }
  if counted.increments % sweepInterval = 0 then counted.sweep now else counted

theorem swept_distinct (distinct : counters.Distinct) : (counters.swept now).Distinct := by
  rw [swept]
  split
  · exact Table.nodup_filter distinct _
  · exact distinct

theorem window?_swept (distinct : counters.Distinct) :
    (counters.swept now).window? now key = counters.window? now key := by
  have counted : ({ counters with increments := counters.increments + 1 } : Counters).Distinct :=
    distinct
  rw [swept]
  split
  · exact window?_sweep counted
  · rfl

/-- The counter that a count leaves under its key. -/
def raisedCounter (counters : Counters) (now : Nat) (key : String) : Counter :=
  match counters.find? key with
  | some counter =>
    if counter.isLive now then { counter with value := counter.value + 1 } else ⟨key, 1, none⟩
  | none => ⟨key, 1, none⟩

theorem increment_eq (counters : Counters) (now : Nat) (key : String) :
    counters.increment now key =
      (((counters.swept now).raisedCounter now key).value,
        { counters.swept now with
          entries := Table.put Counter.key ((counters.swept now).raisedCounter now key)
            (counters.swept now).entries }) := rfl

theorem key_raisedCounter : (counters.raisedCounter now key).key = key := by
  rw [raisedCounter]
  split
  · next counter found =>
    have same : counter.key = key := Table.key_of_find? found
    split
    · exact same
    · rfl
  · rfl

theorem window_raisedCounter :
    (counters.raisedCounter now key).window = Window.raised (counters.window? now key) := by
  rw [raisedCounter]
  cases found : counters.find? key with
  | none =>
    rw [window?_of_missing found]
    rfl
  | some counter =>
    rw [window?_of_found found]
    dsimp only
    split <;> rfl

theorem increment_distinct (distinct : counters.Distinct) :
    (counters.increment now key).2.Distinct :=
  Table.nodup_put (swept_distinct distinct)

theorem increment_value (distinct : counters.Distinct) :
    (counters.increment now key).1 = (Window.raised (counters.window? now key)).count := by
  rw [increment_eq, ← window?_swept distinct, ← window_raisedCounter]
  rfl

theorem find?_increment : (counters.increment now key).2.find? key =
    some ((counters.swept now).raisedCounter now key) := by
  have found : (counters.increment now key).2.find?
      ((counters.swept now).raisedCounter now key).key =
        some ((counters.swept now).raisedCounter now key) := Table.find?_put_self _ _
  rwa [key_raisedCounter] at found

/-- A raised window is open, as the one before it was. -/
theorem filter_raised :
    (some (Window.raised (counters.window? now key))).filter (·.isOpen now) =
      some (Window.raised (counters.window? now key)) := by
  rw [Option.filter_some, if_pos]
  exact Window.isOpen_raised fun window h => isOpen_of_window? h

/-- The key has the raised window now. -/
theorem window?_increment_self (distinct : counters.Distinct) :
    (counters.increment now key).2.window? now key =
      some (Window.raised (counters.window? now key)) := by
  rw [window?, find?_increment, Option.map_some, window_raisedCounter, window?_swept distinct,
    filter_raised]

theorem window?_increment_of_ne (distinct : counters.Distinct) (h : key ≠ other) :
    (counters.increment now key).2.window? now other = counters.window? now other := by
  have other_key : ((counters.swept now).raisedCounter now key).key ≠ other := by
    rwa [key_raisedCounter]
  have found : (counters.increment now key).2.find? other = (counters.swept now).find? other :=
    Table.find?_put_of_ne other_key
  rw [← window?_swept distinct, window?, window?, found]

/-- What is reached later on, or farther ahead, includes what lies nearer. -/
theorem isReachable_of_le {reading ahead later farther : Nat}
    (h : reading + ahead ≤ later + farther) (reachable : isReachable later farther = true) :
    isReachable reading ahead = true := by
  simp only [isReachable, Word.isInt64, Bool.and_eq_true, decide_eq_true_eq] at reachable ⊢
  omega

theorem key_withDeadline (counter : Counter) :
    ({ counter with deadline := some (now + ttl) } : Counter).key = counter.key := rfl

theorem expire_distinct (distinct : counters.Distinct) :
    (counters.expire now key ttl).Distinct :=
  Table.nodup_modify distinct

/-- A deadline is set for whatever counter is in memory, and closes its window when it is reached. -/
theorem window?_expire_of_find? {counter : Counter} (found : counters.find? key = some counter) :
    (counters.expire now key ttl).window? now key =
      (some { counter.window with closes := some (now + ttl) }).filter (·.isOpen now) := by
  have changed : (counters.expire now key ttl).find? key =
      (counters.find? key).map fun counter => { counter with deadline := some (now + ttl) } :=
    Table.find?_modify_self key_withDeadline
  rw [window?, changed, found]
  rfl

theorem window?_expire_self {window : Window} (h : counters.window? now key = some window) :
    (counters.expire now key ttl).window? now key =
      (some { window with closes := some (now + ttl) }).filter (·.isOpen now) := by
  obtain ⟨counter, found, rfl⟩ := Option.map_eq_some_iff.mp (Option.filter_eq_some_iff.mp h).1
  exact window?_expire_of_find? found

theorem window?_expire_of_ne (h : key ≠ other) :
    (counters.expire now key ttl).window? now other = counters.window? now other := by
  have kept : (counters.expire now key ttl).find? other = counters.find? other :=
    Table.find?_modify_of_ne key_withDeadline h
  rw [window?, window?, kept]

theorem delete_distinct (distinct : counters.Distinct) : (counters.delete key).Distinct :=
  Table.nodup_filter distinct _

theorem find?_delete_self : (counters.delete key).find? key = none := by
  rw [find?, Table.find?_eq_none_iff]
  simp [delete]

theorem window?_delete_self : (counters.delete key).window? now key = none := by
  rw [window?, find?_delete_self]
  rfl

theorem window?_delete_of_ne (distinct : counters.Distinct) (h : key ≠ other) :
    (counters.delete key).window? now other = counters.window? now other := by
  have found : (counters.delete key).find? other =
      (counters.find? other).filter (·.key != key) := Table.find?_filter distinct _
  rw [window?, window?, found]
  cases hother : counters.find? other with
  | none => rfl
  | some counter =>
    have hkey : counter.key = other := Table.key_of_find? hother
    rw [Option.filter_some, if_pos (by simpa [hkey] using Ne.symm h)]

theorem read_value : (counters.read now key).1 = (counters.window? now key).map Window.count := by
  rw [read]
  cases found : counters.find? key with
  | none =>
    rw [window?_of_missing found]
    rfl
  | some counter =>
    rw [window?_of_found found]
    dsimp only
    split <;> rfl

theorem read_distinct (distinct : counters.Distinct) : (counters.read now key).2.Distinct := by
  rw [read]
  split
  · exact distinct
  · split
    · exact distinct
    · exact delete_distinct distinct

/-- Reading shows no change. -/
theorem window?_read (distinct : counters.Distinct) :
    (counters.read now key).2.window? now other = counters.window? now other := by
  rw [read]
  split
  · rfl
  · next counter found =>
    split
    · rfl
    · next expired =>
      by_cases h : key = other
      · subst h
        rw [window?_delete_self, window?_of_found found, if_neg expired]
      · exact window?_delete_of_ne distinct h

end Counters

end Parley
