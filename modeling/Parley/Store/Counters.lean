import Parley.Store.Table
import Parley.Word

/-!
# Counters that expire

A counter counts up and may have a deadline in milliseconds, at which it is gone. A counter past
its deadline may stay in memory for a while: it is dropped when it is read, starts anew when it is
counted up, and is swept away at every 1024th count of any counter.
-/

namespace Parley

structure Counter where
  key : String
  value : Int
  deadline : Option Nat
  deriving DecidableEq, Repr

namespace Counter

def isLive (counter : Counter) (now : Nat) : Bool :=
  (counter.deadline.map fun t => decide (now < t)).getD true

end Counter

structure Counters where
  entries : List Counter := []
  /-- How often any counter was counted up. -/
  increments : Nat := 0
  deriving Repr

namespace Counters

/-- The number of counts after which expired counters are swept away. -/
def sweepInterval : Nat := 1024

def find? (counters : Counters) (key : String) : Option Counter :=
  Table.find? Counter.key key counters.entries

def sweep (counters : Counters) (now : Nat) : Counters :=
  { counters with entries := counters.entries.filter (·.isLive now) }

/-- Counts up and answers the new value. -/
def increment (counters : Counters) (now : Nat) (key : String) : Int × Counters :=
  let counters := { counters with increments := counters.increments + 1 }
  let counters :=
    if counters.increments % sweepInterval = 0 then counters.sweep now else counters
  let counter : Counter :=
    match counters.find? key with
    | some counter =>
      if counter.isLive now then { counter with value := counter.value + 1 } else ⟨key, 1, none⟩
    | none => ⟨key, 1, none⟩
  (counter.value, { counters with entries := Table.put Counter.key counter counters.entries })

/-- Whether a clock that counts seconds in 63 bits reaches a time that lies so many milliseconds
ahead of what it reads. -/
def isReachable (reading ttl : Nat) : Bool := Word.isInt64 ((reading + ttl) / 1000)

/-- Sets the deadline of a counter that is in memory. -/
def expire (counters : Counters) (now : Nat) (key : String) (ttl : Nat) : Counters :=
  { counters with
    entries := (Table.modify Counter.key key
      (fun counter => { counter with deadline := some (now + ttl) }) counters.entries).2 }

/-- Counts up, and sets the deadline of a counter that has none. -/
def countInWindow (counters : Counters) (now : Nat) (key : String) (window : Nat) :
    Int × Counters :=
  let (value, counters) := counters.increment now key
  if (counters.find? key).any (·.deadline.isNone) then (value, counters.expire now key window)
  else (value, counters)

def delete (counters : Counters) (key : String) : Counters :=
  { counters with entries := counters.entries.filter (·.key != key) }

/-- The value of a live counter. -/
def read (counters : Counters) (now : Nat) (key : String) : Option Int × Counters :=
  match counters.find? key with
  | none => (none, counters)
  | some counter =>
    if counter.isLive now then (some counter.value, counters) else (none, counters.delete key)

end Counters

end Parley
