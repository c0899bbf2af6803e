import Parley.Calendar.Date

/-!
# Instants

An instant is a count of whole seconds since the first of January 1970 and a count of
nanoseconds. A count of a thousand million or more falls into a leap second, which follows the
second it is counted with. Instants outside the years from -262143 to 262142 do not exist.
-/

namespace Parley.Calendar

structure Instant where
  seconds : Int
  nanos : Nat
  deriving DecidableEq, Repr, Inhabited

namespace Instant

instance : LT Instant :=
  ⟨fun a b => a.seconds < b.seconds ∨ (a.seconds = b.seconds ∧ a.nanos < b.nanos)⟩

instance : LE Instant :=
  ⟨fun a b => a.seconds < b.seconds ∨ (a.seconds = b.seconds ∧ a.nanos ≤ b.nanos)⟩

instance (a b : Instant) : Decidable (a < b) :=
  inferInstanceAs (Decidable (_ ∨ (_ ∧ _)))

instance (a b : Instant) : Decidable (a ≤ b) :=
  inferInstanceAs (Decidable (_ ∨ (_ ∧ _)))

/-- The first second of the calendar. -/
def firstSecond : Int := -8334601228800

/-- The last second of the calendar. -/
def lastSecond : Int := 8210266876799

def inCalendar (seconds : Int) : Bool :=
  firstSecond ≤ seconds && seconds ≤ lastSecond

/-- The instant so many hours later, or earlier for a negative count. -/
def addHours? (t : Instant) (hours : Int) : Option Instant :=
  let seconds := t.seconds + 3600 * hours
  if inCalendar seconds then some { t with seconds } else none

/-- The second with which the year 2000 began. -/
def millennium : Int := 946684800

/-- The instant without the part of it below a microsecond, cut toward the year 2000. -/
def cutToMicros (t : Instant) : Instant :=
  let micros := ((t.seconds - millennium) * 1000000000 + t.nanos).tdiv 1000
  ⟨millennium + micros.fdiv 1000000, 1000 * (micros.fmod 1000000).toNat⟩

/-- The instant so many milliseconds after 2024 began. -/
def ofMillis (ms : Nat) : Instant :=
  ⟨1704067200 + ms / 1000, ms % 1000 * 1000000⟩

end Instant

end Parley.Calendar
