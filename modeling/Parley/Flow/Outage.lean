/-!
# Outages

Requests or commands of one kind fail for a while: the next `skip` of them succeed, then so many
`times`, or all of them, fail, and those after them succeed again.
-/

namespace Parley

structure Outage where
  skip : Nat
  times : Option Nat
  deriving DecidableEq, Repr

namespace Outage

/-- Whether the next one fails, and what is left of the outage. -/
def meet (outage : Outage) : Bool × Outage :=
  match outage.skip, outage.times with
  | skip + 1, _ => (false, { outage with skip })
  | 0, none => (true, outage)
  | 0, some 0 => (false, outage)
  | 0, some (n + 1) => (true, { outage with times := some n })

end Outage

end Parley
