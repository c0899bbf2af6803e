/-!
# Sets of code points

Properties of characters are kept as sorted lists of inclusive ranges.
-/

namespace Parley.Letter

/-- Membership in sorted inclusive ranges. -/
def inRanges : List (Nat × Nat) → Nat → Bool
  | [], _ => false
  | (first, last) :: rest, n =>
    if n < first then false else if n ≤ last then true else inRanges rest n

end Parley.Letter
