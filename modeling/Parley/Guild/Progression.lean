/-!
# Guild progression

Leaving level `L` takes `L` times the experience per level. One gain raises a guild by at most
one level; what remains counts towards the next.
-/

namespace Parley

/-- The outcome of one gain of experience. -/
structure Progression where
  oldLevel : Int
  newLevel : Int
  experience : Int
  deriving DecidableEq, Repr

namespace Progression

def leveledUp (p : Progression) : Bool := p.oldLevel < p.newLevel

/-- The experience that leads out of a level. -/
def threshold (level perLevel : Int) : Int := max level 1 * perLevel

def gain (level experience amount perLevel : Int) : Progression :=
  let total := experience + amount
  let needed := threshold level perLevel
  if 0 < needed ∧ needed ≤ total then ⟨level, level + 1, total - needed⟩
  else ⟨level, level, total⟩

end Progression

end Parley
