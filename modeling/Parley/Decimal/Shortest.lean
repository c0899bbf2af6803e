import Parley.Decimal.Binary

/-!
# The shortest decimal that reads back

Of the decimals that round to a given binary number, `shortest` takes one with the fewest digits
and of those the nearest. `render` writes it: positionally while the point lies among the first
sixteen digits or at most five zeros precede them, with an exponent otherwise.
-/

namespace Parley.Decimal

/-- `digits * 10 ^ exponent`. -/
structure Scaled where
  digits : Nat
  exponent : Int
  deriving DecidableEq, Repr

namespace Binary

/-- Whether `num / den` rounds to the magnitude of `b`. -/
def roundsFrom (b : Binary) (num den : Nat) : Bool :=
  let (p, q) := b.quotient
  let unit : Nat × Nat :=
    if 0 ≤ b.exponent then (Nat.pow 2 b.exponent.toNat, 1)
    else (1, Nat.pow 2 (-b.exponent).toNat)
  let narrow := b.mantissa = leastMantissa ∧ -1074 < b.exponent
  -- distances are compared in quarters of the unit in the last place
  let closed := b.mantissa % 2 = 0
  let below := 4 * (p * den - num * q) * unit.2
  let above := 4 * (num * q - p * den) * unit.2
  let unitWidth := unit.1 * q * den
  let lowWidth := if narrow then unitWidth else 2 * unitWidth
  let highWidth := 2 * unitWidth
  if num * q ≤ p * den then
    if closed then below ≤ lowWidth else below < lowWidth
  else
    if closed then above ≤ highWidth else above < highWidth

/-- The decimal exponent of the leading digit: the greatest `k` with `10 ^ k ≤ num / den`. -/
def leadingPlace (num den : Nat) : Int :=
  let guess : Int := ((num.log2 : Int) - den.log2) * 30103 / 100000
  let atLeast (k : Int) : Bool :=
    if 0 ≤ k then den * Nat.pow 10 k.toNat ≤ num else den ≤ num * Nat.pow 10 (-k).toNat
  if atLeast (guess + 1) then guess + 1
  else if atLeast guess then guess
  else if atLeast (guess - 1) then guess - 1
  else guess - 2

/-- The nearest decimal of `count` digits that rounds to `b`, if there is one. -/
def withDigits? (b : Binary) (count : Nat) : Option Scaled :=
  let (p, q) := b.quotient
  let exponent := leadingPlace p q - (count : Int) + 1
  let scale (d : Nat) : Nat × Nat :=
    if 0 ≤ exponent then (d * Nat.pow 10 exponent.toNat, 1) else (d, Nat.pow 10 (-exponent).toNat)
  let (num, den) :=
    if 0 ≤ exponent then (p, q * Nat.pow 10 exponent.toNat) else (p * Nat.pow 10 (-exponent).toNat, q)
  let low := num / den
  let fits (d : Nat) : Bool := let (n, m) := scale d; b.roundsFrom n m
  let nearer := roundQuotient num den
  let other := if nearer = low then low + 1 else low
  if fits nearer then some ⟨nearer, exponent⟩
  else if fits other then some ⟨other, exponent⟩
  else none

/-- The shortest decimal that rounds to the magnitude of `b`, without trailing zeros. -/
def shortest (b : Binary) : Scaled :=
  if b.isZero then ⟨0, 0⟩
  else
    match (List.range 17).findSome? fun n => b.withDigits? (n + 1) with
    | some d => trimZeros d 20
    | none => ⟨b.mantissa, 0⟩
where
  trimZeros (d : Scaled) : Nat → Scaled
    | 0 => d
    | steps + 1 =>
      if d.digits % 10 = 0 ∧ d.digits ≠ 0 then trimZeros ⟨d.digits / 10, d.exponent + 1⟩ steps
      else d

def render (b : Binary) : String :=
  let d := b.shortest
  let digits := toString d.digits
  let count : Int := digits.length
  let point := count + d.exponent
  let zeros (n : Int) := String.ofList (List.replicate n.toNat '0')
  let body :=
    if b.isZero then "0.0"
    else if 0 ≤ d.exponent ∧ point ≤ 16 then digits ++ zeros d.exponent ++ ".0"
    else if 0 < point ∧ point ≤ 16 then
      String.ofList (digits.toList.take point.toNat) ++ "." ++
        String.ofList (digits.toList.drop point.toNat)
    else if -5 < point ∧ point ≤ 0 then "0." ++ zeros (-point) ++ digits
    else
      let lead := String.ofList (digits.toList.take 1)
      let rest := String.ofList (digits.toList.drop 1)
      let power := point - 1
      lead ++ (if rest.isEmpty then "" else "." ++ rest) ++ "e" ++
        (if power < 0 then "-" else "+") ++ toString power.natAbs
  if b.negative then "-" ++ body else body

end Binary

end Parley.Decimal
