/-!
# Binary fractions of 53 bits

A finite binary number is a sign and `mantissa * 2 ^ exponent` with a mantissa below `2 ^ 53`
and an exponent of at least `-1074`. Of the representations of one value the mantissa is the
greatest. All operations compute with exact integers and round once, to the nearest number and
on a tie to an even mantissa; `none` stands for a result beyond the greatest number.
-/

namespace Parley.Decimal

structure Binary where
  negative : Bool
  mantissa : Nat
  exponent : Int
  deriving DecidableEq, Repr

/-- The integer nearest to a quotient; a tie goes to the even one. -/
def roundQuotient (num den : Nat) : Nat :=
  let q := num / den
  let r := num % den
  if 2 * r < den then q
  else if den < 2 * r then q + 1
  else if q % 2 = 0 then q else q + 1

namespace Binary

def zero (negative : Bool) : Binary := ⟨negative, 0, -1074⟩

def isZero (b : Binary) : Bool := b.mantissa == 0

def neg (b : Binary) : Binary := { b with negative := !b.negative }

/-- The least mantissa of 53 bits, `2 ^ 52`. -/
def leastMantissa : Nat := 4503599627370496

/-- The number nearest to `num / den`. -/
def ofQuotient? (negative : Bool) (num den : Nat) : Option Binary :=
  if num = 0 then some (zero negative)
  else
    let scaled (q : Int) : Nat × Nat :=
      if 0 ≤ q then (num, den * Nat.pow 2 q.toNat) else (num * Nat.pow 2 (-q).toNat, den)
    let guess : Int := (num.log2 : Int) - den.log2 - 52
    let exponent :=
      let (n, d) := scaled guess
      max (if n / d < leastMantissa then guess - 1 else guess) (-1074)
    let (n, d) := scaled exponent
    let mantissa := roundQuotient n d
    let (mantissa, exponent) :=
      if mantissa = 2 * leastMantissa then (leastMantissa, exponent + 1) else (mantissa, exponent)
    if 971 < exponent then none else some ⟨negative, mantissa, exponent⟩

def ofNat (n : Nat) : Option Binary := ofQuotient? false n 1

/-- Numerator and denominator of the magnitude. -/
def quotient (b : Binary) : Nat × Nat :=
  if 0 ≤ b.exponent then (b.mantissa * Nat.pow 2 b.exponent.toNat, 1)
  else (b.mantissa, Nat.pow 2 (-b.exponent).toNat)

def mul? (a b : Binary) : Option Binary :=
  let (p, q) := a.quotient
  let (r, s) := b.quotient
  ofQuotient? (a.negative != b.negative) (p * r) (q * s)

/-- The quotient of two numbers; the divisor is not zero. -/
def div? (a b : Binary) : Option Binary :=
  let (p, q) := a.quotient
  let (r, s) := b.quotient
  if r = 0 then none else ofQuotient? (a.negative != b.negative) (p * s) (q * r)

/-- The number nearest to a power of ten. -/
def tenPow? (n : Nat) : Option Binary := ofNat (Nat.pow 10 n)

/-- The number nearest to `digits * 10 ^ exponent`. -/
def nearest? (negative : Bool) (digits : Nat) (exponent : Int) : Option Binary :=
  if digits = 0 then some (zero negative)
  else if 400 < exponent then none
  else if exponent < -400 - digits.log2 then some (zero negative)
  else if 0 ≤ exponent then ofQuotient? negative (digits * Nat.pow 10 exponent.toNat) 1
  else ofQuotient? negative digits (Nat.pow 10 (-exponent).toNat)

/-- `digits * 10 ^ exponent`, read with one rounding of the digits and one of the product. Below
the least power of ten the quotient is taken in steps of `10 ^ 308`. -/
def ofDecimal? (negative : Bool) (digits : Nat) (exponent : Int) : Option Binary := do
  let value ← ofNat digits
  let value ← scale value exponent 4
  pure { value with negative }
where
  scale (value : Binary) (exponent : Int) : Nat → Option Binary
    | 0 => some (zero false)
    | steps + 1 =>
      if exponent.natAbs ≤ 308 then do
        let power ← tenPow? exponent.natAbs
        if 0 ≤ exponent then value.mul? power else value.div? power
      else if value.isZero then some value
      else if 0 ≤ exponent then none
      else do
        let power ← tenPow? 308
        scale (← value.div? power) (exponent + 308) steps

end Binary

end Parley.Decimal
