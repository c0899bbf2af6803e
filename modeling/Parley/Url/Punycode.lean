import Parley.Word

/-!
# Punycode

A label with characters beyond ASCII is written as its ASCII characters, a hyphen, and the other
characters in the order of their code points, each as a difference of variable length. Bases and
biases are those of RFC 3492.
-/

namespace Parley.Url.Punycode

/-- The digit of a value below 36: letters first, then figures. -/
def digitChar (d : Nat) : Char :=
  if d < 26 then Char.ofNat (97 + d) else Char.ofNat (22 + d)

def digitValue? (c : Char) : Option Nat :=
  if 'a' ≤ c && c ≤ 'z' then some (c.toNat - 97)
  else if 'A' ≤ c && c ≤ 'Z' then some (c.toNat - 65)
  else if '0' ≤ c && c ≤ '9' then some (c.toNat - 22)
  else none

/-- The least value of a digit that is followed by another. -/
def threshold (place bias : Nat) : Nat :=
  if place ≤ bias then 1 else if bias + 26 ≤ place then 26 else place - bias

theorem threshold_pos (place bias : Nat) : 1 ≤ threshold place bias := by
  unfold threshold
  split
  · omega
  · split <;> omega

/-- Divides a difference down, and the bias that comes of it. -/
def settle (delta place : Nat) : Nat :=
  if h : 455 < delta then settle (delta / 35) (place + 36)
  else place + 36 * delta / (delta + 38)
termination_by delta

/-- The bias after a difference, given how many characters are now known. -/
def adapt (delta count : Nat) (first : Bool) : Nat :=
  let scaled := if first then delta / 700 else delta / 2
  settle (scaled + scaled / count) 0

/-- A difference in digits, least significant first. -/
def encodeDelta (bias place delta : Nat) : List Char :=
  let t := threshold place bias
  if h : delta < t then [digitChar delta]
  else
    digitChar (t + (delta - t) % (36 - t)) ::
      encodeDelta bias (place + 36) ((delta - t) / (36 - t))
termination_by delta
decreasing_by
  have hp := threshold_pos place bias
  calc (delta - threshold place bias) / (36 - threshold place bias)
      ≤ delta - threshold place bias := Nat.div_le_self _ _
    _ < delta := by omega

structure Encoder where
  written : List Char
  delta : Nat
  bias : Nat
  known : Nat

/-- Passes one character of the label while code point `n` is being placed. -/
def Encoder.pass (basic n : Nat) (st : Encoder) (c : Char) : Encoder :=
  if c.toNat < n then { st with delta := st.delta + 1 }
  else if c.toNat = n then
    { written := st.written ++ encodeDelta st.bias 36 st.delta
      delta := 0
      bias := adapt st.delta (st.known + 1) (st.known == basic)
      known := st.known + 1 }
  else st

/-- Places the code points of an increasing list, the next one to expect being `n`. -/
def encodePoints (label : List Char) (basic : Nat) : List Nat → Nat → Encoder → Encoder
  | [], _, st => st
  | m :: rest, n, st =>
    let st := label.foldl (Encoder.pass basic m)
      { st with delta := st.delta + (m - n) * (st.known + 1) }
    encodePoints label basic rest (m + 1) { st with delta := st.delta + 1 }

/-- Puts a code point at its place in an increasing list. -/
def insertPoint (n : Nat) : List Nat → List Nat
  | [] => [n]
  | m :: rest =>
    if n < m then n :: m :: rest else if n = m then m :: rest else m :: insertPoint n rest

def encode (label : List Char) : List Char :=
  let basic := label.filter (·.toNat < 128)
  let points := (label.filter (128 ≤ ·.toNat)).foldl (fun acc c => insertPoint c.toNat acc) []
  let st := encodePoints label basic.length points 128 ⟨[], 0, 72, basic.length⟩
  basic ++ (if basic.isEmpty then [] else ['-']) ++ st.written

/-- Reads a difference: the sum so far, the weight of the next digit, and its place. Sums and
weights are words of 32 bits. -/
def decodeDelta? (bias : Nat) : Nat → Nat → Nat → List Char → Option (Nat × List Char)
  | _, _, _, [] => none
  | place, weight, sum, c :: rest => do
    let d ← digitValue? c
    let t := threshold place bias
    let sum := sum + d * weight
    guard (sum < Word.size32)
    if d < t then pure (sum, rest)
    else
      let weight := weight * (36 - t)
      guard (weight < Word.size32)
      decodeDelta? bias (place + 36) weight sum rest

/-- Inserts the coded characters, of which there are at most `bound`. -/
def decodePoints? (done : List Char) (n index bias : Nat) :
    Nat → List Char → Option (List Char)
  | _, [] => some done
  | 0, _ :: _ => none
  | bound + 1, text => do
    let (sum, rest) ← decodeDelta? bias 36 1 index text
    let count := done.length + 1
    let n := n + sum / count
    let place := sum % count
    if 0x10FFFF < n ∨ (0xD800 ≤ n ∧ n ≤ 0xDFFF) then none
    else
      decodePoints? (done.take place ++ Char.ofNat n :: done.drop place) n (place + 1)
        (adapt (sum - index) count (index == 0)) bound rest

def decode? (text : List Char) : Option (List Char) :=
  let reversed := text.reverse
  let coded := (reversed.takeWhile (· != '-')).reverse
  let basic := ((reversed.dropWhile (· != '-')).drop 1).reverse
  if text.all (·.toNat < 128) && !(basic.isEmpty && text.contains '-') then
    decodePoints? basic 128 0 72 text.length coded
  else none

end Parley.Url.Punycode
