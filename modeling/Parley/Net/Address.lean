import Parley.Text.Blank
import Parley.Text.Digit

/-!
# Numeric addresses

Version four: up to four numbers joined by dots, each decimal, octal after `0` or hexadecimal
after `0x`; the last number fills all bytes that are left. Version six: eight groups of
hexadecimal digits, one run of zeros abbreviated to `::`, the last two groups possibly written as
a version four address.
-/

namespace Parley.Net

open Text (isDigit natOfDigits hexValue? hexDigit)

namespace Version4

def octal? (digits : List Char) : Option Nat :=
  if digits.all fun c => '0' ≤ c && c ≤ '7' then
    some (digits.foldl (fun n c => 8 * n + Text.digitValue c) 0)
  else none

def hex? (digits : List Char) : Option Nat :=
  digits.foldlM (fun n c => (hexValue? c).map (16 * n + ·)) 0

/-- One number of an address. -/
def part? : List Char → Option Nat
  | [] => none
  | '0' :: 'x' :: digits => hex? digits
  | '0' :: 'X' :: digits => hex? digits
  | '0' :: digits => octal? digits
  | digits => if digits.all isDigit then some (natOfDigits digits) else none

/-- The labels of a name; one empty label at the end does not count. -/
def labels (name : List Char) : List (List Char) :=
  let all := Text.splitAt '.' name
  if all.getLast? = some [] ∧ 1 < all.length then all.dropLast else all

/-- Whether the last label of a name is a number, so that the name has to be an address. -/
def endsInNumber (name : List Char) : Bool :=
  match (labels name).getLast? with
  | none => false
  | some [] => false
  | some last =>
    last.all isDigit || match last with
      | '0' :: 'x' :: digits => (hex? digits).isSome
      | '0' :: 'X' :: digits => (hex? digits).isSome
      | _ => false

def parse? (name : List Char) : Option Nat := do
  let parts := labels name
  guard (parts.length ≤ 4)
  let numbers ← parts.mapM part?
  let last ← numbers.getLast?
  let leading := numbers.dropLast
  guard (leading.all (· < 256) && last < Nat.pow 256 (5 - numbers.length))
  pure (leading.zipIdx.foldl (fun acc (n, i) => acc + n * Nat.pow 256 (3 - i)) last)

def render (address : Nat) : List Char :=
  let byte (i : Nat) := (toString (address / Nat.pow 256 i % 256)).toList
  byte 3 ++ '.' :: (byte 2 ++ '.' :: (byte 1 ++ '.' :: byte 0))

end Version4

namespace Version6

/-- A group of one to four hexadecimal digits. -/
def group? (text : List Char) : Option Nat :=
  if text.isEmpty ∨ 4 < text.length then none else Version4.hex? text

/-- A byte in plain decimal. -/
def byte? (text : List Char) : Option Nat :=
  if text.isEmpty ∨ ¬ text.all isDigit ∨ (text.head? = some '0' ∧ 1 < text.length) then none
  else
    let n := natOfDigits text
    if n < 256 then some n else none

/-- Groups joined by colons; the last may be a dotted address, which counts as two. -/
def groups? (text : List Char) : Option (List Nat) :=
  if text.isEmpty then some []
  else
    let parts := Text.splitAt ':' text
    match parts.getLast? with
    | none => none
    | some last =>
      if last.contains '.' then
        match (Text.splitAt '.' last).mapM byte?, parts.dropLast.mapM group? with
        | some [a, b, c, d], some leading => some (leading ++ [256 * a + b, 256 * c + d])
        | _, _ => none
      else parts.mapM group?

/-- The texts before and after the first double colon. -/
def abbreviated? : List Char → Option (List Char × List Char)
  | ':' :: ':' :: rest => some ([], rest)
  | c :: rest => (abbreviated? rest).map fun (left, right) => (c :: left, right)
  | [] => none

def parse? (text : List Char) : Option (List Nat) :=
  match abbreviated? text with
  | none => (groups? text).bind fun gs => if gs.length = 8 then some gs else none
  | some (left, right) => do
    guard (!left.contains '.')
    let front ← groups? left
    let back ← groups? right
    if front.length + back.length ≤ 7 then
      some (front ++ List.replicate (8 - front.length - back.length) 0 ++ back)
    else none

def hexText (n : Nat) : List Char :=
  let digits := [n / 4096, n / 256 % 16, n / 16 % 16, n % 16].dropWhile (· == 0)
  if digits.isEmpty then ['0'] else digits.map hexDigit

/-- The length of the run of zeros at the head. -/
def zeroRun (groups : List Nat) : Nat := (groups.takeWhile (· == 0)).length

/-- Start and length of the longest run of zeros, the first of equally long ones. -/
def longestZeros (groups : List Nat) : Nat × Nat :=
  (List.range groups.length).foldl (fun best i =>
    let run := zeroRun (groups.drop i)
    if best.2 < run then (i, run) else best) (0, 0)

def join (groups : List Nat) : List Char :=
  (groups.map hexText).intersperse [':'] |>.flatten

def render (groups : List Nat) : List Char :=
  let (start, length) := longestZeros groups
  if length < 2 then join groups
  else join (groups.take start) ++ ':' :: ':' :: join (groups.drop (start + length))

end Version6

end Parley.Net
