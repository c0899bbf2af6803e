import Parley.Calendar.Date
import Parley.Text.Digit
import Parley.Toml.Basic
import Parley.Word

/-!
# Numbers, dates and times in TOML

Integers have 64 bits; hexadecimal, octal and binary ones have no sign. Single underscores may
stand between digits. A number with a fraction or a power is rounded to the nearest binary
fraction, and refused when it is beyond the greatest; a negative one is then minus infinity.
-/

namespace Parley.Toml

open Text (isDigit natOfDigits hexValue?)

/-- Digits that may be separated by single underscores, without these. -/
def digitRun? (isDigit : Char → Bool) : List Char → Option (List Char × List Char)
  | [] => none
  | [c] => if isDigit c then some ([c], []) else none
  | c :: d :: rest =>
    if !isDigit c then none
    else if d = '_' then (digitRun? isDigit rest).map fun (ds, r) => (c :: ds, r)
    else if isDigit d then (digitRun? isDigit (d :: rest)).map fun (ds, r) => (c :: ds, r)
    else some ([c], d :: rest)

/-- An integer in a base other than ten. -/
def radix? (base : Nat) (text : List Char) : Option (Toml × List Char) := do
  let below (c : Char) : Bool := ((hexValue? c).map fun d => decide (d < base)).getD false
  let (digits, rest) ← digitRun? below text
  let n : Int := digits.foldl (fun n c => base * n + (hexValue? c).getD 0) 0
  if Word.isInt64 n then pure (.integer n, rest) else none

/-- The digits of an integer: a single zero, or no zero at the front. -/
def whole? : List Char → Option (List Char × List Char)
  | '0' :: rest => some (['0'], rest)
  | text => digitRun? isDigit text

/-- The digits after a point, if there is one. -/
def fraction? : List Char → Option (List Char × List Char)
  | '.' :: rest => digitRun? isDigit rest
  | text => some ([], text)

/-- A power of ten, if there is one. -/
def power? : List Char → Option (Option Int × List Char)
  | c :: rest =>
    if c = 'e' ∨ c = 'E' then do
      let (negative, rest) := match rest with
        | '-' :: rest => (true, rest)
        | '+' :: rest => (false, rest)
        | rest => (false, rest)
      let (digits, rest) ← digitRun? isDigit rest
      let n : Int := natOfDigits digits
      pure (some (if negative then -n else n), rest)
    else some (none, c :: rest)
  | [] => some (none, [])

/-- The number with these digits, refused when it is too great. -/
def realOf? (negative : Bool) (digits : List Char) (power : Int) : Option Real :=
  match Decimal.Binary.nearest? negative (natOfDigits digits) power with
  | some value => some (.finite value)
  | none => if negative then some (.infinite true) else none

/-- A decimal number after its sign. -/
def decimal? (negative : Bool) (text : List Char) : Option (Toml × List Char) := do
  let (whole, rest) ← whole? text
  let (fraction, rest) ← fraction? rest
  let (power, rest) ← power? rest
  if fraction.isEmpty ∧ power.isNone then
    let n : Int := natOfDigits whole
    let i := if negative then -n else n
    if Word.isInt64 i then pure (.integer i, rest) else none
  else
    let r ← realOf? negative (whole ++ fraction) (power.getD 0 - fraction.length)
    pure (.real r, rest)

/-- A number after its sign, or one that is none. -/
def signed? (negative : Bool) : List Char → Option (Toml × List Char)
  | 'i' :: 'n' :: 'f' :: rest => some (.real (.infinite negative), rest)
  | 'n' :: 'a' :: 'n' :: rest => some (.real .undefined, rest)
  | text => decimal? negative text

def number? : List Char → Option (Toml × List Char)
  | '0' :: 'x' :: rest => radix? 16 rest
  | '0' :: 'o' :: rest => radix? 8 rest
  | '0' :: 'b' :: rest => radix? 2 rest
  | '-' :: rest => signed? true rest
  | '+' :: rest => signed? false rest
  | text => signed? false text

/-- A number of exactly `width` digits between two bounds. -/
def field? (width low high : Nat) (text : List Char) : Option (Nat × List Char) :=
  let digits := text.take width
  let n := natOfDigits digits
  if digits.length = width ∧ digits.all isDigit ∧ low ≤ n ∧ n ≤ high then
    some (n, text.drop width)
  else none

def mark? (mark : Char) : List Char → Option (List Char)
  | c :: rest => if c = mark then some rest else none
  | [] => none

/-- What follows a date. -/
def date? (text : List Char) : Option (List Char) := do
  let (year, text) ← field? 4 0 9999 text
  let (month, text) ← field? 2 1 12 (← mark? '-' text)
  let (_, text) ← field? 2 1 (Calendar.daysInMonth year month) (← mark? '-' text)
  pure text

/-- What follows a time of day. -/
def time? (text : List Char) : Option (List Char) := do
  let (_, text) ← field? 2 0 23 text
  let (_, text) ← field? 2 0 59 (← mark? ':' text)
  let (_, text) ← field? 2 0 60 (← mark? ':' text)
  match text with
  | '.' :: rest =>
    if (rest.head?.map isDigit).getD false then pure (rest.dropWhile isDigit) else none
  | _ => pure text

/-- What follows an offset from universal time, if there is one. -/
def offset? (text : List Char) : Option (List Char) :=
  match text with
  | c :: rest =>
    if c = 'Z' ∨ c = 'z' then some rest
    else if c = '+' ∨ c = '-' then do
      let (_, text) ← field? 2 0 23 rest
      let (_, text) ← field? 2 0 59 (← mark? ':' text)
      pure text
    else some text
  | [] => some []

/-- What follows a date, a time, or both. -/
def momentEnd? (text : List Char) : Option (List Char) :=
  match date? text with
  | none => time? text
  | some rest =>
    match rest with
    | c :: clock =>
      if c = 'T' ∨ c = 't' ∨ c = ' ' then
        match time? clock with
        | some rest => offset? rest
        | none => some rest
      else some rest
    | [] => some []

def moment? (text : List Char) : Option (Toml × List Char) :=
  (momentEnd? text).map fun rest =>
    (.moment (String.ofList (text.take (text.length - rest.length))), rest)

end Parley.Toml
