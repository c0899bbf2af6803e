import Parley.Calendar.Instant
import Parley.Text.Blank
import Parley.Text.Digit

/-!
# Timestamps

An instant is written as date and time of day in universal time, with the fewest of 0, 3, 6 or
9 places that lose nothing. Reading is lenient: the date and the time are joined by a `T` or a
blank, one digit serves for two, blanks may stand before a number, further places are dropped,
and the offset is `Z`, `UTC`, or a sign with hours and minutes.
-/

namespace Parley.Calendar

/-- A number in at least `width` digits. -/
def padded (width n : Nat) : String :=
  let digits := toString n
  String.ofList (List.replicate (width - digits.length) '0') ++ digits

namespace Instant

def yearText (year : Int) : String :=
  if 0 ≤ year ∧ year ≤ 9999 then padded 4 year.toNat
  else (if year < 0 then "-" else "+") ++ padded 4 year.natAbs

def fractionText (nanos : Nat) : String :=
  if nanos = 0 then ""
  else if nanos % 1000000 = 0 then "." ++ padded 3 (nanos / 1000000)
  else if nanos % 1000 = 0 then "." ++ padded 6 (nanos / 1000)
  else "." ++ padded 9 nanos

/-- Date and time of day without an offset. -/
def localText (t : Instant) : String :=
  let date := Date.ofDays (t.seconds / 86400)
  let second := (t.seconds % 86400).toNat
  let (leap, nanos) :=
    if 1000000000 ≤ t.nanos then (1, t.nanos - 1000000000) else (0, t.nanos)
  yearText date.year ++ "-" ++ padded 2 date.month ++ "-" ++ padded 2 date.day ++ "T" ++
    padded 2 (second / 3600) ++ ":" ++ padded 2 (second / 60 % 60) ++ ":" ++
    padded 2 (second % 60 + leap) ++ fractionText nanos

/-- The text that ends in `Z`. -/
def utcText (t : Instant) : String := t.localText ++ "Z"

/-- The text that ends in an offset of zero. -/
def offsetText (t : Instant) : String := t.localText ++ "+00:00"

end Instant

namespace Timestamp

open Text (isDigit digitValue natOfDigits)
open Text (trimLeft isBlank)

/-- A number of one digit or more, of which at most `width` are read. -/
def number? (width : Nat) (text : List Char) : Option (Nat × List Char) :=
  match (text.takeWhile isDigit).take width with
  | [] => none
  | ds => some (natOfDigits ds, text.drop ds.length)

/-- A field of two digits after blanks. -/
def field? (text : List Char) : Option (Nat × List Char) :=
  number? 2 (trimLeft text)

/-- A year of up to four digits, or of any length after a sign. -/
def year? (text : List Char) : Option (Int × List Char) :=
  match trimLeft text with
  | '-' :: rest => (number? rest.length rest).map fun (n, r) => (-(n : Int), r)
  | '+' :: rest => (number? rest.length rest).map fun (n, r) => ((n : Int), r)
  | rest => (number? 4 rest).map fun (n, r) => ((n : Int), r)

/-- A mark after blanks. -/
def mark? (mark : Char) (text : List Char) : Option (List Char) :=
  match trimLeft text with
  | c :: rest => if c = mark then some rest else none
  | [] => none

/-- Nanoseconds after a point; digits after the ninth are dropped. -/
def fraction? : List Char → Option (Nat × List Char)
  | '.' :: text =>
    match (text.takeWhile isDigit).take 9 with
    | [] => none
    | ds => some (natOfDigits ds * Nat.pow 10 (9 - ds.length), text.dropWhile isDigit)
  | text => some (0, text)

/-- Seconds east of universal time. -/
def offset? (text : List Char) : Option (Int × List Char) :=
  match text with
  | 'Z' :: rest => some (0, rest)
  | 'z' :: rest => some (0, rest)
  | u :: t :: c :: rest =>
    if [u, t, c].map Char.toUpper = ['U', 'T', 'C'] then some (0, rest)
    else signed text
  | _ => none
where
  signed : List Char → Option (Int × List Char)
    | sign :: h :: h' :: rest => do
      let negative ← if sign = '+' then some false
        else if sign = '-' ∨ sign = '\u2212' then some true else none
      guard (isDigit h && isDigit h')
      match rest.dropWhile fun c => c == ':' || isBlank c with
      | m :: m' :: rest =>
        guard (isDigit m && isDigit m' && digitValue m < 6)
        let size : Int := (natOfDigits [h, h'] * 60 + natOfDigits [m, m']) * 60
        guard (size < 86400)
        pure (if negative then -size else size, rest)
      | _ => none
    | _ => none

def ofChars? (text : List Char) : Option Instant := do
  let (year, text) ← year? text
  let (month, text) ← field? (← mark? '-' text)
  let (day, text) ← field? (← mark? '-' text)
  let text ← match text with
    | c :: rest => if c = 'T' ∨ c = 't' ∨ c = ' ' then some rest else none
    | [] => none
  let (hour, text) ← field? text
  let (minute, text) ← field? (← mark? ':' text)
  let (second, text) ← field? (← mark? ':' text)
  let (nanos, text) ← fraction? text
  let (offset, text) ← offset? (trimLeft text)
  guard (trimLeft text).isEmpty
  guard (hour < 24 && minute < 60 && second ≤ 60)
  let date ← Date.valid? year month day
  let (second, nanos) := if second = 60 then (59, nanos + 1000000000) else (second, nanos)
  let here := date.toDays * 86400 + (hour * 3600 + minute * 60 + second : Nat)
  let seconds := here - offset
  guard (Instant.inCalendar here && Instant.inCalendar seconds)
  pure ⟨seconds, nanos⟩

def parse? (text : String) : Option Instant :=
  ofChars? text.toList

end Timestamp

end Parley.Calendar
