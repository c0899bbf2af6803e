import Parley.Json.Basic
import Parley.Text.Digit
import Parley.Word

/-!
# Reading JSON

`parse?` reads one value with nothing but blanks around it. Containers may be nested 127 deep.
Numbers without point and exponent that fit 64 bits are integers; the others are read as binary
fractions from their first digits, as many as fit 64 bits, and a power of ten. A negative zero is
a fraction, and a number beyond the greatest fraction is refused.
-/

namespace Parley.Json

open Text (isDigit digitValue natOfDigits hexValue?)

def isSpace (c : Char) : Bool :=
  c == ' ' || c == '\n' || c == '\t' || c == '\r'

def skipSpace (text : List Char) : List Char :=
  text.dropWhile isSpace

/-- The unit written by four hexadecimal digits. -/
def hexUnit? (a b c d : Char) : Option Nat := do
  pure ((← hexValue? a) * 4096 + (← hexValue? b) * 256 + (← hexValue? c) * 16 + (← hexValue? d))

/-- The character of a one-letter escape. -/
def simpleEscape? : Char → Option Char
  | '"' => some '"'
  | '\\' => some '\\'
  | '/' => some '/'
  | 'b' => some '\x08'
  | 'f' => some '\x0c'
  | 'n' => some '\n'
  | 'r' => some '\r'
  | 't' => some '\t'
  | _ => none

/-- A text after its opening quote. Units above the basic plane come in pairs, high before low;
half a pair is refused. -/
def text? (done : List Char) : List Char → Option (String × List Char)
  | '"' :: rest => some (String.ofList done.reverse, rest)
  | '\\' :: 'u' :: a :: b :: c :: d :: rest =>
    match hexUnit? a b c d with
    | none => none
    | some unit =>
      if unit < 0xD800 ∨ 0xDFFF < unit then text? (Char.ofNat unit :: done) rest
      else if 0xDC00 ≤ unit then none
      else match rest with
        | '\\' :: 'u' :: e :: f :: g :: h :: rest' =>
          match hexUnit? e f g h with
          | none => none
          | some low =>
            if 0xDC00 ≤ low ∧ low ≤ 0xDFFF then
              text? (Char.ofNat (0x10000 + (unit - 0xD800) * 0x400 + (low - 0xDC00)) :: done) rest'
            else none
        | _ => none
  | '\\' :: c :: rest =>
    match simpleEscape? c with
    | some e => text? (e :: done) rest
    | none => none
  | c :: rest => if c.toNat < 32 ∨ c = '\\' then none else text? (c :: done) rest
  | [] => none

/-- The leading digits of a text and what follows them. -/
def digits (text : List Char) : List Char × List Char :=
  (text.takeWhile isDigit, text.dropWhile isDigit)

/-- As many leading digits as give a number of 64 bits, and the count of those left over. -/
def significant (n : Nat) : List Char → Nat × Nat
  | [] => (n, 0)
  | d :: ds =>
    let next := 10 * n + digitValue d
    if Word.size64 ≤ next then (n, ds.length + 1) else significant next ds

/-- An exponent after its letter. -/
def exponent? (text : List Char) : Option (Int × List Char) :=
  let (negative, text) := match text with
    | '-' :: rest => (true, rest)
    | '+' :: rest => (false, rest)
    | _ => (false, text)
  match digits text with
  | ([], _) => none
  | (ds, rest) =>
    let size : Int := natOfDigits ds
    some (if negative then -size else size, rest)

/-- The fraction `whole.fraction * 10 ^ power`. -/
def fractionNumber? (negative : Bool) (whole fraction : List Char) (power : Int) :
    Option Number :=
  let (n, dropped) := significant 0 whole
  let (n, used) :=
    let (m, left) := significant n fraction
    (m, fraction.length - left)
  (Decimal.Binary.ofDecimal? negative n (power + dropped - used)).map .real

/-- A number after its sign. -/
def number? (negative : Bool) (text : List Char) : Option (Number × List Char) := do
  let (whole, rest) ← match text with
    | '0' :: rest => if (rest.head?.map isDigit).getD false then none else some (['0'], rest)
    | _ => match digits text with
      | ([], _) => none
      | found => some found
  let (fraction, rest) ← match rest with
    | '.' :: rest => match digits rest with
      | ([], _) => none
      | found => some found
    | _ => some ([], rest)
  let (power, rest) ← match rest with
    | 'e' :: rest => (exponent? rest).map fun (p, r) => (some p, r)
    | 'E' :: rest => (exponent? rest).map fun (p, r) => (some p, r)
    | _ => some (none, rest)
  let n := natOfDigits whole
  if fraction.isEmpty ∧ power.isNone ∧
      (if negative then 0 < n ∧ Word.isInt64 (-n) else n < Word.size64) then
    pure (.integer (if negative then -(n : Int) else n), rest)
  else
    pure (← fractionNumber? negative whole fraction (power.getD 0), rest)

/-- The items of an array after its opening bracket, of which at most `bound` are read. -/
def items? (item? : List Char → Option (Json × List Char)) (done : List Json) :
    Nat → List Char → Option (List Json × List Char)
  | 0, _ => none
  | bound + 1, text => do
    let (value, rest) ← item? (skipSpace text)
    match skipSpace rest with
    | ',' :: rest => items? item? (value :: done) bound rest
    | ']' :: rest => pure ((value :: done).reverse, rest)
    | _ => none

/-- The members of an object after its opening brace, of which at most `bound` are read. -/
def members? (item? : List Char → Option (Json × List Char)) (done : Members) :
    Nat → List Char → Option (Members × List Char)
  | 0, _ => none
  | bound + 1, text =>
    match skipSpace text with
    | '"' :: rest => do
      let (name, rest) ← text? [] rest
      match skipSpace rest with
      | ':' :: rest =>
        let (value, rest) ← item? (skipSpace rest)
        match skipSpace rest with
        | ',' :: rest => members? item? (done.insert name value) bound rest
        | '\x7d' :: rest => pure (done.insert name value, rest)
        | _ => none
      | _ => none
    | _ => none

/-- A value at the start of a text, its containers nested at most `depth` deep. -/
def value? (depth : Nat) (text : List Char) : Option (Json × List Char) :=
  match text with
  | 'n' :: 'u' :: 'l' :: 'l' :: rest => some (.null, rest)
  | 't' :: 'r' :: 'u' :: 'e' :: rest => some (.bool true, rest)
  | 'f' :: 'a' :: 'l' :: 's' :: 'e' :: rest => some (.bool false, rest)
  | '"' :: rest => (text? [] rest).map fun (s, r) => (.string s, r)
  | '-' :: rest => (number? true rest).map fun (n, r) => (.number n, r)
  | '[' :: rest =>
    match depth with
    | 0 => none
    | depth + 1 =>
      match skipSpace rest with
      | ']' :: rest => some (.array [], rest)
      | rest => (items? (value? depth) [] rest.length rest).map fun (is, r) => (.array is, r)
  | '\x7b' :: rest =>
    match depth with
    | 0 => none
    | depth + 1 =>
      match skipSpace rest with
      | '\x7d' :: rest => some (.object [], rest)
      | rest => (members? (value? depth) [] rest.length rest).map fun (ms, r) => (.object ms, r)
  | text => (number? false text).map fun (n, r) => (.number n, r)

/-- How deep containers may be nested. -/
def maxDepth : Nat := 127

/-- One value alone, its containers nested at most `depth` deep. -/
def parseWithin? (depth : Nat) (text : List Char) : Option Json := do
  let (value, rest) ← value? depth (skipSpace text)
  if (skipSpace rest).isEmpty then pure value else none

def parse? (text : String) : Option Json :=
  parseWithin? maxDepth text.toList

end Parley.Json
