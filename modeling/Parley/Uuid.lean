import Parley.Text.Digit

/-!
# Identifiers

An identifier is a word of 128 bits. It is written as 32 small hexadecimal digits in groups of
8, 4, 4, 4 and 12. It is read in that form, in braces, after `urn:uuid:`, or as 32 digits without
hyphens, with letters of either case.
-/

namespace Parley

structure Uuid where
  bits : BitVec 128
  deriving DecidableEq, Repr, Inhabited

namespace Uuid

instance : LT Uuid := ⟨fun a b => a.bits < b.bits⟩

instance (a b : Uuid) : Decidable (a < b) := inferInstanceAs (Decidable (a.bits < b.bits))

/-- The hexadecimal digits of a number, most significant first. -/
def hexDigits (n : Nat) : Nat → List Char
  | 0 => []
  | count + 1 => Text.hexDigit (n / Nat.pow 16 count % 16) :: hexDigits n count

/-- The five groups of digits joined by hyphens. -/
def hyphenate (digits : List Char) : List Char :=
  digits.take 8 ++ '-' :: ((digits.drop 8).take 4 ++ '-' :: ((digits.drop 12).take 4 ++
    '-' :: ((digits.drop 16).take 4 ++ '-' :: digits.drop 20)))

def toChars (id : Uuid) : List Char :=
  hyphenate (hexDigits id.bits.toNat 32)

instance : ToString Uuid := ⟨fun id => String.ofList id.toChars⟩

/-- The number of a text of hexadecimal digits. -/
def hexNumber? : Nat → List Char → Option Nat
  | n, [] => some n
  | n, c :: rest => (Text.hexValue? c).bind fun d => hexNumber? (16 * n + d) rest

def ofDigits? (digits : List Char) : Option Uuid :=
  if digits.length = 32 then (hexNumber? 0 digits).map fun n => ⟨BitVec.ofNat 128 n⟩ else none

def ofHyphenated? (text : List Char) : Option Uuid :=
  let digits := text.take 8 ++ (text.drop 9).take 4 ++ (text.drop 14).take 4 ++
    (text.drop 19).take 4 ++ text.drop 24
  if text.length = 36 ∧ hyphenate digits = text then ofDigits? digits else none

/-- What may stand before the digits, in any case. -/
def namespaceMark : List Char := "urn:uuid:".toList

def ofChars? (text : List Char) : Option Uuid :=
  if text.length = 32 then ofDigits? text
  else if (text.take 9).map Char.toLower = namespaceMark then ofHyphenated? (text.drop 9)
  else match text with
    | '\x7b' :: rest =>
      if rest.getLast? = some '\x7d' then ofHyphenated? rest.dropLast else none
    | text => ofHyphenated? text

def parse? (text : String) : Option Uuid :=
  ofChars? text.toList

/-- The identifier handed out as the `n`-th of a supply. -/
def ofSerial (n : Nat) : Uuid :=
  ⟨BitVec.ofNat 128 (0x40008000 * 0x1000000000000 + n % 0x1000000000000)⟩

end Uuid

end Parley
