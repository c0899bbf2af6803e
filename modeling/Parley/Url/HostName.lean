import Parley.Text.Letter.Case
import Parley.Text.Letter.Unassigned
import Parley.Url.HostName.Direction
import Parley.Url.HostName.Ideograph
import Parley.Url.HostName.Joiner
import Parley.Url.HostName.Letter
import Parley.Url.HostName.Symbol
import Parley.Url.Punycode

/-!
# International host names

A name is compared in small letters, ornamental letters standing for the plain ones and invisible
characters for nothing, in normal form. Labels with characters beyond ASCII are written in Punycode
after `xn--`; a label that already claims to be so written has to decode to a label that needs it.
-/

namespace Parley.Url.HostName

/-- Characters that vanish from a name. -/
def ignored : List (Nat × Nat) := [
  (0xAD, 0xAD), (0x34F, 0x34F), (0x115F, 0x1160), (0x17B4, 0x17B5), (0x180B, 0x180F),
   (0x200B, 0x200B), (0x2060, 0x2064), (0x206A, 0x206F), (0x3164, 0x3164), (0xFE00, 0xFE0F),
   (0xFEFF, 0xFEFF), (0xFFA0, 0xFFA0), (0x1BCA0, 0x1BCA3), (0x1D173, 0x1D17A), (0xE0100, 0xE01EF)]

/-- The forms of characters, in rows sorted by their first code points. -/
def forms : List (Nat × String) :=
  letterForms ++ symbolForms ++ ideographForms ++ presentationForms ++ supplementaryForms ++
    supplementaryIdeographForms

/-- The form of a code point in the last row that does not begin behind it. -/
def formIn? (n : Nat) (rows : List (Nat × String)) : Option (List Char) :=
  (rows.takeWhile (·.1 ≤ n)).getLast?.bind fun (first, row) =>
    (Text.splitAt ' ' row.toList)[n - first]?

/-- The form of a character in a name; nothing for a character that vanishes. -/
def mapChar (c : Char) : List Char :=
  if c.toNat < 128 then [Letter.lowerAscii c]
  else if Letter.inRanges ignored c.toNat then []
  else (formIn? c.toNat forms).getD [c]

/-- The form of a text in a name. -/
def mapped (text : List Char) : List Char := normalForm (text.flatMap mapChar)

/-- Characters beyond ASCII that no name may hold: controls, marks of writing direction, characters
for private use, and signs whose plain form holds a dot. -/
def barred : List (Nat × Nat) := [
  (0x80, 0x9F), (0x600, 0x605), (0x61C, 0x61C), (0x6DD, 0x6DD), (0x70F, 0x70F), (0x890, 0x891),
   (0x8E2, 0x8E2), (0x1680, 0x1680), (0x200E, 0x200F), (0x2024, 0x2026), (0x2028, 0x202E),
   (0x2066, 0x2069), (0x2488, 0x249B), (0x2FF0, 0x2FFF), (0x31EF, 0x31EF), (0x33C2, 0x33C2),
   (0x33C7, 0x33C7), (0x33D8, 0x33D8), (0xE000, 0xF8FF), (0xFE12, 0xFE12), (0xFE19, 0xFE19),
   (0xFE30, 0xFE30), (0xFE52, 0xFE52), (0xFFF9, 0xFFFD), (0x110BD, 0x110BD), (0x110CD, 0x110CD),
   (0x13430, 0x1343F), (0x1F100, 0x1F100), (0xE0001, 0xE0001), (0xE0020, 0xE007F),
   (0xF0000, 0xFFFFD), (0x100000, 0x10FFFD)]

/-- ASCII characters that no name may hold. -/
def isDenied (c : Char) : Bool :=
  c.toNat ≤ 32 || c.toNat == 127 || "%#/:<>?@[\\]^|".toList.contains c

def isAllowed (c : Char) : Bool :=
  if c.toNat < 128 then !isDenied c
  else !Letter.inRanges barred c.toNat && !Letter.isUnassigned c

def startsWithMark (label : List Char) : Bool := (label.head?.map Letter.isMark).getD false

def isValid (label : List Char) : Bool :=
  !startsWithMark label && label.all isAllowed && joinersFit [] label

/-- What stands before a label in Punycode. -/
def codeMark : List Char := ['x', 'n', '-', '-']

/-- The longest coded label that is decoded. -/
def longestCode : Nat := 2000

/-- The longest label that is put into code. -/
def longestLabel : Nat := 1000

/-- The characters of a label, which may be in code. -/
def decodeLabel? (label : List Char) : Option (List Char) :=
  match Text.stripStart? codeMark label with
  | none => some label
  | some code => do
    guard (code.length ≤ longestCode)
    let decoded ← Punycode.decode? code
    guard (decoded.any (128 ≤ ·.toNat) && mapped decoded == decoded &&
      !codeMark.isPrefixOf decoded)
    pure decoded

/-- A label in ASCII. -/
def encodeLabel? (label : List Char) : Option (List Char) :=
  if label.all (·.toNat < 128) then some label
  else if longestLabel < label.length then none
  else some (codeMark ++ Punycode.encode label)

def toAscii? (name : List Char) : Option (List Char) := do
  let labels := Text.splitAt '.' (mapped name)
  let decoded ← labels.mapM decodeLabel?
  guard (decoded.all isValid && isDirected decoded)
  pure ((← labels.mapM encodeLabel?).intersperse ['.']).flatten

end Parley.Url.HostName
