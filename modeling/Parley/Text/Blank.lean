/-!
# Blank characters

White space in the wide sense: the ASCII blanks, the separators and the next-line control. A
text is blank when nothing remains after trimming it at both ends.
-/

namespace Parley.Text

def isBlank (c : Char) : Bool :=
  let n := c.toNat
  (9 ≤ n && n ≤ 13) || n == 0x20 || n == 0x85 || n == 0xA0 || n == 0x1680 ||
    (0x2000 ≤ n && n ≤ 0x200A) || n == 0x2028 || n == 0x2029 || n == 0x202F || n == 0x205F ||
    n == 0x3000

def trimLeft (text : List Char) : List Char :=
  text.dropWhile isBlank

/-- Drops from the end as long as `p` holds. -/
def dropEndWhile (p : Char → Bool) (text : List Char) : List Char :=
  (text.reverse.dropWhile p).reverse

def trim (text : List Char) : List Char :=
  dropEndWhile isBlank (trimLeft text)

/-- Nothing but blanks. -/
def allBlank (text : List Char) : Bool :=
  text.all isBlank

/-- `text` without `start`, if it begins so. -/
def stripStart? : List Char → List Char → Option (List Char)
  | [], text => some text
  | _ :: _, [] => none
  | p :: start, c :: text => if p = c then stripStart? start text else none

/-- Whether `needle` occurs somewhere in the text. -/
def contains (needle : List Char) : List Char → Bool
  | [] => needle.isEmpty
  | c :: text => needle.isPrefixOf (c :: text) || contains needle text

/-- The pieces between occurrences of `mark`; a text without it is one piece. -/
def splitAt (mark : Char) : List Char → List (List Char)
  | [] => [[]]
  | c :: text =>
    if c = mark then [] :: splitAt mark text
    else match splitAt mark text with
      | [] => [[c]]
      | piece :: pieces => (c :: piece) :: pieces

end Parley.Text
