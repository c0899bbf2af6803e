/-!
# Files as they are found

A path leads nowhere, to something that cannot be read, to a text, or to bytes that are no text.
-/

namespace Parley

/-- What stands at a path. -/
inductive FileState where
  | missing
  | unreadable
  | text (content : String)
  | binary (bytes : List UInt8)
  deriving DecidableEq, Repr

namespace FileState

def content? : FileState → Option String
  | text content => some content
  | missing | unreadable | binary _ => none

/-- The lines of some bytes up to the first that is no text, `line` being the bytes so far of the
line that is read, in reverse. -/
def textLines (line : List UInt8) : List UInt8 → String
  | [] => (decode line).getD ""
  | b :: bytes =>
    if b = 10 then
      match decode (b :: line) with
      | some content => content ++ textLines [] bytes
      | none => ""
    else textLines (b :: line) bytes
where
  decode (reversed : List UInt8) : Option String := String.fromUTF8? ⟨reversed.reverse.toArray⟩

/-- The content up to the first line that is no text. -/
def readable : FileState → String
  | text content => content
  | binary bytes => textLines [] bytes
  | missing | unreadable => ""

end FileState

/-- What stands at each path. -/
abbrev Files := String → FileState

end Parley
