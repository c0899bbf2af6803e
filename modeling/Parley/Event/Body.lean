import Parley.Text.Digit
import Parley.Text.Utf8

/-!
# Message bodies

A body is any sequence of bytes. One that is a text is kept as such.
-/

namespace Parley

inductive Body where
  | text (content : String)
  | binary (bytes : List UInt8)
  deriving DecidableEq, Repr

namespace Body

def ofBytes (bytes : List UInt8) : Body :=
  match String.fromUTF8? ⟨bytes.toArray⟩ with
  | some content => .text content
  | none => .binary bytes

def bytes : Body → List UInt8
  | .text content => content.toUTF8.toList
  | .binary bytes => bytes

/-- The text, with the replacement character in place of what is none. -/
def shown : Body → String
  | .text content => content
  | .binary bytes => String.ofList (Text.charsOfBytes bytes)

/-- The bytes as pairs of hexadecimal digits. -/
def hex (body : Body) : String := Text.hexOfBytes body.bytes

def ofHex? (text : String) : Option Body := (Text.bytesOfHex? text.toList).map ofBytes

end Body

end Parley
