import Parley.Decimal.Binary

/-!
# TOML values

What a TOML document can hold. Dates and times are kept as they were written.
-/

namespace Parley

/-- A binary fraction, or what lies beyond. -/
inductive Toml.Real where
  | finite (value : Decimal.Binary)
  | infinite (negative : Bool)
  | undefined
  deriving DecidableEq, Repr

inductive Toml where
  | string (value : String)
  | integer (value : Int)
  | real (value : Toml.Real)
  | bool (value : Bool)
  | moment (written : String)
  | array (items : List Toml)
  | table (members : List (String × Toml))
  deriving Repr, Inhabited

namespace Toml

abbrev Members := List (String × Toml)

namespace Members

def find? : Members → String → Option Toml
  | [], _ => none
  | (name, value) :: rest, key => if name = key then some value else find? rest key

end Members

/-- Tab, what ASCII shows, and all beyond ASCII. -/
def isPlain (c : Char) : Bool :=
  c == '\t' || (' ' ≤ c && c ≤ '~') || '\x80' ≤ c

def isSpace (c : Char) : Bool := c == ' ' || c == '\t'

def skipSpace (text : List Char) : List Char := text.dropWhile isSpace

/-- What follows a line break at the start of a text. -/
def lineBreak? : List Char → Option (List Char)
  | '\n' :: rest => some rest
  | '\r' :: '\n' :: rest => some rest
  | _ => none

/-- What is left after blanks, comments and line breaks. A comment ends with its line. -/
def skipLines : List Char → Option (List Char)
  | [] => some []
  | '\n' :: rest => skipLines rest
  | '\r' :: rest =>
    match rest with
    | '\n' :: rest => skipLines rest
    | _ => none
  | '#' :: rest =>
    let rest' := rest.dropWhile isPlain
    if (lineBreak? rest').isSome then skipLines rest' else none
  | c :: rest => if isSpace c then skipLines rest else some (c :: rest)
termination_by text => text.length
decreasing_by
  all_goals simp only [List.length_cons]
  · omega
  · omega
  · have := (List.dropWhile_suffix isPlain (l := rest)).length_le
    omega
  · omega

end Toml

end Parley
