import Parley.Json.Basic
import Parley.Decimal.Shortest
import Parley.Text.Digit

/-!
# Writing JSON

`print` writes a value without blanks, the members of an object in the order of their list.
`printIndented` puts every item and member on a line of its own, two columns deeper than its
container; an empty container stays on one line.
-/

namespace Parley.Json

/-- A character inside a quoted text. -/
def quoteChar (c : Char) : List Char :=
  if c = '"' then ['\\', '"']
  else if c = '\\' then ['\\', '\\']
  else if c = '\x08' then ['\\', 'b']
  else if c = '\x0c' then ['\\', 'f']
  else if c = '\n' then ['\\', 'n']
  else if c = '\r' then ['\\', 'r']
  else if c = '\t' then ['\\', 't']
  else if c.toNat < 32 then
    ['\\', 'u', '0', '0', Text.hexDigit (c.toNat / 16), Text.hexDigit (c.toNat % 16)]
  else [c]

def quote (text : String) : List Char :=
  '"' :: (text.toList.flatMap quoteChar ++ ['"'])

def printNumber : Number → String
  | .integer i => toString i
  | .real b => b.render

mutual

/-- The compact text of a value. -/
def print : Json → List Char
  | .null => ['n', 'u', 'l', 'l']
  | .bool true => ['t', 'r', 'u', 'e']
  | .bool false => ['f', 'a', 'l', 's', 'e']
  | .number n => (printNumber n).toList
  | .string s => quote s
  | .array items => '[' :: (printItems items ++ [']'])
  | .object members => '\x7b' :: (printMembers members ++ ['\x7d'])

def printItems : List Json → List Char
  | [] => []
  | [item] => print item
  | item :: rest => print item ++ ',' :: printItems rest

def printMembers : List (String × Json) → List Char
  | [] => []
  | [(name, value)] => quote name ++ ':' :: print value
  | (name, value) :: rest => quote name ++ ':' :: (print value ++ ',' :: printMembers rest)

end

def render (value : Json) : String :=
  String.ofList value.print

/-- A new line, indented to a depth. -/
def newLine (depth : Nat) : List Char :=
  '\n' :: List.replicate (2 * depth) ' '

mutual

def printIndented (depth : Nat) : Json → List Char
  | .array [] => ['[', ']']
  | .array items => '[' :: (indentedItems (depth + 1) items ++ newLine depth ++ [']'])
  | .object [] => ['\x7b', '\x7d']
  | .object members =>
    '\x7b' :: (indentedMembers (depth + 1) members ++ newLine depth ++ ['\x7d'])
  | other => print other

def indentedItems (depth : Nat) : List Json → List Char
  | [] => []
  | [item] => newLine depth ++ printIndented depth item
  | item :: rest => newLine depth ++ printIndented depth item ++ ',' :: indentedItems depth rest

def indentedMembers (depth : Nat) : List (String × Json) → List Char
  | [] => []
  | [(name, value)] => newLine depth ++ quote name ++ ':' :: ' ' :: printIndented depth value
  | (name, value) :: rest =>
    newLine depth ++ quote name ++
      ':' :: ' ' :: (printIndented depth value ++ ',' :: indentedMembers depth rest)

end

end Parley.Json
