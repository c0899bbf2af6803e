import Parley.Toml.Number
import Parley.Toml.Quoted
import Parley.Toml.Table

/-!
# Reading TOML

A document is a list of lines, each a header or an assignment. `parse?` gives the table that the
lines build up. Arrays and inline tables may be nested 79 deep, and a key has as many parts at
most.
-/

namespace Parley.Toml

/-- How deep containers may be nested, and how many parts a key may have. -/
def maxDepth : Nat := 79

def isBareKey (c : Char) : Bool :=
  ('a' ≤ c && c ≤ 'z') || ('A' ≤ c && c ≤ 'Z') || Text.isDigit c || c == '-' || c == '_'

def simpleKey? (text : List Char) : Option (List Char × List Char) :=
  match text.takeWhile isBareKey with
  | [] => quotedLine? text
  | key => some (key, text.dropWhile isBareKey)

/-- The parts of a key, of which at most `bound` are read, with blanks around each. -/
def keyParts? : Nat → List Char → Option (List String × List Char)
  | 0, _ => none
  | bound + 1, text => do
    let (part, rest) ← simpleKey? (skipSpace text)
    match skipSpace rest with
    | '.' :: rest => (keyParts? bound rest).map fun (ps, r) => (String.ofList part :: ps, r)
    | rest => pure ([String.ofList part], rest)

/-- A key: the path before its last part, and that part. -/
def key? (text : List Char) : Option (List String × String × List Char) := do
  let (parts, rest) ← keyParts? maxDepth text
  pure (parts.dropLast, ← parts.getLast?, rest)

/-- The items of an array after its opening bracket, of which at most `bound` are read. -/
def items? (item? : List Char → Option (Toml × List Char)) (done : List Toml) :
    Nat → List Char → Option (List Toml × List Char)
  | 0, _ => none
  | bound + 1, text => do
    match ← skipLines text with
    | ']' :: rest => pure (done.reverse, rest)
    | text =>
      let (value, rest) ← item? text
      match ← skipLines rest with
      | ',' :: rest => items? item? (value :: done) bound rest
      | ']' :: rest => pure ((value :: done).reverse, rest)
      | _ => none

/-- The members of an inline table, of which at most `bound` are read. -/
def members? (item? : List Char → Option (Toml × List Char)) (done : Nodes) :
    Nat → List Char → Option (Nodes × List Char)
  | 0, _ => none
  | bound + 1, text => do
    let (path, key, rest) ← key? text
    let (value, rest) ← item? (skipSpace (← mark? '=' rest))
    let done ← Nodes.assign path key value .header done
    match skipSpace rest with
    | ',' :: rest => members? item? done bound rest
    | '\x7d' :: rest => pure (done, rest)
    | _ => none

/-- A value, its containers nested at most `depth` deep. -/
def value? (depth : Nat) (text : List Char) : Option (Toml × List Char) :=
  match text with
  | '[' :: rest =>
    match depth with
    | 0 => none
    | depth + 1 => (items? (value? depth) [] rest.length rest).map fun (is, r) => (.array is, r)
  | '\x7b' :: rest =>
    match depth with
    | 0 => none
    | depth + 1 =>
      match skipSpace rest with
      | '\x7d' :: rest => some (.table [], rest)
      | rest => (members? (value? depth) [] rest.length rest).map fun (ms, r) =>
        (.table (Node.membersToToml ms), r)
  | 't' :: 'r' :: 'u' :: 'e' :: rest => some (.bool true, rest)
  | 'f' :: 'a' :: 'l' :: 's' :: 'e' :: rest => some (.bool false, rest)
  | text =>
    match quoted? text with
    | some (s, rest) => some (.string (String.ofList s), rest)
    | none =>
      match moment? text with
      | some found => some found
      | none => number? text

inductive Line where
  | header (path : List String) (key : String)
  | itemHeader (path : List String) (key : String)
  | assignment (path : List String) (key : String) (value : Toml)

/-- The end of a line, after blanks and a comment. -/
def lineEnd? (text : List Char) : Option (List Char) :=
  let rest := match skipSpace text with
    | '#' :: rest => rest.dropWhile isPlain
    | rest => rest
  if rest.isEmpty then some [] else lineBreak? rest

/-- A line that is not empty. -/
def line? (text : List Char) : Option (Line × List Char) :=
  match text with
  | '[' :: '[' :: rest => do
    let (path, key, rest) ← key? rest
    pure (.itemHeader path key, ← lineEnd? (← mark? ']' (← mark? ']' rest)))
  | '[' :: rest => do
    let (path, key, rest) ← key? rest
    pure (.header path key, ← lineEnd? (← mark? ']' rest))
  | text => do
    let (path, key, rest) ← key? text
    let (value, rest) ← value? maxDepth (skipSpace (← mark? '=' rest))
    pure (.assignment path key value, ← lineEnd? rest)

/-- The lines of a document, of which at most `bound` are read. -/
def lines? : Nat → List Char → Option (List Line)
  | 0, _ => none
  | bound + 1, text =>
    match skipSpace text with
    | [] => some []
    | c :: rest =>
      if c = '#' ∨ (lineBreak? (c :: rest)).isSome then do
        lines? bound (← lineEnd? (c :: rest))
      else do
        let (line, rest) ← line? (c :: rest)
        (lines? bound rest).map (line :: ·)

/-- Builds up a document under the header `table`. -/
def build (table : List String) (members : Nodes) : List Line → Option Nodes
  | [] => some members
  | .header path key :: rest => do build (path ++ [key]) (← members.openTable path key) rest
  | .itemHeader path key :: rest => do build (path ++ [key]) (← members.openItem path key) rest
  | .assignment path key value :: rest => do
    build table (← members.assignIn table path key value) rest

/-- The table of a document, which may begin with a byte order mark. -/
def parse? (text : String) : Option Members := do
  let text := match text.toList with
    | '\ufeff' :: rest => rest
    | text => text
  let lines ← lines? (text.length + 1) text
  pure (Node.membersToToml (← build [] [] lines))

end Parley.Toml
