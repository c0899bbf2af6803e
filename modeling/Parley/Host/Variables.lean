import Parley.Config.Environment
import Parley.Text.Letter.Word

/-!
# Documents of variables

A document gives variables one a line, as `NAME=value` with an optional `export` before it. Values
can be quoted, weakly or strongly, over several lines; outside strong quotes, `$NAME` and
`${NAME}` stand for the values of other variables. A comment begins with `#` at the start of
a line or after a blank. Reading ends at the first line that cannot be read. Variables that are
set already keep their values.
-/

namespace Parley.Variables

/-- What the next character of a line is part of. -/
inductive Phase where
  | plain
  | blank
  | escaped
  | weak
  | weakEscaped
  | strong
  | strongEscaped
  deriving DecidableEq, Repr

namespace Phase

/-- After a character outside quotes. -/
def afterPlain (c : Char) : Phase :=
  if c = '\\' then escaped
  else if c = '"' then weak
  else if c = '\'' then strong
  else plain

/-- After one more character; nothing if a comment begins with it. -/
def next : Phase → Char → Option Phase
  | blank, c => if c = '#' then none else some (afterPlain c)
  | plain, c =>
    some (if Text.isBlank c && c != '\n' && c != '\r' then blank else afterPlain c)
  | escaped, _ => some plain
  | weak, c => some (if c = '\\' then weakEscaped else if c = '"' then plain else weak)
  | weakEscaped, _ => some weak
  | strong, c => some (if c = '\\' then strongEscaped else if c = '\'' then plain else strong)
  | strongEscaped, _ => some strong

end Phase

/-- What comes before a comment, and the phase at the end if there is no comment. -/
def cut : Phase → List Char → List Char × Option Phase
  | phase, [] => ([], some phase)
  | phase, c :: rest =>
    match phase.next c with
    | none => ([], none)
    | some phase =>
      let (kept, last) := cut phase rest
      (c :: kept, last)

/-- The lines of a text, each with the line feed that ends it. -/
def linesOf (text : List Char) : List (List Char) :=
  match (Text.splitAt '\n' text).reverse with
  | [] => []
  | last :: ended =>
    (ended.reverse.map (· ++ ['\n'])) ++ (if last.isEmpty then [] else [last])

/-- Joins lines as long as quotes are open, and drops comments and what is left unfinished. -/
def join (carried : List Char) (phase : Phase) : List (List Char) → List (List Char)
  | [] => []
  | line :: rest =>
    if (Text.trimLeft (carried ++ line)).head? = some '#' then join [] .plain rest
    else match cut phase line with
      | (kept, none) => (carried ++ kept) :: join [] .plain rest
      | (_, some .plain) => (carried ++ line) :: join [] .plain rest
      | (_, some phase) => join (carried ++ line) phase rest

inductive Piece where
  | char (c : Char)
  | reference (name : String)
  deriving DecidableEq, Repr

/-- A value in which references to other variables are left open. -/
abbrev Template := List Piece

/-- What the next character of a value is part of. -/
inductive Mode where
  | text
  | escaped
  | strong
  | reference (name : List Char)
  | braced (name : List Char)
  /-- After the end, where only a comment may follow. -/
  | ended
  deriving DecidableEq, Repr

/-- The character that an escaped one stands for. -/
def unescape? (c : Char) : Option Char :=
  if c = 'n' then some '\n' else if c ∈ ['\\', '\'', '"', '$', ' '] then some c else none

def nameOf (reversed : List Char) : Piece := .reference (String.ofList reversed.reverse)

/-- Reads a value, within weak quotes or not. Names that are being read are reversed. -/
def readValue (weak : Bool) : Mode → List Char → Option Template
  | .text, [] | .escaped, [] => if weak then none else some []
  | .reference name, [] => if weak then none else some [nameOf name]
  | .ended, [] => some []
  | .strong, [] | .braced _, [] => none
  | .text, c :: rest =>
    if c = '$' then readValue weak (.reference []) rest
    else if c = '\\' then readValue weak .escaped rest
    else if c = '"' then readValue (!weak) .text rest
    else if c = '\'' && !weak then readValue weak .strong rest
    else if (c = ' ' || c = '\t') && !weak then readValue weak .ended rest
    else do pure (.char c :: (← readValue weak .text rest))
  | .escaped, c :: rest => do pure (.char (← unescape? c) :: (← readValue weak .text rest))
  | .strong, c :: rest =>
    if c = '\'' then readValue weak .text rest
    else do pure (.char c :: (← readValue weak .strong rest))
  | .reference name, c :: rest =>
    if Letter.isAlphanumeric c then readValue weak (.reference (c :: name)) rest
    else if c = '\x7b' && name.isEmpty then readValue weak (.braced []) rest
    else if c = '$' then do pure (nameOf name :: (← readValue weak (.reference []) rest))
    else do pure (nameOf name :: .char c :: (← readValue weak .text rest))
  | .braced name, c :: rest =>
    if c = '\x7d' then do pure (nameOf name :: (← readValue weak .text rest))
    else readValue weak (.braced (c :: name)) rest
  | .ended, c :: rest =>
    if c = ' ' || c = '\t' then readValue weak .ended rest
    else if c = '#' then some []
    else none

structure Entry where
  name : String
  value : Template
  deriving DecidableEq, Repr

def isAsciiLetter (c : Char) : Bool := ('a' ≤ c && c ≤ 'z') || ('A' ≤ c && c ≤ 'Z')

/-- A name, and what follows it and the blanks after it. -/
def readName : List Char → Option (List Char × List Char)
  | [] => none
  | c :: rest =>
    if isAsciiLetter c || c = '_' then
      let inName (c : Char) : Bool := isAsciiLetter c || Text.isDigit c || c == '_' || c == '.'
      some (c :: rest.takeWhile inName, Text.trimLeft (rest.dropWhile inName))
    else none

def isIdle (line : List Char) : Bool := line.isEmpty || line.head? == some '#'

/-- The variable that a line gives, if it gives one. -/
def readLine (line : List Char) : Option (Option Entry) :=
  let line := Text.trim line
  if isIdle line then some none
  else do
    let (name, rest) ← readName line
    let (name, rest) ←
      if name = "export".toList ∧ rest.head? ≠ some '=' then readName rest else some (name, rest)
    match rest with
    | '=' :: value =>
      let value := Text.trimLeft value
      let value ← if isIdle value then some [] else readValue false .text value
      pure (some ⟨String.ofList name, value⟩)
    | _ => none

/-- The variables of lines up to the first that cannot be read. -/
def readLines : List (List Char) → List Entry
  | [] => []
  | line :: rest =>
    match readLine line with
    | none => []
    | some entry => entry.toList ++ readLines rest

/-- The variables of a document, without the mark that may stand before it. -/
def parse (text : String) : List Entry :=
  let chars := match text.toList with
    | '\ufeff' :: rest => rest
    | chars => chars
  readLines (join [] .plain (linesOf chars))

open Config (Environment)

def Template.expand (template : Template) (env : Environment) : String :=
  String.join (template.map fun piece =>
    match piece with
    | .char c => c.toString
    | .reference name => (env name).getD "")

/-- Sets a variable. -/
def set (env : Environment) (name value : String) : Environment :=
  fun other => if other = name then some value else env other

/-- Sets the variables that are not set already, in order. The value of a variable cannot hold a
null character. -/
def extend? (env : Environment) : List Entry → Option Environment
  | [] => some env
  | entry :: rest =>
    match env entry.name with
    | some _ => extend? env rest
    | none =>
      let value := entry.value.expand env
      if value.toList.contains '\x00' then none else extend? (set env entry.name value) rest

/-- The names of variables that matter for setting those of a document. -/
def names (entries : List Entry) : List String :=
  entries.flatMap fun entry => entry.name :: entry.value.filterMap fun piece =>
    match piece with
    | .char _ => none
    | .reference name => some name

end Parley.Variables
