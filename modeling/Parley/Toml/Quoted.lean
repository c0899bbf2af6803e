import Parley.Text.Digit
import Parley.Toml.Basic

/-!
# Quoted texts in TOML

A text stands in double quotes, with escapes, or in single quotes, without. Within three quotes
of either sort it may run over several lines; a line break directly after the opening is left
out, and up to two quotes may stand before the closing.
-/

namespace Parley.Toml

open Text (hexValue?)

/-- The character whose number stands in exactly `count` hexadecimal digits. -/
def hexChar? (count : Nat) (text : List Char) : Option (Char × Nat) := do
  let digits ← (text.take count).mapM hexValue?
  let n := digits.foldl (fun n d => 16 * n + d) 0
  if digits.length = count ∧ n.isValidChar then pure (Char.ofNat n, count + 1) else none

/-- The character of an escape after its backslash, and the length of the escape. -/
def escape? : List Char → Option (Char × Nat)
  | 'b' :: _ => some ('\x08', 1)
  | 't' :: _ => some ('\t', 1)
  | 'n' :: _ => some ('\n', 1)
  | 'f' :: _ => some ('\x0c', 1)
  | 'r' :: _ => some ('\r', 1)
  | '"' :: _ => some ('"', 1)
  | '\\' :: _ => some ('\\', 1)
  | 'u' :: rest => hexChar? 4 rest
  | 'U' :: rest => hexChar? 8 rest
  | _ => none

/-- The rest of a text in double quotes. -/
def basic? (done : List Char) : List Char → Option (List Char × List Char)
  | [] => none
  | '"' :: rest => some (done.reverse, rest)
  | '\\' :: rest =>
    match escape? rest with
    | some (c, n) => basic? (c :: done) (rest.drop n)
    | none => none
  | c :: rest => if isPlain c then basic? (c :: done) rest else none
termination_by text => text.length
decreasing_by
  all_goals simp only [List.length_cons, List.length_drop]; omega

/-- The rest of a text in single quotes. -/
def literal? (text : List Char) : Option (List Char × List Char) :=
  match text.dropWhile fun c => isPlain c && c != '\'' with
  | '\'' :: rest => some (text.takeWhile fun c => isPlain c && c != '\'', rest)
  | _ => none

/-- What follows a backslash that ends its line: all blanks and line breaks are left out. -/
def continuation? (text : List Char) : Option (List Char) := do
  let rest ← lineBreak? (skipSpace text)
  pure (blankLines rest)
where
  blankLines : List Char → List Char
    | '\r' :: '\n' :: rest => blankLines rest
    | c :: rest => if c = '\n' ∨ isSpace c then blankLines rest else c :: rest
    | [] => []

/-- Up to two quotes that belong to a text, before its three closing ones were taken. -/
def closing (quote : Char) (done : List Char) : List Char → List Char × List Char
  | a :: b :: rest =>
    if a = quote then
      if b = quote then ((quote :: quote :: done).reverse, rest)
      else ((quote :: done).reverse, b :: rest)
    else (done.reverse, a :: b :: rest)
  | [a] => if a = quote then ((quote :: done).reverse, []) else (done.reverse, [a])
  | [] => (done.reverse, [])

/-- The rest of a text in three quotes, of which at most `bound` characters are read. -/
def manyLines? (quote : Char) (done : List Char) :
    Nat → List Char → Option (List Char × List Char)
  | 0, _ => none
  | bound + 1, text =>
    match text with
    | [] => none
    | '\\' :: rest =>
      if quote = '\'' then manyLines? quote ('\\' :: done) bound rest
      else match continuation? rest with
        | some rest => manyLines? quote done bound rest
        | none =>
          match escape? rest with
          | some (c, n) => manyLines? quote (c :: done) bound (rest.drop n)
          | none => none
    | c :: rest =>
      if [quote, quote, quote].isPrefixOf text then some (closing quote done (text.drop 3))
      else match lineBreak? text with
        | some rest => manyLines? quote ('\n' :: done) bound rest
        | none => if isPlain c then manyLines? quote (c :: done) bound rest else none

/-- The text after three opening quotes. -/
def afterThree? (quote : Char) (text : List Char) : Option (List Char × List Char) :=
  let text := (lineBreak? text).getD text
  manyLines? quote [] (text.length + 1) text

/-- A quoted text on one line. -/
def quotedLine? : List Char → Option (List Char × List Char)
  | '"' :: rest => basic? [] rest
  | '\'' :: rest => literal? rest
  | _ => none

def quoted? : List Char → Option (List Char × List Char)
  | '"' :: '"' :: '"' :: rest => afterThree? '"' rest
  | '\'' :: '\'' :: '\'' :: rest => afterThree? '\'' rest
  | text => quotedLine? text

end Parley.Toml
