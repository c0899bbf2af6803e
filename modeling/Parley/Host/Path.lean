import Parley.Text.Blank

/-!
# Paths

The last part of a path and what comes before it. Separators and single dots at the end count for
nothing; a path whose last part is no name, such as `a/..`, has none.
-/

namespace Parley.Path

/-- Drops separators and single dots from a reversed path, but not a dot that is all of it. -/
def dropIdle : List Char → List Char
  | '/' :: rest => dropIdle rest
  | '.' :: '/' :: rest => dropIdle rest
  | rest => rest

def trimEnd (path : List Char) : List Char := (dropIdle path.reverse).reverse

def isSeparator (c : Char) : Bool := c == '/'

/-- The last part, if it is a name. -/
def name? (path : String) : Option String :=
  let last := (dropIdle path.toList.reverse).takeWhile (!isSeparator ·)
  if last = [] ∨ last = ['.'] ∨ last = ['.', '.'] then none else some (String.ofList last.reverse)

/-- What comes before the last part; empty if that is all. -/
def parent (path : String) : String :=
  let above := Text.dropEndWhile (!isSeparator ·) (trimEnd path.toList)
  let trimmed := trimEnd above
  String.ofList (if trimmed = [] ∧ above ≠ [] then ['/'] else trimmed)

/-- The parts between separators. -/
def parts (path : String) : List String :=
  (Text.splitAt '/' path.toList).map String.ofList

end Parley.Path
