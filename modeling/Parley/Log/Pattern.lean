import Parley.Text.Digit

/-!
# Patterns for the values of fields

A directive may ask for the value of a field, as a number, a truth value or a regular expression.
No record has such a field, so of a pattern it only matters whether it is one.
-/

namespace Parley.Log.Pattern

/-- Letters that mean something behind a backslash. -/
def escapes : String := "dDsSwWbBAznrtfva"

/-- Whether a character may follow a backslash. -/
def isEscapable (c : Char) : Bool :=
  escapes.toList.contains c || (c.toNat < 128 && !c.isAlphanum)

/-- What is in front of the reader: an expression in so many open groups, in which something that
can be repeated has just ended or not, or a class of characters in so many open brackets. -/
inductive Place where
  | expression (groups : Nat) (repeatable : Bool)
  | classStart (groups brackets : Nat)
  | inClass (groups brackets : Nat)
  deriving DecidableEq, Repr

/-- Whether groups and classes are closed and nothing is repeated that is not there. -/
def isClosed : Place → List Char → Bool
  | .expression groups _, [] => groups == 0
  | .classStart .., [] | .inClass .., [] => false
  | .expression groups repeatable, c :: rest =>
    if c = '\\' then
      match rest with
      | escaped :: rest => isEscapable escaped && isClosed (.expression groups true) rest
      | [] => false
    else if c = '(' then isClosed (.expression (groups + 1) false) rest
    else if c = ')' then groups != 0 && isClosed (.expression (groups - 1) true) rest
    else if c = '|' then isClosed (.expression groups false) rest
    else if c = '*' || c = '+' || c = '?' then repeatable && isClosed (.expression groups true) rest
    else if c = '\x7b' then false
    else if c = '[' then isClosed (.classStart groups 1) rest
    else isClosed (.expression groups true) rest
  | .classStart groups brackets, c :: rest =>
    if c = '^' then isClosed (.classStart groups brackets) rest
    else if c = ']' then isClosed (.inClass groups brackets) rest
    else isClosed (.inClass groups brackets) (c :: rest)
  | .inClass groups brackets, c :: rest =>
    if c = '\\' then
      match rest with
      | escaped :: rest => isEscapable escaped && isClosed (.inClass groups brackets) rest
      | [] => false
    else if c = '[' then isClosed (.classStart groups (brackets + 1)) rest
    else if c ≠ ']' then isClosed (.inClass groups brackets) rest
    else if brackets = 1 then isClosed (.expression groups true) rest
    else isClosed (.inClass groups (brackets - 1)) rest
termination_by place text =>
  (text.length, match place with | .classStart .. => 1 | _ => 0)

/-- Whether a text is the value that a field may be asked for. -/
def isValue (text : List Char) : Bool :=
  (Text.integer? text).isSome || isClosed (.expression 0 false) text

end Parley.Log.Pattern
