import Parley.Decimal.Binary

/-!
# JSON values

A number is an integer of 64 bits, signed or unsigned, or a binary fraction. The members of an
object stand in a list; `Json.Members.insert` keeps such a list sorted by name and without
repetition, the later value replacing the earlier one.
-/

namespace Parley

namespace Json

/-- Integers are kept exactly; all other numbers are binary fractions. -/
inductive Number where
  | integer (value : Int)
  | real (value : Decimal.Binary)
  deriving DecidableEq, Repr

end Json

inductive Json where
  | null
  | bool (value : Bool)
  | number (value : Json.Number)
  | string (value : String)
  | array (items : List Json)
  | object (members : List (String × Json))
  deriving Repr, Inhabited

namespace Json

abbrev Members := List (String × Json)

namespace Members

def find? : Members → String → Option Json
  | [], _ => none
  | (name, value) :: rest, key => if name = key then some value else find? rest key

def contains (members : Members) (key : String) : Bool :=
  (members.find? key).isSome

/-- Adds a member at its place in the order of names, or replaces the one of that name. -/
def insert : Members → String → Json → Members
  | [], key, value => [(key, value)]
  | (name, old) :: rest, key, value =>
    if key = name then (key, value) :: rest
    else if key < name then (key, value) :: (name, old) :: rest
    else (name, old) :: insert rest key value

/-- Adds the members whose names are still free. -/
def addMissing (members extra : Members) : Members :=
  extra.foldl (fun acc m => if acc.contains m.1 then acc else acc.insert m.1 m.2) members

/-- Sorted members, the last of each name winning. -/
def ofList (members : List (String × Json)) : Members :=
  members.foldl (fun acc m => acc.insert m.1 m.2) []

def names (members : Members) : List String :=
  members.map Prod.fst

end Members

def ofInt (i : Int) : Json := .number (.integer i)

def ofNat (n : Nat) : Json := .number (.integer n)

/-- The value, or null for none. -/
def ofOption {α : Type} (encode : α → Json) : Option α → Json
  | none => .null
  | some a => encode a

/-- The word for the sort of a value. -/
def kind : Json → String
  | .null => "null"
  | .bool _ => "bool"
  | .number _ => "number"
  | .string _ => "string"
  | .array _ => "array"
  | .object _ => "object"

end Json

end Parley
