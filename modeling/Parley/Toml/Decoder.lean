import Parley.Toml.Basic
import Parley.Word

/-!
# Decoding TOML records

A record is read from a table by the names of its fields, other keys being ignored, or from an
array by their order. Every field may be missing from a table. A date or time counts as a table
without known keys.
-/

namespace Parley.Toml

def string? : Toml → Option String
  | .string s => some s
  | _ => none

def bool? : Toml → Option Bool
  | .bool b => some b
  | _ => none

/-- An integer that fits. -/
def integerThat? (fits : Int → Bool) : Toml → Option Int
  | .integer i => if fits i then some i else none
  | _ => none

def int64? : Toml → Option Int := integerThat? Word.isInt64

def nat64? (value : Toml) : Option Nat := (integerThat? Word.isNat64 value).map Int.toNat

def nat32? (value : Toml) : Option Nat := (integerThat? Word.isNat32 value).map Int.toNat

def list? {α : Type} (item? : Toml → Option α) : Toml → Option (List α)
  | .array items => items.mapM item?
  | _ => none

/-- The fields of a record, by name. -/
def fields? (names : List String) : Toml → Option Members
  | .table members => some members
  | .moment _ => some []
  | .array items => if names.length ≤ items.length then some (names.zip items) else none
  | _ => none

/-- A field that may be missing. -/
def Members.optional {α : Type} (members : Members) (name : String) (decode : Toml → Option α) :
    Option (Option α) :=
  match members.find? name with
  | none => some none
  | some value => (decode value).map some

/-- A field with its value when it is missing. -/
def Members.withDefault {α : Type} (members : Members) (name : String)
    (decode : Toml → Option α) (default : α) : Option α :=
  (members.optional name decode).map (·.getD default)

end Parley.Toml
