import Parley.Calendar.Timestamp
import Parley.Json.Basic
import Parley.Uuid
import Parley.Word

/-!
# Decoding records

A record is read from an object by the names of its fields, other members being ignored, or from
an array by their order, without extra items. An optional field of an object may be missing or
null. Integers have a range and are refused when written as fractions.
-/

namespace Parley

/-- A type whose values have names. -/
class Named (α : Type) where
  all : List α
  name : α → String

namespace Named

variable {α : Type} [Named α]

/-- The value of a name. -/
def ofName? (name : String) : Option α :=
  (all : List α).find? fun a => Named.name a == name

/-- The name in quotes, or as the one member of an object with a null value. -/
def ofJson? : Json → Option α
  | .string name => ofName? name
  | .object [(name, .null)] => ofName? name
  | _ => none

def toJson (a : α) : Json := .string (Named.name a)

end Named

namespace Json

def string? : Json → Option String
  | .string s => some s
  | _ => none

def bool? : Json → Option Bool
  | .bool b => some b
  | _ => none

/-- An integer that fits. -/
def integerThat? (fits : Int → Bool) : Json → Option Int
  | .number (.integer i) => if fits i then some i else none
  | _ => none

def int64? : Json → Option Int := integerThat? Word.isInt64

def int32? : Json → Option Int := integerThat? Word.isInt32

def nat64? (value : Json) : Option Nat := (integerThat? Word.isNat64 value).map Int.toNat

def nat32? (value : Json) : Option Nat := (integerThat? Word.isNat32 value).map Int.toNat

def uuid? : Json → Option Uuid
  | .string s => Uuid.parse? s
  | _ => none

def instant? : Json → Option Calendar.Instant
  | .string s => Calendar.Timestamp.parse? s
  | _ => none

def list? {α : Type} (item? : Json → Option α) : Json → Option (List α)
  | .array items => items.mapM item?
  | _ => none

def object? : Json → Option Members
  | .object members => some members
  | _ => none

def ofUuid (id : Uuid) : Json := .string (toString id)

def ofInstant (t : Calendar.Instant) : Json := .string t.utcText

def ofList {α : Type} (encode : α → Json) (items : List α) : Json := .array (items.map encode)

/-- The fields of a record, by name. -/
structure Fields where
  /-- Whether the fields were given in order instead of by name. -/
  ordered : Bool
  members : Members

namespace Fields

variable {α : Type}

def ofJson? (names : List String) : Json → Option Fields
  | .object members => some ⟨false, members⟩
  | .array items =>
    if items.length ≤ names.length then some ⟨true, names.zip items⟩ else none
  | _ => none

def required (fields : Fields) (name : String) (decode : Json → Option α) : Option α :=
  (fields.members.find? name).bind decode

def optional (fields : Fields) (name : String) (decode : Json → Option α) : Option (Option α) :=
  match fields.members.find? name with
  | none => if fields.ordered then none else some none
  | some .null => some none
  | some value => (decode value).map some

def withDefault (fields : Fields) (name : String) (decode : Json → Option α) (default : α) :
    Option α :=
  match fields.members.find? name with
  | none => some default
  | some value => decode value

end Fields

end Json

end Parley
