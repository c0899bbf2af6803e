import Parley.Error
import Parley.Event.Body
import Parley.Json.Parser
import Parley.Json.Printer
import Parley.Text.Blank
import Parley.Text.Digit
import Parley.Uuid
import Parley.Word

/-!
# Event payloads

The payload of an event is a JSON object. Its fields are read by type: a field that is missing or
null is absent, and one of another type is an error. An integer may also be written as a text.
-/

namespace Parley

structure Payload where
  members : Json.Members
  deriving Repr, Inhabited

namespace Payload

def empty : Payload := ⟨[]⟩

/-- The error of a body that is no JSON text. -/
def malformed : Error := .serialization "malformed JSON"

def notAnObject (value : Json) : Error :=
  .serialization s!"event payload must be a JSON object, got {value.kind}"

def ofJson : Json → Except Error Payload
  | .object members => .ok ⟨members⟩
  | other => .error (notAnObject other)

def ofBody : Body → Except Error Payload
  | .text content =>
    match Json.parse? content with
    | some value => ofJson value
    | none => .error malformed
  | .binary _ => .error malformed

def toText (payload : Payload) : String := (Json.object payload.members).render

def toBody (payload : Payload) : Body := .text payload.toText

def find? (payload : Payload) (key : String) : Option Json := payload.members.find? key

def insert (payload : Payload) (key : String) (value : Json) : Payload :=
  ⟨payload.members.insert key value⟩

def insertText (payload : Payload) (key value : String) : Payload :=
  payload.insert key (.string value)

/-- Adds a field if there is a value. -/
def insertSome (payload : Payload) (key : String) : Option String → Payload
  | none => payload
  | some value => payload.insertText key value

def mismatch (key expected : String) (actual : Json) : Error :=
  .validation ("field `" ++ key ++ "` expected " ++ expected ++ ", got " ++ actual.kind)

def invalidUuid (key : String) : Error :=
  .validation ("field `" ++ key ++ "` is not a valid uuid")

def invalidInteger (key text : String) : Error :=
  .validation ("field `" ++ key ++ "` is not an integer: " ++ text)

def text? (payload : Payload) (key : String) : Except Error (Option String) :=
  match payload.find? key with
  | none | some .null => .ok none
  | some (.string s) => .ok (some s)
  | some other => .error (mismatch key "string" other)

def uuid? (payload : Payload) (key : String) : Except Error (Option Uuid) := do
  match ← payload.text? key with
  | none => pure none
  | some s =>
    match Uuid.parse? s with
    | some id => pure (some id)
    | none => throw (invalidUuid key)

/-- An integer of 64 bits in decimal. -/
def integerText? (text : List Char) : Option Int :=
  (Text.integer? text).filter Word.isInt64

def integer? (payload : Payload) (key : String) : Except Error (Option Int) :=
  match payload.find? key with
  | none | some .null => .ok none
  | some (.string s) =>
    match integerText? (Text.trim s.toList) with
    | some i => .ok (some i)
    | none => .error (invalidInteger key s)
  | some (.number n) =>
    match n with
    | .integer i =>
      if Word.isInt64 i then .ok (some i) else .error (mismatch key "integer" (.number n))
    | .real _ => .error (mismatch key "integer" (.number n))
  | some other => .error (mismatch key "integer" other)

/-- A text that is not blank. -/
def visibleText? (payload : Payload) (key : String) : Except Error (Option String) :=
  (payload.text? key).map fun found => found.filter fun s => !Text.allBlank s.toList

end Payload

end Parley
