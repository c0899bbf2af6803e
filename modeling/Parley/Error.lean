import Parley.Json.Basic

/-!
# Errors

What an operation can report instead of a result. Each sort of error has a caption that opens
its message; the detail follows after a colon.
-/

namespace Parley

inductive Error where
  | internal (detail : String)
  | database (detail : String)
  | cache (detail : String)
  | serialization (detail : String)
  | validation (detail : String)
  | notFound (detail : String)
  | invalidState (detail : String)
  | timeout (detail : String)
  | configuration (detail : String)
  deriving DecidableEq, Repr, Inhabited

namespace Error

/-- The name of the sort, its caption, and the detail. -/
def parts : Error → String × String × String
  | internal d => ("Internal", "Internal error", d)
  | database d => ("Database", "Database error", d)
  | cache d => ("Cache", "Cache error", d)
  | serialization d => ("Serialization", "Serialization error", d)
  | validation d => ("Validation", "Validation error", d)
  | notFound d => ("NotFound", "Not found", d)
  | invalidState d => ("InvalidState", "Invalid state", d)
  | timeout d => ("Timeout", "Timeout error", d)
  | configuration d => ("Configuration", "Configuration error", d)

def name (e : Error) : String := e.parts.1

def caption (e : Error) : String := e.parts.2.1

def detail (e : Error) : String := e.parts.2.2

def message (e : Error) : String := e.caption ++ ": " ++ e.detail

/-- An object with the detail under the name of the sort. -/
def toJson (e : Error) : Json := .object [(e.name, .string e.detail)]

/-- The error of a sort given by its name. -/
def named? (name detail : String) : Option Error :=
  [internal detail, database detail, cache detail, serialization detail, validation detail,
    notFound detail, invalidState detail, timeout detail, configuration detail].find?
    (·.name == name)

def ofJson? : Json → Option Error
  | .object [(name, .string detail)] => named? name detail
  | _ => none

/-- A text that is no identifier. -/
def invalidUuid : Error := .validation "invalid uuid"

/-- A row that a query promised and did not deliver. -/
def rowMissing : Error := .notFound "row not found"

end Error

end Parley
