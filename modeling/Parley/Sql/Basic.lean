import Parley.Error
import Parley.Flow.Course
import Parley.Json.Decoder

/-!
# Statements and their replies

A statement is a text with numbered parameters; values are exchanged in their JSON form. A reply
has rows of named cells, and the number of rows that were changed. Points in time are stored in
whole microseconds.
-/

namespace Parley.Sql

open Calendar (Instant)

structure Statement where
  text : String
  parameters : List Json := []
  /-- Several statements sent as one text. -/
  isScript : Bool := false
  deriving Repr

abbrev Row := Json.Members

inductive Reply where
  | completed (rows : List Row) (affected : Nat)
  | failed

/-- Statements sent one after the other, until one fails or a row is not as expected. -/
abbrev Exchange (α : Type) := ExceptT Error (Course fun _ : Statement => Reply) α

def ofInstant (t : Instant) : Json := Json.ofInstant t.cutToMicros

def instant? (cell : Json) : Option Instant := (Json.instant? cell).map Instant.cutToMicros

/-- The channels or other names in a list of texts; unknown ones are left out. -/
def names? {α : Type} [Named α] (cell : Json) : Option (List α) :=
  (Json.list? Json.string? cell).map fun names => names.filterMap Named.ofName?

namespace Row

variable {α : Type}

/-- The cell of a column that has no empty cells. -/
def value (row : Row) (column : String) (decode : Json → Option α) : Option α :=
  match row.find? column with
  | none | some .null => none
  | some cell => decode cell

def nullable (row : Row) (column : String) (decode : Json → Option α) : Option (Option α) :=
  match row.find? column with
  | none => none
  | some .null => some none
  | some cell => (decode cell).map some

/-- A count in a column that has no name. -/
def count (row : Row) (index : Nat) : Option Nat :=
  (row[index]?).bind fun (_, cell) => Json.nat64? cell

end Row

variable {α : Type}

/-- Sends a statement; `failure` is what the error says. -/
def send (statement : Statement) (failure : String) : Exchange (List Row × Nat) := do
  match ← ExceptT.lift (Course.query statement) with
  | .completed rows affected => pure (rows, affected)
  | .failed => throw (.database failure)

/-- The value that is there, or the error. -/
def expect (failure : String) : Option α → Exchange α
  | some a => pure a
  | none => throw (.database failure)

/-- All rows. -/
def fetchAll (statement : Statement) (failure : String) (read : Row → Option α) :
    Exchange (List α) := do
  expect failure ((← send statement failure).1.mapM read)

/-- The first row if there is one. -/
def fetchOptional (statement : Statement) (failure : String) (read : Row → Option α) :
    Exchange (Option α) := do
  match (← send statement failure).1 with
  | [] => pure none
  | row :: _ => some <$> expect failure (read row)

/-- The first row, which has to be there. -/
def fetchOne (statement : Statement) (failure : String) (read : Row → Option α) :
    Exchange α := do
  expect failure (← fetchOptional statement failure read)

/-- Sends a statement for what it changes. -/
def execute (statement : Statement) (failure : String) : Exchange Nat := do
  pure (← send statement failure).2

end Parley.Sql
