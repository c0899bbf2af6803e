/-!
# Tables of rows

Rows are told apart by a key. Writing a row replaces the one of its key, or comes last.
-/

namespace Parley.Table

variable {α κ : Type} [DecidableEq κ]

def find? (key : α → κ) (k : κ) (rows : List α) : Option α :=
  List.find? (fun row => key row == k) rows

def put (key : α → κ) (row : α) : List α → List α
  | [] => [row]
  | other :: rows => if key other = key row then row :: rows else other :: put key row rows

/-- Changes the row of a key, and the changed row. -/
def modify (key : α → κ) (k : κ) (change : α → α) (rows : List α) : Option α × List α :=
  match find? key k rows with
  | none => (none, rows)
  | some row => (some (change row), put key (change row) rows)

/-- The part of a list from `offset`, at most `limit` long. Negative numbers count as zero. -/
def page (limit offset : Int) (rows : List α) : List α :=
  (rows.drop offset.toNat).take limit.toNat

end Parley.Table
