import Parley.Log.Basic
import Parley.Log.Directive

/-!
# Which records are kept

A filter is a list of directives separated by commas. Records are written outside of spans, and a
record has one field, its message; directives that ask for a span or for the value of a field
decide on none. Of the others whose target begins the target of a record, the longest decides, of
several with the same target the one that asks for most fields, and of these the last. A record on
which none decides is dropped.
-/

namespace Parley.Log

abbrev Filter := List Directive

namespace Filter

def pieces (text : String) : List String :=
  ((Text.splitAt ',' text.toList).filter (!·.isEmpty)).map String.ofList

/-- A filter all of whose directives can be read. Without directives it drops everything. -/
def parse (text : String) : Except Directive.Fault Filter := (pieces text).mapM Directive.parse

/-- The directives of a text that are well formed. -/
def wellFormed : List String → Except Directive.Fault Filter
  | [] => .ok []
  | piece :: rest =>
    match Directive.parse piece with
    | .ok directive => do pure (directive :: (← wellFormed rest))
    | .error .malformed => wellFormed rest
    | .error .torn => .error .torn

/-- The filter of a level: what of it can be read, or errors alone if nothing can. -/
def ofLevel (level : String) : Except Directive.Fault Filter := do
  match ← wellFormed (pieces level) with
  | [] => pure [{ rank := Level.error.rank }]
  | directives => pure directives

/-- The filter of a variable if it is set and well formed, and otherwise that of a level. -/
def choose (value : Option String) (level : String) : Except Directive.Fault Filter :=
  match value.map parse with
  | none | some (.error .malformed) => ofLevel level
  | some result => result

end Filter

namespace Directive

/-- Whether a directive decides on records with a target, if no other does. -/
def covers (directive : Directive) (target : String) : Bool :=
  directive.span.isNone && !directive.asksValue && directive.fields.all (· == "message") &&
    (directive.target.map fun start => start.toList.isPrefixOf target.toList).getD true

/-- Whether a directive says no less about a record than another. -/
def isAsSpecific (directive other : Directive) : Bool :=
  let length (d : Directive) : Nat := (d.target.map fun t => t.length + 1).getD 0
  length other < length directive ||
    (length other == length directive && other.fields.length ≤ directive.fields.length)

end Directive

namespace Filter

/-- The directive that decides on a target. -/
def decisive? (filter : Filter) (target : String) : Option Directive :=
  (filter.filter (·.covers target)).foldl (fun best directive =>
    if (best.map directive.isAsSpecific).getD true then some directive else best) none

def admits (filter : Filter) (record : Record) : Bool :=
  ((filter.decisive? record.target).map fun d => decide (record.level.rank ≤ d.rank)).getD false

end Filter

/-- How records are written, and where besides the output. -/
structure Setup where
  filter : Filter
  format : Format
  file : Option String

end Parley.Log
