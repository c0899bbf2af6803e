import Parley.Log.Pattern
import Parley.Text.Blank
import Parley.Text.Letter.Case
import Parley.Text.Letter.Word

/-!
# Directives of a filter

A directive says up to which level records are kept: `info` for all records, `server=debug` for
those whose target begins so, and `server` for such records of every level. Behind the target,
brackets may name a span in which a record has to be written, and in braces the fields that it
has to have, as in `server[query{id=1}]=debug`.

Blanks around a directive are no part of it when it is cut into its parts. But the places of the
cuts are then counted in the text with the blanks, so that blanks in front shift the parts.
-/

namespace Parley.Log

structure Directive where
  /-- What the target of a record has to begin with. -/
  target : Option String := none
  /-- The span that a record has to be written in. -/
  span : Option String := none
  /-- The fields that a record has to have. -/
  fields : List String := []
  /-- Whether a field has to have a certain value. -/
  asksValue : Bool := false
  /-- The highest rank that is kept; at first, every rank is. -/
  rank : Nat := 5
  deriving DecidableEq, Repr

namespace Directive

/-- Why a directive cannot be read. -/
inductive Fault where
  | malformed
  /-- A cut goes through a character. -/
  | torn
  deriving DecidableEq, Repr

/-- The highest rank that is kept at a level, in any case or as a number. -/
def rank? (text : String) : Option Nat :=
  match text.toList.head?, Text.integer? text.toList with
  | some '-', _ | _, none =>
    let levels := ["off", "error", "warn", "info", "debug", "trace"].zipIdx
    let small := text.toList.map Letter.lowerAscii
    (levels.find? fun (name, _) => name.toList = small).map Prod.snd
  | _, some n => if n ≤ 5 then some n.toNat else none

/-- Whether a character begins at a place of a text, or the text ends there. -/
def isBoundary (whole : List UInt8) (place : Nat) : Bool :=
  match whole[place]? with
  | some b => b.toNat / 64 != 2
  | none => true

/-- What stands between two places of a text. -/
def cut (whole : List UInt8) (first last : Nat) : Except Fault String :=
  if isBoundary whole first && isBoundary whole last then
    match String.fromUTF8? ⟨((whole.take last).drop first).toArray⟩ with
    | some part => .ok part
    | none => .error .torn
  else .error .torn

/-- The part of a directive that is being read, with the place where it began. -/
inductive Part where
  | start
  | word (first : Nat)
  | span (first : Nat)
  | field (first : Nat)
  | fieldsEnd
  | spanEnd
  | level (first : Nat)
  deriving DecidableEq, Repr

structure Reader where
  part : Part := .start
  directive : Directive := {}

namespace Reader

/-- Adds a field, with a value or without. -/
def addField (reader : Reader) (text : String) : Except Fault Reader :=
  let pieces := Text.splitAt '=' text.toList
  let value := pieces[1]?
  if text.isEmpty || !(value.map Pattern.isValue).getD true then .error .malformed
  else .ok { reader with directive := { reader.directive with
    fields := reader.directive.fields ++ [String.ofList (pieces.headD [])]
    asksValue := reader.directive.asksValue || value.isSome } }

def withTarget (reader : Reader) (target : String) : Reader :=
  { reader with directive := { reader.directive with target := some target } }

def withSpan (reader : Reader) (span : Option String) : Reader :=
  { reader with directive := { reader.directive with span } }

def enter (reader : Reader) (part : Part) : Reader := { reader with part }

/-- Reads the next character, which stands at a place. -/
def next (whole : List UInt8) (reader : Reader) (place : Nat) (c : Char) : Except Fault Reader :=
  match reader.part with
  | .start =>
    if c = '[' then .ok (reader.enter (.span (place + 1)))
    else if c = '-' || c = ':' || c = '_' || Letter.isAlphanumeric c then
      .ok (reader.enter (.word place))
    else .error .malformed
  | .word first =>
    if c = '=' then do
      pure ((reader.withTarget (← cut whole first place)).enter (.level (place + 1)))
    else if c = '[' then do
      pure ((reader.withTarget (← cut whole first place)).enter (.span (place + 1)))
    else .ok reader
  | .span first =>
    if c = ']' then do
      pure ((reader.withSpan (some (← cut whole first place))).enter .spanEnd)
    else if c = '\x7b' then do
      let name ← cut whole first place
      pure ((reader.withSpan (if name.isEmpty then none else some name)).enter
        (.field (place + 1)))
    else .ok reader
  | .field first =>
    if c = '\x7d' then do
      pure ((← reader.addField (← cut whole first place)).enter .fieldsEnd)
    else .ok reader
  | .fieldsEnd => if c = ']' then .ok (reader.enter .spanEnd) else .error .malformed
  | .spanEnd => if c = '=' then .ok (reader.enter (.level (place + 1))) else .error .malformed
  | .level _ => .ok reader

/-- Reads characters, the first of which stands at a place. -/
def read (whole : List UInt8) (reader : Reader) (place : Nat) : List Char → Except Fault Reader
  | [] => .ok reader
  | c :: rest => do read whole (← reader.next whole place c) (place + c.utf8Size) rest

/-- The directive at the end of its text. -/
def finish (whole : List UInt8) (reader : Reader) : Except Fault Directive :=
  match reader.part with
  | .word first => do
    let word ← cut whole first whole.length
    match rank? word with
    | some rank => pure { reader.directive with target := none, rank }
    | none => pure { reader.directive with target := some word }
  | .level first => do
    let level ← cut whole first whole.length
    if level.isEmpty then pure reader.directive
    else match rank? level with
      | some rank => pure { reader.directive with rank }
      | none => throw .malformed
  | .spanEnd => .ok reader.directive
  | .start | .span _ | .field _ | .fieldsEnd => .error .malformed

end Reader

def parse (text : String) : Except Fault Directive := do
  let whole := text.toUTF8.toList
  let reader ← Reader.read whole {} 0 (Text.trim text.toList)
  reader.finish whole

end Directive

end Parley.Log
