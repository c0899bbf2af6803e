import Parley.Json.Printer

/-!
# Logging

Records of what happens: how grave it is, in which part of the program, and a text.
-/

namespace Parley.Log

inductive Level where
  | error
  | warn
  | info
  | debug
  | trace
  deriving DecidableEq, Repr

namespace Level

def name : Level → String
  | error => "ERROR"
  | warn => "WARN"
  | info => "INFO"
  | debug => "DEBUG"
  | trace => "TRACE"

/-- One for errors, and more for what is less grave. -/
def rank : Level → Nat
  | error => 1
  | warn => 2
  | info => 3
  | debug => 4
  | trace => 5

end Level

structure Record where
  level : Level
  /-- The part of the program. -/
  target : String
  text : String
  deriving DecidableEq, Repr

/-- How records are written. -/
inductive Format where
  | json
  | pretty
  | compact
  deriving DecidableEq, Repr

namespace Format

/-- Formats that are not known, and none, are compact. -/
def ofName : Option String → Format
  | some "json" => json
  | some "pretty" | some "dev" => pretty
  | _ => compact

end Format

namespace Record

/-- A record as it is written. -/
def line (record : Record) : Format → String
  | .json => (Json.object [("level", .string record.level.name), ("target", .string record.target),
      ("fields", .object [("message", .string record.text)])]).render
  | .pretty | .compact => record.level.name ++ " " ++ record.target ++ ": " ++ record.text

end Record

end Parley.Log
