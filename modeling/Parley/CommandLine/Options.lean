/-!
# Options

What a command line asks for. The level of logging follows from the quiet and the development
mode, an explicit level and the number of `-v` flags, in this order of precedence.
-/

namespace Parley

inductive Command where
  | migrate
  | generateConfig (path : String)
  | validateConfig (path : String)
  | showConfig
  deriving DecidableEq, Repr

namespace Command

def name : Command → String
  | migrate => "migrate"
  | generateConfig _ => "generate-config"
  | validateConfig _ => "validate-config"
  | showConfig => "show-config"

/-- The path that a command is about. -/
def path? : Command → Option String
  | generateConfig path | validateConfig path => some path
  | migrate | showConfig => none

end Command

structure Options where
  configFile : Option String := none
  logLevel : Option String := none
  logFormat : Option String := none
  logFile : Option String := none
  databaseUrl : Option String := none
  redisUrl : Option String := none
  /-- How often `-v` was given, up to 255. -/
  verbose : Nat := 0
  quiet : Bool := false
  dev : Bool := false
  command : Option Command := none
  deriving DecidableEq, Repr

namespace Options

/-- The level that a number of `-v` flags stands for. -/
def levelOf : Nat → Option String
  | 0 => none
  | 1 => some "info"
  | 2 => some "debug"
  | _ => some "trace"

def level? (options : Options) : Option String :=
  if options.quiet then some "error"
  else if options.dev then some "debug"
  else options.logLevel.or (levelOf options.verbose)

def format? (options : Options) : Option String :=
  if options.dev then some "pretty" else options.logFormat

end Options

end Parley
