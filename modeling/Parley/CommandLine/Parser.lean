import Parley.CommandLine.Options

/-!
# Reading a command line

Options come first and a command last; a command takes only its own arguments. An option waits
for its value in the next argument unless an equals sign attaches one. An option is settled by the
option, flag or command that follows it, and only then is a second use of it noticed. After `--`
nothing is read as an option.
-/

namespace Parley

/-- Why a command line is not carried out. -/
inductive Refusal where
  | unknownArgument
  | invalidValue
  | argumentConflict
  | invalidSubcommand
  | tooManyValues
  /-- The help on a command, or on the program if none is named. -/
  | help (command : Option String)
  | version
  deriving DecidableEq, Repr

/-- An option that takes a value. -/
inductive Setting where
  | configFile
  | logLevel
  | logFormat
  | logFile
  | databaseUrl
  | redisUrl
  deriving DecidableEq, Repr

namespace Setting

def ofName? : String → Option Setting
  | "config-file" => some configFile
  | "log-level" => some logLevel
  | "log-format" => some logFormat
  | "log-file" => some logFile
  | "database-url" => some databaseUrl
  | "redis-url" => some redisUrl
  | _ => none

def get (options : Options) : Setting → Option String
  | configFile => options.configFile
  | logLevel => options.logLevel
  | logFormat => options.logFormat
  | logFile => options.logFile
  | databaseUrl => options.databaseUrl
  | redisUrl => options.redisUrl

def put (options : Options) (value : String) : Setting → Options
  | configFile => { options with configFile := some value }
  | logLevel => { options with logLevel := some value }
  | logFormat => { options with logFormat := some value }
  | logFile => { options with logFile := some value }
  | databaseUrl => { options with databaseUrl := some value }
  | redisUrl => { options with redisUrl := some value }

end Setting

/-- An option without a value. -/
inductive Flag where
  | verbose
  | quiet
  | dev
  | help
  | version
  deriving DecidableEq, Repr

namespace Flag

def ofName? : String → Option Flag
  | "quiet" => some quiet
  | "dev" => some dev
  | "help" => some help
  | "version" => some version
  | _ => none

def ofLetter? : Char → Option Flag
  | 'v' => some verbose
  | 'q' => some quiet
  | 'h' => some help
  | 'V' => some version
  | _ => none

/-- Only `-v` may be repeated. -/
def apply (options : Options) : Flag → Except Refusal Options
  | verbose => .ok { options with verbose := min (options.verbose + 1) 255 }
  | quiet => if options.quiet then .error .argumentConflict else .ok { options with quiet := true }
  | dev => if options.dev then .error .argumentConflict else .ok { options with dev := true }
  | help => .error (.help none)
  | version => .error .version

end Flag

/-- How an argument is spelled. -/
inductive Spelling where
  | terminator
  | long (name : String) (value : Option String)
  | short (letters : List Char)
  | plain
  deriving DecidableEq, Repr

namespace Spelling

def ofArgument (argument : String) : Spelling :=
  match argument.toList with
  | ['-', '-'] => terminator
  | '-' :: '-' :: text =>
    let name := text.takeWhile (· != '=')
    match text.dropWhile (· != '=') with
    | [] => long (String.ofList name) none
    | _ :: value => long (String.ofList name) (some (String.ofList value))
  | '-' :: c :: letters => short (c :: letters)
  | _ => plain

end Spelling

/-- What has been read of a command line. -/
structure Reading where
  options : Options := {}
  /-- The option read last, with its value once that has been read. -/
  pending : Option (Setting × Option String) := none
  deriving DecidableEq, Repr

namespace Reading

/-- The option that waits for its value. -/
def awaiting (r : Reading) : Option Setting :=
  match r.pending with
  | some (setting, none) => some setting
  | _ => none

/-- Enters the pending option, which must have its value and be new. -/
def settle (r : Reading) : Except Refusal Reading :=
  match r.pending with
  | none => .ok r
  | some (_, none) => .error .invalidValue
  | some (setting, some value) =>
    if (setting.get r.options).isSome then .error .argumentConflict
    else .ok { options := setting.put r.options value }

def flag (r : Reading) (f : Flag) : Except Refusal Reading := do
  pure { options := ← f.apply (← r.settle).options }

def long (r : Reading) (name : String) (value : Option String) : Except Refusal Reading :=
  match Setting.ofName? name with
  | some setting => do
    let r := { ← r.settle with pending := some (setting, value) }
    if value.isSome then r.settle else pure r
  | none =>
    match Flag.ofName? name with
    | some f => if value.isSome then .error .tooManyValues else r.flag f
    | none => .error .unknownArgument

def letter (r : Reading) (c : Char) : Except Refusal Reading :=
  match Flag.ofLetter? c with
  | some f => r.flag f
  | none => .error .unknownArgument

def short (r : Reading) (letters : List Char) : Except Refusal Reading := letters.foldlM letter r

end Reading

namespace Command

/-- The names under which a command is given, the one that shows help among them. -/
def names : List String := ["migrate", "generate-config", "validate-config", "show-config", "help"]

def ofName? (path : Option String) : String → Option Command
  | "migrate" => some migrate
  | "generate-config" => some (generateConfig (path.getD "config.toml"))
  | "validate-config" => some (validateConfig (path.getD "config.toml"))
  | "show-config" => some showConfig
  | _ => none

def takesPath (name : String) : Bool := ((ofName? none name).bind path?).isSome

/-- Takes an argument that is no option as the path of a command. -/
def place (name : String) (path : Option String) (argument : String) :
    Except Refusal (Option String) :=
  if takesPath name && path.isNone then .ok (some argument) else .error .unknownArgument

/-- The path among the arguments of a command. -/
def readPath (name : String) (path : Option String) :
    List String → Except Refusal (Option String)
  | [] => .ok path
  | argument :: rest =>
    match Spelling.ofArgument argument with
    | .terminator => rest.foldlM (place name) path
    | .long "help" none | .short ('h' :: _) => .error (.help (some name))
    | .long "help" (some _) => .error .tooManyValues
    | .long _ _ | .short _ => .error .unknownArgument
    | .plain => do readPath name (← place name path argument) rest

/-- Help is given on one command at most. -/
def refusalOfHelp : List String → Refusal
  | [] => .help none
  | [name] => if name ∈ names then .help (some name) else .invalidSubcommand
  | _ :: _ => .invalidSubcommand

def read (name : String) (arguments : List String) : Except Refusal (Option Command) :=
  if name = "help" then .error (refusalOfHelp arguments)
  else do pure (ofName? (← readPath name none arguments) name)

end Command

namespace Reading

/-- Reads what follows `--`, where no command can stand. -/
def finish (r : Reading) : List String → Except Refusal Options
  | [] => do pure (← r.settle).options
  | argument :: _ =>
    .error (if argument ∈ Command.names then .unknownArgument else .invalidSubcommand)

def readAll (r : Reading) : List String → Except Refusal Options
  | [] => r.finish []
  | argument :: rest =>
    if r.awaiting.isNone && argument ∈ Command.names then do
      let command ← Command.read argument rest
      pure { (← r.settle).options with command }
    else
      match Spelling.ofArgument argument with
      | .terminator => r.finish rest
      | .long name value => do (← r.long name value).readAll rest
      | .short letters => do (← r.short letters).readAll rest
      | .plain =>
        match r.awaiting with
        | some setting => { r with pending := some (setting, some argument) }.readAll rest
        | none => .error .invalidSubcommand

end Reading

/-- The options that the arguments of a command line ask for. -/
def Options.ofArguments (arguments : List String) : Except Refusal Options :=
  Reading.readAll {} arguments

end Parley
