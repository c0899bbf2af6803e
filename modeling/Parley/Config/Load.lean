import Parley.CommandLine.Options
import Parley.Config.Check
import Parley.Config.Document
import Parley.Config.Environment
import Parley.Host.File
import Parley.Text.Quoted

/-!
# Loading settings

Settings come from the command line, then the environment, then a document, then the defaults.
The document is the one that the command line names, or `config.toml`; one that does not exist is
passed over.
-/

namespace Parley

namespace Config

/-- Why settings cannot be loaded. -/
inductive Problem where
  | unreadable (path : String)
  | malformed
  | badVariable (bad : BadVariable)
  | fault (fault : Fault)
  deriving DecidableEq, Repr

namespace Problem

def message : Problem → String
  | unreadable path => "无法读取配置文件: " ++ Text.Quoted.quote path
  | malformed => "配置文件格式错误"
  | badVariable bad =>
    "环境变量 " ++ bad.name ++ " 取值无效 (" ++ bad.value ++ "): " ++ bad.reason.message
  | fault f => f.message

end Problem

/-- The document that is looked for when none is named. -/
def defaultPath : String := "config.toml"

def documentPath (options : Options) : String := options.configFile.getD defaultPath

/-- The settings of the document at a path. -/
def ofFile (path : String) : FileState → Except Problem Config
  | .text content =>
    match ofText? content with
    | some config => .ok config
    | none => .error .malformed
  | .missing | .unreadable | .binary _ => .error (.unreadable path)

/-- The settings of a document that need not exist. -/
def ofOptionalFile (path : String) : FileState → Except Problem Config
  | .missing => .ok {}
  | state => ofFile path state

/-- Lays the options of the command line over given settings. -/
def withOptions (options : Options) (c : Config) : Config :=
  { c with
    database := { c.database with url := options.databaseUrl.getD c.database.url }
    redis := { c.redis with url := options.redisUrl.getD c.redis.url }
    logging := {
      level := options.level?.getD c.logging.level
      format := options.format?.getD c.logging.format
      file := options.logFile.or c.logging.file } }

def load (options : Options) (env : Environment) (files : Files) : Except Problem Config := do
  let path := documentPath options
  let config ← ofOptionalFile path (files path)
  let config ← (config.withEnvironment env).mapError .badVariable
  let config := config.withOptions options
  config.validate.mapError .fault
  pure config

/-- The logging settings of the document at a path, `config.toml` if none is given. -/
def loggingChoice (path : Option String) (files : Files) : LoggingChoice :=
  ((files (path.getD defaultPath)).content?.map LoggingChoice.ofText).getD {}

/-- The settings of logging as they are before the others are loaded. Variables do not count. -/
def earlyLogging (options : Options) (files : Files) : Logging :=
  let choice := loggingChoice options.configFile files
  { level := (options.level?.or choice.level).getD "info"
    format := (options.format?.or choice.format).getD "compact"
    file := options.logFile.or choice.file }

end Config

end Parley
