import Parley.Config.Load
import Parley.Config.Template
import Parley.Host.Basic
import Parley.Host.Path
import Parley.Host.Variables
import Parley.Json.Printer

/-!
# Settings of the program

Variables come from the host and from the document `.env`; settings are loaded under these. The
commands on settings write, check and show them.
-/

namespace Parley.Program

open Host (Routine)
open Host.Routine (ask say require log)

/-- The variable that chooses which records are logged. -/
def filterVariable : String := "RUST_LOG"

/-- The document of further variables. -/
def variablesPath : String := ".env"

/-- The value of a variable on the host, with its name. -/
def lookUp (name : String) : Routine (Option (String × String)) := do
  pure ((← ask (.lookUp name)).map (name, ·))

def environment : Routine Config.Environment := do
  let entries := Variables.parse (← ask (.inspect variablesPath)).readable
  let names := filterVariable :: Config.variableNames ++ Variables.names entries
  let values := (← names.mapM lookUp).filterMap id
  match Variables.extend? (fun name => (values.find? (·.1 == name)).map Prod.snd) entries with
  | some env => pure env
  | none => throw .aborted

/-- Opens the log, in a file as well if one is given. -/
def openLog (env : Config.Environment) (level : String) (format file : Option String) :
    Routine Unit := do
  let .ok filter := Log.Filter.choose (env filterVariable) level | throw .aborted
  if let some path := file then
    require (Path.name? path).isSome ("无效的日志文件路径: " ++ path)
    let folder := if Path.parent path = "" then "." else Path.parent path
    require (← ask (.makeFolder folder)) ("无法创建日志目录: " ++ folder)
  if !(← ask (.openLog ⟨filter, .ofName format, file⟩)) then throw .aborted

/-- What is logged of the document from which settings are read. -/
def noteDocument (options : Options) (document : FileState) : Routine Unit :=
  let target := "social_pipeline::config"
  match options.configFile, document with
  | some path, .missing => log .warn target ("⚠️ 配置文件不存在: " ++ path)
  | some path, _ => log .info target ("📄 从配置文件加载: " ++ path)
  | none, .missing => pure ()
  | none, _ => log .info target ("📄 从默认配置文件加载: " ++ Config.defaultPath)

def loadConfig (options : Options) (env : Config.Environment) : Routine Config := do
  let document ← ask (.inspect (Config.documentPath options))
  noteDocument options document
  match Config.load options env fun _ => document with
  | .ok config => pure config
  | .error _ => throw (.failed "加载配置失败")

def generateConfig (path : String) : Routine Unit := do
  require (← ask (.write path Config.template)) ("无法写入配置文件: " ++ path)
  say ("✅ 配置文件已生成: " ++ path)

/-- What is shown of settings that are valid. -/
def overview (config : Config) : List String := [
  "📊 配置摘要:",
  "  - Redis: " ++ config.redis.url,
  "  - Database: " ++ Url.maskPassword config.database.url,
  "  - Banned Words: " ++ toString config.moderation.bannedWords.length,
  "  - URL Whitelist: " ++ toString config.moderation.urlWhitelist.length,
  "  - Metrics: " ++ toString config.metrics.enabled]

def validateConfig (path : String) : Routine Unit := do
  match Config.ofFile path (← ask (.inspect path)) with
  | .error _ => throw (.failed ("配置文件验证失败: " ++ path))
  | .ok config =>
    require config.validate.isOk ("配置文件验证失败: " ++ path)
    (("✅ 配置文件有效: " ++ path) :: overview config).forM say

def showConfig (options : Options) (env : Config.Environment) : Routine Unit := do
  openLog env "info" none none
  let config ← loadConfig options env
  say "📊 最终配置（合并后的配置）:"
  say (String.ofList (config.toJson.printIndented 0))

end Parley.Program
