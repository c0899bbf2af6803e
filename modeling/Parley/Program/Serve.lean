import Parley.Program.Settings
import Parley.Text.Quoted

/-!
# Running the service

The log is opened as the command line and the logging settings say. Then the settings are loaded
and shown, the servers are connected to, and the listeners run until an interrupt. What happens
is logged; a failure to connect or to start is logged and ends the routine.
-/

namespace Parley.Program

open Host (Routine)
open Host.Routine (ask log)

namespace Target

def program : String := "social_pipeline"
def service : String := "social_pipeline::server"
def cache : String := "social_pipeline::infra::redis_client"
def database : String := "social_pipeline::infra::database"
def listener : String := "social_pipeline::subscriber"

end Target

/-- What is logged of the settings, besides those of the log itself. -/
def settingsLines (config : Config) : List String :=
  let m := config.moderation
  ["📊 Pipeline Configuration:",
    "  - Redis: " ++ config.redis.url ++ " (pool=" ++ toString config.redis.poolSize ++ ")",
    "  - Database: " ++ Url.maskPassword config.database.url,
    "  - Auto Ban: " ++ toString m.autoBanEnabled ++
      " (burst=" ++ toString m.spamBurstLimit ++ "/" ++ toString m.spamBurstWindowSecs ++
      "s, duplicate=" ++ toString m.spamDuplicateLimit ++ "/" ++
      toString m.spamDuplicateWindowSecs ++ "s, severe=" ++
      toString m.severeViolationThreshold ++ ")",
    "  - Processing Timeout: " ++ toString config.subscriber.processingTimeoutMs ++ "ms",
    "  - Log Level: " ++ config.logging.level]

/-- What is logged of the log itself. -/
def logLines (format : String) (file : Option String) : List String :=
  ("  - Log Format: " ++ Text.Quoted.quote format) ::
    (file.map ("  - Log File: " ++ ·)).toList

def poolLine (settings : Config.Redis) : String :=
  "✅ Redis 连接池已创建 (pool_size=" ++ toString settings.poolSize ++
    ", min_idle=" ++ toString settings.minIdle ++
    ", conn_timeout=" ++ toString settings.connectionTimeoutSecs ++
    "s, cmd_timeout=" ++ toString settings.commandTimeoutMs ++
    "ms, idle_timeout=" ++ toString settings.idleTimeoutSecs ++ "s)"

def connectDatabase (settings : Config.Database) : Routine (Except Error Unit) := do
  log .info Target.database ("🔌 正在连接 PostgreSQL 数据库: " ++ Url.maskPassword settings.url)
  let result ← ask (.connectDatabase settings)
  match result with
  | .error _ => log .error Target.database "错误详情"
  | .ok () =>
    log .info Target.database ("✅ PostgreSQL 数据库连接成功 (max=" ++
      toString settings.maxConnections ++ ", min=" ++ toString settings.minConnections ++ ")")
  pure result

/-- Connects to the two servers, as long as that succeeds. -/
def connect (config : Config) : Routine (Except Error Unit) := do
  log .info Target.service "🔧 初始化事件管道组件..."
  log .info Target.service "🔌 初始化 Redis 连接..."
  match ← ask (.connectCache config.redis) with
  | .error e => pure (.error e)
  | .ok () =>
    log .info Target.cache (poolLine config.redis)
    log .info Target.service "🔌 初始化数据库连接..."
    match ← connectDatabase config.database with
    | .error e => pure (.error e)
    | .ok () =>
      log .info Target.service "📦 初始化 Repository 层..."
      log .info Target.service "✅ Repository 层初始化完成"
      log .info Target.service ("✅ 事件管道组装完成 (" ++
        toString (Remote.Service.handlers config).length ++ " 个订阅者)")
      pure (.ok ())

def noteStart (handler : Handler) : Routine Unit := do
  let patterns := Text.Quoted.list handler.patterns
  log .debug Target.cache ("📡 Redis PSUBSCRIBE 完成: " ++ patterns)
  log .info Target.listener ("[SUBSCRIPTION] ✅ " ++ handler.name ++ " 已订阅: " ++ patterns)

def noteStop (handler : Handler) : Routine Unit := do
  log .debug Target.listener ("[SUBSCRIPTION] " ++ handler.name ++ " 监听循环退出")
  log .info Target.listener ("[SUBSCRIPTION] 🛑 " ++ handler.name ++ " 已停止")

/-- Starts the listeners. When one cannot start, those before it are stopped. -/
def start (config : Config) : Routine (Except Error Unit) := do
  let handlers := Remote.Service.handlers config
  match ← ask (.start config) with
  | .ok () =>
    handlers.forM noteStart
    log .info Target.service "🚀 事件管道已启动"
    pure (.ok ())
  | .error failure =>
    let started := handlers.takeWhile (·.name != failure.listener)
    started.forM noteStart
    log .error Target.service
      ("❌ 订阅者 " ++ failure.listener ++ " 启动失败: " ++ failure.error.message)
    started.forM noteStop
    pure (.error failure.error)

def stop (config : Config) : Routine Unit := do
  log .info Target.service "🛑 停止事件管道..."
  ask .stop
  (Remote.Service.handlers config).forM noteStop
  log .info Target.service "✅ 事件管道已停止"

def exposeMetrics (settings : Config.Metrics) : Routine Unit := do
  match settings.socketAddress with
  | .error _ => pure ()
  | .ok address =>
    if ← ask (.expose address) then
      log .info Target.service
        ("📊 Prometheus 指标已启用: http://" ++ toString address ++ "/metrics")
    else log .warn Target.service "⚠️ Prometheus 指标初始化失败"

/-- Logs an error and what else is to be said about it, and ends the routine. -/
def giveUp (lines : List String) : Routine Unit := do
  lines.forM (log .error Target.program)
  throw .gaveUp

/-- Listens until an interrupt, on servers that were connected to. -/
def listen (config : Config) : Routine Unit := do
  if config.metrics.enabled then exposeMetrics config.metrics
  match ← start config with
  | .error e => giveUp ["❌ 事件管道运行失败: " ++ e.message]
  | .ok () =>
    log .info Target.service "💡 提示: 按 Ctrl+C 停止服务"
    ask .awaitInterrupt
    stop config

def serve (options : Options) (env : Config.Environment) : Routine Unit := do
  let document ← ask (.inspect (Config.documentPath options))
  let early := Config.earlyLogging options fun _ => document
  openLog env early.level early.format early.file
  log .info Target.program "🚀 Social Pipeline starting..."
  let config ← loadConfig options env
  if options.dev then log .info Target.program "🔧 开发模式已启用"
  (settingsLines config ++ logLines early.format early.file).forM (log .info Target.program)
  match ← connect config with
  | .error e =>
    giveUp ["❌ 事件管道初始化失败: " ++ e.message, "💡 请检查 Redis 和数据库连接配置后重试"]
  | .ok () => listen config

end Parley.Program
