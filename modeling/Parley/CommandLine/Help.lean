/-!
# Help

The pages that explain the program and each of its commands: what it is about, how it is used, and
its commands, arguments and options in aligned columns.
-/

namespace Parley.Help

/-- The name under which the program is called. -/
def program : String := "social-pipeline"

/-- What is shown for the version. -/
def versionLine : String := program ++ " 0.1.0\n"

/-- Entries with their explanations in a second column. -/
def columns (entries : List (String × String)) : String :=
  let width := entries.foldl (fun width e => max width e.1.length) 0
  String.join (entries.map fun (name, text) =>
    "  " ++ name ++ String.ofList (List.replicate (width - name.length + 2) ' ') ++ text ++ "\n")

/-- A page of the help: what it is about, the usage and titled lists. -/
structure Page where
  about : String
  usage : String
  lists : List (String × List (String × String))

namespace Page

def text (page : Page) : String :=
  page.about ++ "\n\nUsage: " ++ program ++ page.usage ++ "\n" ++
    String.join (page.lists.map fun (title, entries) => "\n" ++ title ++ ":\n" ++ columns entries)

end Page

/-- The commands with what each is about. -/
def commands : List (String × String) := [
  ("migrate", "执行数据库迁移"),
  ("generate-config", "生成默认配置文件"),
  ("validate-config", "验证配置文件"),
  ("show-config", "显示最终配置（合并后的配置）"),
  ("help", "Print this message or the help of the given subcommand(s)")]

def root : Page where
  about := "基于 Redis Pub/Sub 的聊天审核与通知事件管道"
  usage := " [OPTIONS] [COMMAND]"
  lists := [
    ("Commands", commands),
    ("Options", [
      ("    --config-file <FILE>", "指定配置文件路径"),
      ("    --log-level <LEVEL>", "日志级别: trace, debug, info, warn, error"),
      ("    --log-format <FORMAT>", "日志格式: pretty, json, compact"),
      ("    --log-file <PATH>", "日志输出文件路径"),
      ("    --database-url <URL>", "数据库连接字符串"),
      ("    --redis-url <URL>", "Redis 连接字符串"),
      ("-v...", "详细输出级别"),
      ("-q, --quiet", "静默模式（只输出错误）"),
      ("    --dev", "启用开发模式"),
      ("-h, --help", "Print help"),
      ("-V, --version", "Print version")])]

/-- The arguments and options that the page on a command lists. -/
def listsOf : String → List (String × List (String × String))
  | "generate-config" => [
    ("Arguments", [("[PATH]", "输出文件路径 [default: config.toml]")]),
    ("Options", [("-h, --help", "Print help")])]
  | "validate-config" => [
    ("Arguments", [("[PATH]", "配置文件路径 [default: config.toml]")]),
    ("Options", [("-h, --help", "Print help")])]
  | "help" => [("Arguments", [("[COMMAND]...", "Print help for the subcommand(s)")])]
  | _ => [("Options", [("-h, --help", "Print help")])]

def usageOf : String → String
  | "generate-config" => " generate-config [PATH]"
  | "validate-config" => " validate-config [PATH]"
  | "help" => " help [COMMAND]..."
  | name => " " ++ name

/-- The page on a command, or on the program if none is named. -/
def page : Option String → Page
  | none => root
  | some name => ⟨((commands.find? (·.1 == name)).map (·.2)).getD "", usageOf name, listsOf name⟩

end Parley.Help
