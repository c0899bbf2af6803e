import Parley.Config.Environment
import Parley.Host.Basic
import Parley.Sql.Migration

/-!
# Migrating the database

The migrations that are not recorded yet are carried out in order, and each is recorded before
the next begins. The first failure ends the routine.
-/

namespace Parley.Program

open Host (Routine)
open Host.Routine (ask say require exchange)
open Sql (Migration)

/-- Carries out a migration and records it, unless that was done before; how many were carried
out so far is counted. -/
def migrateOnce (applied : List String) (count : Nat) (migration : Migration) : Routine Nat := do
  let name := migration.name
  if name ∈ applied then
    say ("  ⏭ " ++ name ++ " (已执行，跳过)")
    pure count
  else
    say ("  ▶ 执行 " ++ name ++ "...")
    let _ ← exchange (Sql.execute migration.script "") ("执行迁移失败: " ++ name)
    let _ ← exchange (Sql.execute migration.record "") ("记录迁移状态失败: " ++ name)
    say ("  ✅ " ++ name ++ " 完成")
    pure (count + 1)

def migrate (options : Options) (env : Config.Environment) : Routine Unit := do
  match options.databaseUrl.or (env "DATABASE_URL") with
  | none => throw (.failed "需要 DATABASE_URL，请在 .env 或环境变量中配置")
  | some url =>
    say "🔌 连接数据库..."
    require (← ask (.dial url)) "数据库连接失败，请检查 DATABASE_URL"
    let _ ← exchange (Sql.execute Migration.createTable "") "创建迁移记录表失败"
    let applied ← exchange
      (Sql.fetchAll Migration.listApplied "" fun row => row.value "name" Json.string?)
      "查询迁移记录失败"
    let count ← Migration.all.foldlM (migrateOnce applied) 0
    say (if count = 0 then "✅ 数据库已是最新，无需迁移"
      else "✅ 成功执行 " ++ toString count ++ " 个迁移")

end Parley.Program
