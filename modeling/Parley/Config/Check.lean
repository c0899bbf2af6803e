import Parley.Config.Basic
import Parley.Net.SocketAddress

/-!
# Valid settings

The rules that settings have to keep, in the order in which they are checked. The first broken
rule is the fault that is reported.
-/

namespace Parley.Config

/-- A rule that settings break. -/
inductive Fault where
  | emptyPool
  | idleAbovePool
  | connectionsReversed
  | spamLimit
  | countWindow
  | violationThreshold
  | experiencePerLevel
  | processingTimeout
  | listenAddress (text : String)
  deriving DecidableEq, Repr

namespace Fault

def message : Fault → String
  | emptyPool => "redis.pool_size 必须大于 0"
  | idleAbovePool => "redis.min_idle 不能大于 redis.pool_size"
  | connectionsReversed => "database.min_connections 不能大于 database.max_connections"
  | spamLimit => "moderation 刷屏阈值必须大于 0"
  | countWindow => "moderation 计数窗口必须大于 0"
  | violationThreshold => "moderation.severe_violation_threshold 必须大于 0"
  | experiencePerLevel => "guild_progression.experience_per_level 必须大于 0"
  | processingTimeout => "subscriber.processing_timeout_ms 必须大于 0"
  | listenAddress text => "无效的 metrics.listen_addr: " ++ text

end Fault

/-- The address on which metrics are served. -/
def Metrics.socketAddress (metrics : Metrics) : Except Fault Net.SocketAddress :=
  match Net.SocketAddress.parse? metrics.listenAddr with
  | some address => .ok address
  | none => .error (.listenAddress metrics.listenAddr)

/-- Reports a fault if its rule is broken. -/
def require (rule : Bool) (fault : Fault) : Except Fault Unit :=
  if rule then .ok () else .error fault

def validate (c : Config) : Except Fault Unit := do
  let m := c.moderation
  require (c.redis.poolSize != 0) .emptyPool
  require (c.redis.minIdle ≤ c.redis.poolSize) .idleAbovePool
  require (c.database.minConnections ≤ c.database.maxConnections) .connectionsReversed
  require (1 ≤ m.spamBurstLimit && 1 ≤ m.spamDuplicateLimit) .spamLimit
  require (m.spamBurstWindowSecs != 0 && m.spamDuplicateWindowSecs != 0 &&
    m.violationWindowSecs != 0) .countWindow
  require (1 ≤ m.severeViolationThreshold) .violationThreshold
  require (1 ≤ c.guildProgression.experiencePerLevel) .experiencePerLevel
  require (c.subscriber.processingTimeoutMs != 0) .processingTimeout
  if c.metrics.enabled then
    let _ ← c.metrics.socketAddress

end Parley.Config
