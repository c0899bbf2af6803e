import Parley.Config.Basic
import Parley.Text.Blank
import Parley.Text.Digit
import Parley.Word

/-!
# Settings from the environment

Variables that override settings. Numbers and truth values are read without the blanks around
them; lists are separated by commas. The first value that cannot be read is reported.
-/

namespace Parley.Config

/-- Why a value cannot be read. -/
inductive Misread where
  | empty
  | notADigit
  | tooLarge
  | notABool
  deriving DecidableEq, Repr

namespace Misread

def message : Misread → String
  | empty => "cannot parse integer from empty string"
  | notADigit => "invalid digit found in string"
  | tooLarge => "number too large to fit in target type"
  | notABool => "provided string was not `true` or `false`"

end Misread

/-- Reads digits one after the other up to the first that is none or makes the number too large. -/
def readDigits (bound : Nat) (n : Nat) : List Char → Except Misread Nat
  | [] => .ok n
  | c :: rest =>
    if !Text.isDigit c then .error .notADigit
    else
      let next := 10 * n + Text.digitValue c
      if next < bound then readDigits bound next rest else .error .tooLarge

/-- A number below a bound, after an optional plus sign. -/
def readNat (bound : Nat) : List Char → Except Misread Nat
  | [] => .error .empty
  | ['+'] => .error .notADigit
  | '+' :: digits => readDigits bound 0 digits
  | digits => readDigits bound 0 digits

def readBool (text : List Char) : Except Misread Bool :=
  if text = "true".toList then .ok true
  else if text = "false".toList then .ok false
  else .error .notABool

/-- The items between commas, without blanks around them and without empty ones. -/
def splitList (text : String) : List String :=
  ((Text.splitAt ',' text.toList).map fun item => String.ofList (Text.trim item)).filter (· != "")

/-- A variable whose value cannot be read. -/
structure BadVariable where
  name : String
  value : String
  reason : Misread
  deriving DecidableEq, Repr

/-- The values of variables. -/
abbrev Environment := String → Option String

namespace Environment

/-- The value of a variable if it is set, and otherwise the given one. -/
def read {α : Type} (env : Environment) (name : String)
    (reader : List Char → Except Misread α) (given : α) : Except BadVariable α :=
  match env name with
  | none => .ok given
  | some value =>
    match reader (Text.trim value.toList) with
    | .ok a => .ok a
    | .error reason => .error ⟨name, value, reason⟩

def text (env : Environment) (name given : String) : String := (env name).getD given

def list (env : Environment) (name : String) (given : List String) : List String :=
  ((env name).map splitList).getD given

end Environment

/-- The variables that give settings. -/
def variableNames : List String := ["DATABASE_URL", "REDIS_URL", "SOCIAL_REDIS_POOL_SIZE",
  "SOCIAL_DATABASE_MAX_CONNECTIONS", "SOCIAL_AUTO_BAN_ENABLED", "SOCIAL_BANNED_WORDS",
  "SOCIAL_URL_WHITELIST", "SOCIAL_PROCESSING_TIMEOUT_MS", "SOCIAL_LOG_LEVEL",
  "SOCIAL_LOG_FORMAT", "SOCIAL_METRICS_ENABLED", "SOCIAL_METRICS_LISTEN_ADDR"]

/-- Lays the variables of the environment over given settings. -/
def withEnvironment (env : Environment) (c : Config) : Except BadVariable Config := do
  let poolSize ← env.read "SOCIAL_REDIS_POOL_SIZE" (readNat Word.size32) c.redis.poolSize
  let maxConnections ← env.read "SOCIAL_DATABASE_MAX_CONNECTIONS" (readNat Word.size32)
    c.database.maxConnections
  let autoBanEnabled ← env.read "SOCIAL_AUTO_BAN_ENABLED" readBool c.moderation.autoBanEnabled
  let processingTimeoutMs ← env.read "SOCIAL_PROCESSING_TIMEOUT_MS" (readNat Word.size64)
    c.subscriber.processingTimeoutMs
  let enabled ← env.read "SOCIAL_METRICS_ENABLED" readBool c.metrics.enabled
  pure {
    redis := { c.redis with url := env.text "REDIS_URL" c.redis.url, poolSize }
    database := { c.database with url := env.text "DATABASE_URL" c.database.url, maxConnections }
    moderation := { c.moderation with
      autoBanEnabled
      bannedWords := env.list "SOCIAL_BANNED_WORDS" c.moderation.bannedWords
      urlWhitelist := env.list "SOCIAL_URL_WHITELIST" c.moderation.urlWhitelist }
    subscriber := { processingTimeoutMs }
    guildProgression := c.guildProgression
    logging := { c.logging with
      level := env.text "SOCIAL_LOG_LEVEL" c.logging.level
      format := env.text "SOCIAL_LOG_FORMAT" c.logging.format }
    metrics := {
      enabled
      listenAddr := env.text "SOCIAL_METRICS_LISTEN_ADDR" c.metrics.listenAddr } }

end Parley.Config
