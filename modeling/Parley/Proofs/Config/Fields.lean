import Parley.Config.Load

/-!
# The fields of the settings

Every field of the settings with all that can give it a value: its place in a document, its
variable, and its option. The value of a field is that of the first source that gives one, in the
order command line, environment, document, default.
-/

namespace Parley.Config

inductive Kind where
  | text
  | path
  | texts
  | flag
  | nat32
  | nat64
  | integer
  deriving DecidableEq, Repr

namespace Kind

abbrev Value : Kind → Type
  | text => String
  | path => Option String
  | texts => List String
  | flag => Bool
  | nat32 | nat64 => Nat
  | integer => Int

/-- The value that an entry of a document stands for. -/
def ofToml? : (kind : Kind) → Toml → Option kind.Value
  | text => Toml.string?
  | path => fun given => (Toml.string? given).map some
  | texts => Toml.list? Toml.string?
  | flag => Toml.bool?
  | nat32 => Toml.nat32?
  | nat64 => Toml.nat64?
  | integer => Toml.int64?

/-- The value that a variable stands for. There is no variable for an integer with a sign. -/
def ofVariable? : (kind : Kind) → String → Option kind.Value
  | text => some
  | path => fun given => some (some given)
  | texts => fun given => some (splitList given)
  | flag => fun given => (readBool (Text.trim given.toList)).toOption
  | nat32 => fun given => (readNat Word.size32 (Text.trim given.toList)).toOption
  | nat64 => fun given => (readNat Word.size64 (Text.trim given.toList)).toOption
  | integer => fun _ => none

end Kind

structure Field where
  /-- The section of a document in which the field stands. -/
  table : String
  key : String
  kind : Kind
  get : Config → kind.Value
  variableName? : Option String := none
  option? : Options → Option kind.Value := fun _ => none

/-- The first value that is given. -/
def firstGiven {α : Type} (sources : List (Option α)) : Option α := sources.findSome? id

theorem firstGiven_nil {α : Type} : firstGiven ([] : List (Option α)) = none := rfl

theorem firstGiven_cons {α : Type} (source : Option α) (rest : List (Option α)) :
    firstGiven (source :: rest) = source.or (firstGiven rest) := by
  cases source <;> rfl

/-- The level that a command line asks for: `--quiet` goes before `--dev`, this before
`--log-level`, and this before the number of `-v` flags. -/
def levelOption? (options : Options) : Option String :=
  firstGiven [if options.quiet then some "error" else none,
    if options.dev then some "debug" else none, options.logLevel,
    Options.levelOf options.verbose]

/-- The format that a command line asks for: `--dev` goes before `--log-format`. -/
def formatOption? (options : Options) : Option String :=
  firstGiven [if options.dev then some "pretty" else none, options.logFormat]

def redisFields : List Field := [
  { table := "redis", key := "url", kind := .text, get := (·.redis.url),
    variableName? := "REDIS_URL", option? := (·.redisUrl) },
  { table := "redis", key := "pool_size", kind := .nat32, get := (·.redis.poolSize),
    variableName? := "SOCIAL_REDIS_POOL_SIZE" },
  { table := "redis", key := "min_idle", kind := .nat32, get := (·.redis.minIdle) },
  { table := "redis", key := "connection_timeout_secs", kind := .nat64,
    get := (·.redis.connectionTimeoutSecs) },
  { table := "redis", key := "command_timeout_ms", kind := .nat64,
    get := (·.redis.commandTimeoutMs) },
  { table := "redis", key := "idle_timeout_secs", kind := .nat64,
    get := (·.redis.idleTimeoutSecs) }]

def databaseFields : List Field := [
  { table := "database", key := "url", kind := .text, get := (·.database.url),
    variableName? := "DATABASE_URL", option? := (·.databaseUrl) },
  { table := "database", key := "max_connections", kind := .nat32,
    get := (·.database.maxConnections), variableName? := "SOCIAL_DATABASE_MAX_CONNECTIONS" },
  { table := "database", key := "min_connections", kind := .nat32,
    get := (·.database.minConnections) }]

def moderationFields : List Field := [
  { table := "moderation", key := "auto_ban_enabled", kind := .flag,
    get := (·.moderation.autoBanEnabled), variableName? := "SOCIAL_AUTO_BAN_ENABLED" },
  { table := "moderation", key := "banned_words", kind := .texts,
    get := (·.moderation.bannedWords), variableName? := "SOCIAL_BANNED_WORDS" },
  { table := "moderation", key := "url_whitelist", kind := .texts,
    get := (·.moderation.urlWhitelist), variableName? := "SOCIAL_URL_WHITELIST" },
  { table := "moderation", key := "link_placeholder", kind := .text,
    get := (·.moderation.linkPlaceholder) },
  { table := "moderation", key := "spam_burst_limit", kind := .integer,
    get := (·.moderation.spamBurstLimit) },
  { table := "moderation", key := "spam_burst_window_secs", kind := .nat64,
    get := (·.moderation.spamBurstWindowSecs) },
  { table := "moderation", key := "spam_duplicate_limit", kind := .integer,
    get := (·.moderation.spamDuplicateLimit) },
  { table := "moderation", key := "spam_duplicate_window_secs", kind := .nat64,
    get := (·.moderation.spamDuplicateWindowSecs) },
  { table := "moderation", key := "spam_ban_hours", kind := .integer,
    get := (·.moderation.spamBanHours) },
  { table := "moderation", key := "severe_violation_threshold", kind := .integer,
    get := (·.moderation.severeViolationThreshold) },
  { table := "moderation", key := "severe_ban_hours", kind := .integer,
    get := (·.moderation.severeBanHours) },
  { table := "moderation", key := "violation_window_secs", kind := .nat64,
    get := (·.moderation.violationWindowSecs) }]

def subscriberFields : List Field := [
  { table := "subscriber", key := "processing_timeout_ms", kind := .nat64,
    get := (·.subscriber.processingTimeoutMs), variableName? := "SOCIAL_PROCESSING_TIMEOUT_MS" }]

def guildFields : List Field := [
  { table := "guild_progression", key := "level_up_experience", kind := .integer,
    get := (·.guildProgression.levelUpExperience) },
  { table := "guild_progression", key := "territory_capture_experience", kind := .integer,
    get := (·.guildProgression.territoryCaptureExperience) },
  { table := "guild_progression", key := "experience_per_level", kind := .integer,
    get := (·.guildProgression.experiencePerLevel) }]

def loggingFields : List Field := [
  { table := "logging", key := "level", kind := .text, get := (·.logging.level),
    variableName? := "SOCIAL_LOG_LEVEL", option? := levelOption? },
  { table := "logging", key := "format", kind := .text, get := (·.logging.format),
    variableName? := "SOCIAL_LOG_FORMAT", option? := formatOption? },
  { table := "logging", key := "file", kind := .path, get := (·.logging.file),
    option? := fun options => options.logFile.map some }]

def metricsFields : List Field := [
  { table := "metrics", key := "enabled", kind := .flag, get := (·.metrics.enabled),
    variableName? := "SOCIAL_METRICS_ENABLED" },
  { table := "metrics", key := "listen_addr", kind := .text, get := (·.metrics.listenAddr),
    variableName? := "SOCIAL_METRICS_LISTEN_ADDR" }]

def fields : List Field :=
  redisFields ++ databaseFields ++ moderationFields ++ subscriberFields ++ guildFields ++
    loggingFields ++ metricsFields

/-- Settings are determined by their fields. -/
theorem eq_of_fields {c d : Config} (same : ∀ field ∈ fields, field.get c = field.get d) :
    c = d := by
  simp only [fields, redisFields, databaseFields, moderationFields, subscriberFields, guildFields,
    loggingFields, metricsFields, List.cons_append, List.nil_append, List.forall_mem_cons,
    List.not_mem_nil, false_implies, implies_true, and_true] at same
  obtain ⟨⟨⟩, ⟨⟩, ⟨⟩, ⟨⟩, ⟨⟩, ⟨⟩, ⟨⟩⟩ := c
  obtain ⟨⟨⟩, ⟨⟩, ⟨⟩, ⟨⟩, ⟨⟩, ⟨⟩, ⟨⟩⟩ := d
  simp only at same
  simp only [same]

/-- No variable of the settings is without its field, and no two fields share one. -/
theorem variables_of_fields : (fields.filterMap (·.variableName?)).Perm variableNames := by
  decide

/-- The keys of a section, in the order of an array that stands for it. -/
def keysOf (table : String) : List String := (fields.filter (·.table == table)).map (·.key)

namespace Field

variable (field : Field)

def entry? (document : Toml.Members) : Option Toml := do
  let given ← document.find? field.table
  let members ← Toml.fields? (keysOf field.table) given
  members.find? field.key

def inDocument? (document : Toml.Members) : Option field.kind.Value :=
  (field.entry? document).bind field.kind.ofToml?

def variableIn? (env : Environment) : Option String := field.variableName?.bind env

def inEnvironment? (env : Environment) : Option field.kind.Value :=
  (field.variableIn? env).bind field.kind.ofVariable?

def fallback : field.kind.Value := field.get {}

/-- The value from the first source that gives one. -/
def value (options : Options) (env : Environment) (document : Toml.Members) : field.kind.Value :=
  (firstGiven [field.option? options, field.inEnvironment? env, field.inDocument? document]).getD
    field.fallback

/-- What the environment and the document hold for a field is of its kind. -/
def Legible (env : Environment) (document : Toml.Members) : Prop :=
  ((field.variableIn? env).isSome → (field.inEnvironment? env).isSome) ∧
    ((field.entry? document).isSome → (field.inDocument? document).isSome)

end Field

end Parley.Config
