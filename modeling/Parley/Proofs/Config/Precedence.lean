import Mathlib.Data.List.Basic
import Parley.Proofs.Config.Fields

/-!
# Which source a setting comes from

Each layer either holds nothing for a field and leaves it, or holds something that can be read and
that the field takes. One lemma for each layer says so of all fields, and loading goes through the
layers one after the other.
-/

namespace Parley.Config

variable {α β : Type} {c d : Config} {options : Options} {env : Environment} {files : Files}
  {document : Toml.Members}

/-- A layer that holds something for a field gives it its value, and otherwise leaves the old. -/
inductive Taken (held : Option β) (read : β → Option α) (old : α) : α → Prop
  | left : held = none → Taken held read old old
  | given {b : β} {a : α} : held = some b → read b = some a → Taken held read old a

namespace Taken

variable {held : Option β} {read : β → Option α} {old new : α}

theorem eq_getD (taken : Taken held read old new) : new = (held.bind read).getD old := by
  cases taken with
  | left nothing => rw [nothing]; rfl
  | given holds reads => rw [holds, Option.bind_some, reads]; rfl

theorem isSome (taken : Taken held read old new) (holds : held.isSome) :
    (held.bind read).isSome := by
  cases taken with
  | left nothing =>
    rw [nothing] at holds
    exact absurd holds Bool.false_ne_true
  | given holds reads => rw [holds, Option.bind_some, reads]; rfl

/-- A choice that is made or left open, and then stands over an old value. -/
theorem getD {choice : Option α} (taken : Taken held (fun b => (read b).map some) none choice)
    (old : α) : Taken held read old (choice.getD old) := by
  generalize hopen : (none : Option α) = undecided at taken
  cases taken with
  | left nothing =>
    rw [← hopen]
    exact .left nothing
  | given holds reads =>
    obtain ⟨a, same, rfl⟩ := Option.map_eq_some_iff.mp reads
    exact .given holds same

end Taken

theorem taken_of_optional {members : Toml.Members} {name : String} {decode : Toml → Option α}
    {choice : Option α} (read : members.optional name decode = some choice) :
    Taken (members.find? name) (fun value => (decode value).map some) none choice := by
  unfold Toml.Members.optional at read
  cases found : members.find? name with
  | none =>
    rw [found] at read
    obtain rfl := Option.some.inj read
    exact .left rfl
  | some value =>
    rw [found] at read
    exact .given rfl read

theorem taken_of_withDefault {members : Toml.Members} {name : String} {decode : Toml → Option α}
    {old new : α} (read : members.withDefault name decode old = some new) :
    Taken (members.find? name) decode old new := by
  obtain ⟨choice, chosen, rfl⟩ := Option.map_eq_some_iff.mp read
  exact (taken_of_optional chosen).getD old

/-- The fields of settings that a document was laid over the defaults for. -/
def TakenFrom (document : Toml.Members) (c : Config) (listed : List Field) : Prop :=
  ∀ field ∈ listed,
    Taken (field.entry? document) field.kind.ofToml? field.fallback (field.get c)

/-- A section is missing, or it can be read as a record with these keys. -/
theorem takenFrom_section {listed : List Field} {table : String} {overlay? : Toml → Option α}
    {old new : α} (inTable : ∀ field ∈ listed, field.table = table)
    (laid : document.withDefault table overlay? old = some new)
    (missing : new = old → ∀ field ∈ listed, field.get c = field.fallback)
    (present : ∀ given, overlay? given = some new →
      ∃ members, Toml.fields? (keysOf table) given = some members ∧
        ∀ field ∈ listed,
          Taken (members.find? field.key) field.kind.ofToml? field.fallback (field.get c)) :
    TakenFrom document c listed := by
  intro field member
  have table_eq := inTable field member
  generalize hnew : new = result at laid
  cases taken_of_withDefault laid with
  | left nothing =>
    have none_held : field.entry? document = none := by
      rw [Field.entry?, table_eq, nothing]
      rfl
    rw [missing hnew field member]
    exact .left none_held
  | given holds reads =>
    obtain ⟨members, read, taken⟩ := present _ (hnew ▸ reads)
    have held : field.entry? document = members.find? field.key := by
      rw [Field.entry?, table_eq, holds, Option.bind_eq_bind, Option.bind_some, read]
      rfl
    rw [held]
    exact taken field member

theorem takenFrom_redis
    (laid : document.withDefault "redis" (Redis.overlay? {}) {} = some c.redis) :
    TakenFrom document c redisFields := by
  refine takenFrom_section (by decide) laid
    (fun same => by simp [redisFields, Field.fallback, same]) fun given read => ?_
  simp only [Redis.overlay?, Option.bind_eq_bind, Option.pure_def, Option.bind_eq_some_iff,
    Option.some.injEq] at read
  obtain ⟨members, fields, url, hurl, size, hsize, idle, hidle, connection, hconnection, command,
    hcommand, timeout, htimeout, same⟩ := read
  refine ⟨members, fields, ?_⟩
  simp only [redisFields, List.forall_mem_cons, List.not_mem_nil, false_implies, implies_true,
    and_true, ← same]
  exact ⟨taken_of_withDefault hurl, taken_of_withDefault hsize, taken_of_withDefault hidle,
    taken_of_withDefault hconnection, taken_of_withDefault hcommand,
    taken_of_withDefault htimeout⟩

theorem takenFrom_database
    (laid : document.withDefault "database" (Database.overlay? {}) {} = some c.database) :
    TakenFrom document c databaseFields := by
  refine takenFrom_section (by decide) laid
    (fun same => by simp [databaseFields, Field.fallback, same]) fun given read => ?_
  simp only [Database.overlay?, Option.bind_eq_bind, Option.pure_def, Option.bind_eq_some_iff,
    Option.some.injEq] at read
  obtain ⟨members, fields, url, hurl, most, hmost, least, hleast, same⟩ := read
  refine ⟨members, fields, ?_⟩
  simp only [databaseFields, List.forall_mem_cons, List.not_mem_nil, false_implies, implies_true,
    and_true, ← same]
  exact ⟨taken_of_withDefault hurl, taken_of_withDefault hmost, taken_of_withDefault hleast⟩

theorem takenFrom_moderation
    (laid : document.withDefault "moderation" (Moderation.overlay? {}) {} = some c.moderation) :
    TakenFrom document c moderationFields := by
  refine takenFrom_section (by decide) laid
    (fun same => by simp [moderationFields, Field.fallback, same]) fun given read => ?_
  unfold Moderation.overlay? at read
  obtain ⟨members, fields, read⟩ := Option.bind_eq_some_iff.mp read
  obtain ⟨autoBan, hautoBan, read⟩ := Option.bind_eq_some_iff.mp read
  obtain ⟨words, hwords, read⟩ := Option.bind_eq_some_iff.mp read
  obtain ⟨whitelist, hwhitelist, read⟩ := Option.bind_eq_some_iff.mp read
  obtain ⟨placeholder, hplaceholder, read⟩ := Option.bind_eq_some_iff.mp read
  obtain ⟨burst, hburst, read⟩ := Option.bind_eq_some_iff.mp read
  obtain ⟨burstWindow, hburstWindow, read⟩ := Option.bind_eq_some_iff.mp read
  obtain ⟨duplicate, hduplicate, read⟩ := Option.bind_eq_some_iff.mp read
  obtain ⟨duplicateWindow, hduplicateWindow, read⟩ := Option.bind_eq_some_iff.mp read
  obtain ⟨banHours, hbanHours, read⟩ := Option.bind_eq_some_iff.mp read
  obtain ⟨threshold, hthreshold, read⟩ := Option.bind_eq_some_iff.mp read
  obtain ⟨severeHours, hsevereHours, read⟩ := Option.bind_eq_some_iff.mp read
  obtain ⟨window, hwindow, read⟩ := Option.bind_eq_some_iff.mp read
  have same := Option.some.inj read
  refine ⟨members, fields, ?_⟩
  simp only [moderationFields, List.forall_mem_cons, List.not_mem_nil, false_implies,
    implies_true, and_true, ← same]
  exact ⟨taken_of_withDefault hautoBan, taken_of_withDefault hwords,
    taken_of_withDefault hwhitelist, taken_of_withDefault hplaceholder,
    taken_of_withDefault hburst, taken_of_withDefault hburstWindow,
    taken_of_withDefault hduplicate, taken_of_withDefault hduplicateWindow,
    taken_of_withDefault hbanHours, taken_of_withDefault hthreshold,
    taken_of_withDefault hsevereHours, taken_of_withDefault hwindow⟩

theorem takenFrom_subscriber
    (laid : document.withDefault "subscriber" (Subscriber.overlay? {}) {} = some c.subscriber) :
    TakenFrom document c subscriberFields := by
  refine takenFrom_section (by decide) laid
    (fun same => by simp [subscriberFields, Field.fallback, same]) fun given read => ?_
  simp only [Subscriber.overlay?, Option.bind_eq_bind, Option.pure_def, Option.bind_eq_some_iff,
    Option.some.injEq] at read
  obtain ⟨members, fields, timeout, htimeout, same⟩ := read
  refine ⟨members, fields, ?_⟩
  simp only [subscriberFields, List.forall_mem_cons, List.not_mem_nil, false_implies,
    implies_true, and_true, ← same]
  exact taken_of_withDefault htimeout

theorem takenFrom_guild
    (laid : document.withDefault "guild_progression" (GuildProgression.overlay? {}) {} =
      some c.guildProgression) :
    TakenFrom document c guildFields := by
  refine takenFrom_section (by decide) laid
    (fun same => by simp [guildFields, Field.fallback, same]) fun given read => ?_
  simp only [GuildProgression.overlay?, Option.bind_eq_bind, Option.pure_def,
    Option.bind_eq_some_iff, Option.some.injEq] at read
  obtain ⟨members, fields, rise, hrise, capture, hcapture, perLevel, hperLevel, same⟩ := read
  refine ⟨members, fields, ?_⟩
  simp only [guildFields, List.forall_mem_cons, List.not_mem_nil, false_implies, implies_true,
    and_true, ← same]
  exact ⟨taken_of_withDefault hrise, taken_of_withDefault hcapture,
    taken_of_withDefault hperLevel⟩

theorem takenFrom_logging
    (laid : document.withDefault "logging" (Logging.overlay? {}) {} = some c.logging) :
    TakenFrom document c loggingFields := by
  refine takenFrom_section (by decide) laid
    (fun same => by simp [loggingFields, Field.fallback, same]) fun given read => ?_
  simp only [Logging.overlay?, LoggingChoice.ofToml?, Option.bind_eq_bind, Option.pure_def,
    Option.bind_eq_some_iff, Option.some.injEq] at read
  obtain ⟨_, ⟨members, fields, level, hlevel, format, hformat, file, hfile, rfl⟩, same⟩ := read
  refine ⟨members, fields, ?_⟩
  simp only [loggingFields, List.forall_mem_cons, List.not_mem_nil, false_implies, implies_true,
    and_true, ← same, Option.or_none]
  exact ⟨(taken_of_optional hlevel).getD _, (taken_of_optional hformat).getD _,
    taken_of_optional hfile⟩

theorem takenFrom_metrics
    (laid : document.withDefault "metrics" (Metrics.overlay? {}) {} = some c.metrics) :
    TakenFrom document c metricsFields := by
  refine takenFrom_section (by decide) laid
    (fun same => by simp [metricsFields, Field.fallback, same]) fun given read => ?_
  simp only [Metrics.overlay?, Option.bind_eq_bind, Option.pure_def, Option.bind_eq_some_iff,
    Option.some.injEq] at read
  obtain ⟨members, fields, enabled, henabled, address, haddress, same⟩ := read
  refine ⟨members, fields, ?_⟩
  simp only [metricsFields, List.forall_mem_cons, List.not_mem_nil, false_implies, implies_true,
    and_true, ← same]
  exact ⟨taken_of_withDefault henabled, taken_of_withDefault haddress⟩

/-- A document gives the fields it has, and leaves the others at their defaults. -/
theorem takenFrom_ofMembers (read : ofMembers? document = some c) :
    TakenFrom document c fields := by
  simp only [ofMembers?, Option.bind_eq_bind, Option.pure_def, Option.bind_eq_some_iff,
    Option.some.injEq] at read
  obtain ⟨redis, hredis, database, hdatabase, moderation, hmoderation, subscriber, hsubscriber,
    guild, hguild, logging, hlogging, metrics, hmetrics, rfl⟩ := read
  simp only [fields, TakenFrom, List.forall_mem_append]
  exact ⟨⟨⟨⟨⟨⟨takenFrom_redis hredis, takenFrom_database hdatabase⟩,
    takenFrom_moderation hmoderation⟩, takenFrom_subscriber hsubscriber⟩,
    takenFrom_guild hguild⟩, takenFrom_logging hlogging⟩, takenFrom_metrics hmetrics⟩

theorem taken_of_read {name : String} {reader : List Char → Except Misread α} {old new : α}
    (read : env.read name reader old = .ok new) :
    Taken (env name) (fun text => (reader (Text.trim text.toList)).toOption) old new := by
  unfold Environment.read at read
  cases held : env name with
  | none =>
    rw [held] at read
    obtain rfl := Except.ok.inj read
    exact .left rfl
  | some text =>
    rw [held] at read
    refine .given rfl ?_
    dsimp only at read ⊢
    cases reads : reader (Text.trim text.toList) with
    | error reason => simp [reads] at read
    | ok a =>
      rw [reads] at read
      exact congrArg some (Except.ok.inj read)

theorem taken_text (env : Environment) (name old : String) :
    Taken (env name) (Kind.ofVariable? .text) old (env.text name old) := by
  unfold Environment.text
  cases held : env name with
  | none => exact .left rfl
  | some text => exact .given rfl rfl

theorem taken_list (env : Environment) (name : String) (old : List String) :
    Taken (env name) (Kind.ofVariable? .texts) old (env.list name old) := by
  unfold Environment.list
  cases held : env name with
  | none => exact .left rfl
  | some text => exact .given rfl rfl

theorem exists_of_bind_ok {ε : Type} {first : Except ε α} {next : α → Except ε β} {b : β}
    (run : first >>= next = .ok b) : ∃ a, first = .ok a ∧ next a = .ok b := by
  cases first with
  | error e => exact nomatch run
  | ok a => exact ⟨a, rfl, run⟩

/-- Each variable goes to its own field, and the other fields are left. -/
theorem taken_of_withEnvironment (merged : withEnvironment env c = .ok d) :
    ∀ field ∈ fields,
      Taken (field.variableIn? env) field.kind.ofVariable? (field.get c) (field.get d) := by
  obtain ⟨size, hsize, merged⟩ := exists_of_bind_ok merged
  obtain ⟨most, hmost, merged⟩ := exists_of_bind_ok merged
  obtain ⟨autoBan, hautoBan, merged⟩ := exists_of_bind_ok merged
  obtain ⟨timeout, htimeout, merged⟩ := exists_of_bind_ok merged
  obtain ⟨enabled, henabled, merged⟩ := exists_of_bind_ok merged
  obtain rfl := Except.ok.inj merged
  simp only [fields, redisFields, databaseFields, moderationFields, subscriberFields, guildFields,
    loggingFields, metricsFields, List.cons_append, List.nil_append, List.forall_mem_cons,
    List.not_mem_nil, false_implies, implies_true, and_true]
  refine ⟨
    -- redis
    taken_text .., taken_of_read hsize, .left rfl, .left rfl, .left rfl, .left rfl,
    -- database
    taken_text .., taken_of_read hmost, .left rfl,
    -- moderation
    taken_of_read hautoBan, taken_list .., taken_list .., .left rfl, .left rfl, .left rfl,
    .left rfl, .left rfl, .left rfl, .left rfl, .left rfl, .left rfl,
    -- subscriber
    taken_of_read htimeout,
    -- guild progression
    .left rfl, .left rfl, .left rfl,
    -- logging
    taken_text .., taken_text .., .left rfl,
    -- metrics
    taken_of_read henabled, taken_text ..⟩

theorem levelOption?_eq (options : Options) : levelOption? options = options.level? := by
  unfold levelOption? Options.level?
  simp only [firstGiven_cons, firstGiven_nil, Option.or_none]
  cases options.quiet <;> cases options.dev <;> rfl

theorem formatOption?_eq (options : Options) : formatOption? options = options.format? := by
  unfold formatOption? Options.format?
  simp only [firstGiven_cons, firstGiven_nil, Option.or_none]
  cases options.dev <;> rfl

/-- Each option goes to its own field, and the other fields are left. -/
theorem get_withOptions (options : Options) (c : Config) :
    ∀ field ∈ fields,
      field.get (c.withOptions options) = (field.option? options).getD (field.get c) := by
  have file : options.logFile.or c.logging.file =
      (options.logFile.map some).getD c.logging.file := by
    cases options.logFile <;> rfl
  simp only [fields, redisFields, databaseFields, moderationFields, subscriberFields, guildFields,
    loggingFields, metricsFields, List.cons_append, List.nil_append, List.forall_mem_cons,
    List.not_mem_nil, false_implies, implies_true, and_true, withOptions, levelOption?_eq,
    formatOption?_eq, file, Option.getD_none]

/-- The document from which settings are read: the one that the command line names, if it exists,
and `config.toml` if the command line names none and it exists. Without a document there are no
entries. -/
inductive Selects (options : Options) (files : Files) : Toml.Members → Prop
  | named {path text : String} {document : Toml.Members} : options.configFile = some path →
      files path = .text text → Toml.parse? text = some document → Selects options files document
  | passedOver {path : String} : options.configFile = some path → files path = .missing →
      Selects options files []
  | found {text : String} {document : Toml.Members} : options.configFile = none →
      files "config.toml" = .text text → Toml.parse? text = some document →
      Selects options files document
  | absent : options.configFile = none → files "config.toml" = .missing → Selects options files []

/-- A file that is passed over counts as an empty document. -/
theorem document_of_ofOptionalFile {path : String} {state : FileState}
    (read : ofOptionalFile path state = .ok c) :
    (state = .missing ∧ ofMembers? [] = some c) ∨
      ∃ text document, state = .text text ∧ Toml.parse? text = some document ∧
        ofMembers? document = some c := by
  cases state with
  | missing =>
    obtain rfl := Except.ok.inj read
    exact .inl ⟨rfl, rfl⟩
  | unreadable => exact nomatch read
  | binary bytes => exact nomatch read
  | text text =>
    simp only [ofOptionalFile, ofFile] at read
    cases parsed : ofText? text with
    | none => simp [parsed] at read
    | some settings =>
      rw [parsed] at read
      obtain rfl := Except.ok.inj read
      obtain ⟨document, parses, members⟩ := Option.bind_eq_some_iff.mp parsed
      exact .inr ⟨text, document, rfl, parses, members⟩

theorem selects_of_ofOptionalFile
    (read : ofOptionalFile (documentPath options) (files (documentPath options)) = .ok c) :
    ∃ document, Selects options files document ∧ ofMembers? document = some c := by
  have found := document_of_ofOptionalFile read
  unfold documentPath at found
  cases named : options.configFile with
  | some path =>
    rw [named] at found
    rcases found with ⟨missing, defaults⟩ | ⟨text, document, stands, parses, members⟩
    · exact ⟨[], .passedOver named missing, defaults⟩
    · exact ⟨document, .named named stands parses, members⟩
  | none =>
    rw [named] at found
    rcases found with ⟨missing, defaults⟩ | ⟨text, document, stands, parses, members⟩
    · exact ⟨[], .absent named missing, defaults⟩
    · exact ⟨document, .found named stands parses, members⟩

theorem of_mapError_ok {ε ε' : Type} {f : ε → ε'} {result : Except ε α} {a : α}
    (run : result.mapError f = .ok a) : result = .ok a := by
  cases result with
  | error e => exact nomatch run
  | ok b => exact congrArg Except.ok (Except.ok.inj run)

/-- Loading goes through the layers from the last to the first. -/
theorem layers_of_load (loaded : load options env files = .ok c) :
    ∃ fromFile merged,
      ofOptionalFile (documentPath options) (files (documentPath options)) = .ok fromFile ∧
        withEnvironment env fromFile = .ok merged ∧ c = merged.withOptions options ∧
        c.validate = .ok () := by
  obtain ⟨fromFile, read, loaded⟩ := exists_of_bind_ok loaded
  obtain ⟨merged, overridden, loaded⟩ := exists_of_bind_ok loaded
  obtain ⟨⟨⟩, valid, loaded⟩ := exists_of_bind_ok loaded
  obtain rfl := Except.ok.inj loaded
  exact ⟨fromFile, merged, read, of_mapError_ok overridden, rfl, of_mapError_ok valid⟩

/-- For all options, environments and files on which loading succeeds: each field has the value of
the first source that gives one, in the order command line, environment, document, default; nothing
that a source holds is illegible; no other settings have these values; and the settings are
valid. -/
theorem load_by_precedence (options : Options) (env : Environment) (files : Files) (c : Config)
    (loaded : load options env files = .ok c) :
    (∃ document, Selects options files document ∧
      (∀ field ∈ fields, field.Legible env document ∧
        field.get c = field.value options env document) ∧
      ∀ d, (∀ field ∈ fields, field.get d = field.value options env document) → d = c) ∧
    c.validate = .ok () := by
  obtain ⟨fromFile, merged, read, environment, rfl, valid⟩ := layers_of_load loaded
  obtain ⟨document, selected, members⟩ := selects_of_ofOptionalFile read
  have values : ∀ field ∈ fields, field.Legible env document ∧
      field.get (merged.withOptions options) = field.value options env document := by
    intro field listed
    have given := takenFrom_ofMembers members field listed
    have overridden := taken_of_withEnvironment environment field listed
    refine ⟨⟨overridden.isSome, given.isSome⟩, ?_⟩
    rw [get_withOptions options merged field listed, overridden.eq_getD, given.eq_getD]
    simp only [Field.value, firstGiven_cons, firstGiven_nil, Option.or_none, Option.getD_or]
    rfl
  refine ⟨⟨document, selected, values, ?_⟩, valid⟩
  intro d same
  refine eq_of_fields fun field listed => ?_
  rw [same field listed, (values field listed).2]

/-- A named document, two variables and two options, each over what lies below it. -/
theorem load_by_precedence_layers :
    let options : Options :=
      { configFile := "service.toml", redisUrl := "redis://option", verbose := 2 }
    let env : Environment := fun name =>
      if name = "REDIS_URL" then some "redis://variable"
      else if name = "SOCIAL_REDIS_POOL_SIZE" then some " 8 " else none
    let files : Files := fun path =>
      if path = "service.toml" then
        .text "[redis]\npool_size = 4\nmin_idle = 1\n[logging]\nlevel = \"trace\""
      else .missing
    let c : Config :=
      { redis := { url := "redis://option", poolSize := 8, minIdle := 1 },
        logging := { level := "debug" } }
    load options env files = .ok c ∧
      (∃ document, Selects options files document ∧
        ∀ field ∈ fields, field.get c = field.value options env document) ∧
      c.validate = .ok () := by
  intro options env files c
  have loaded : load options env files = .ok c := by decide +kernel
  obtain ⟨⟨document, selected, values, _⟩, valid⟩ := load_by_precedence options env files c loaded
  exact ⟨loaded, ⟨document, selected, fun field listed => (values field listed).2⟩, valid⟩

end Parley.Config
