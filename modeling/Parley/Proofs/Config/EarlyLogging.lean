import Parley.Proofs.Config.Precedence

/-!
# The log before the settings

The log is opened before the settings are loaded, with the logging section of the document read
alone. When loading succeeds the two readings of the section agree, and so do the settings of the
log, up to the two variables that only loading looks at.
-/

namespace Parley.Config

variable {c d : Config} {options : Options} {env : Environment} {files : Files}

/-- The settings that a choice leads to. -/
def LoggingChoice.settled (choice : LoggingChoice) : Logging where
  level := choice.level.getD "info"
  format := choice.format.getD "compact"
  file := choice.file

theorem overlay?_eq_some {given : Toml} {logging : Logging} :
    Logging.overlay? {} given = some logging ↔
      ∃ choice, LoggingChoice.ofToml? given = some choice ∧ choice.settled = logging := by
  simp only [Logging.overlay?, Option.bind_eq_bind, Option.pure_def, Option.bind_eq_some_iff,
    Option.some.injEq, Option.or_none]
  rfl

/-- A section that is read with all others is read as it would be alone. -/
theorem logging_of_ofText {text : String} {document : Toml.Members}
    (parses : Toml.parse? text = some document) (read : ofMembers? document = some c) :
    c.logging = (LoggingChoice.ofText text).settled := by
  simp only [ofMembers?, Option.bind_eq_bind, Option.pure_def, Option.bind_eq_some_iff,
    Option.some.injEq] at read
  obtain ⟨_, _, _, _, _, _, _, _, _, _, logging, laid, _, _, rfl⟩ := read
  obtain ⟨chosen, optional, rfl⟩ := Option.map_eq_some_iff.mp laid
  unfold LoggingChoice.ofText
  rw [parses, Option.bind_eq_bind, Option.bind_some]
  unfold Toml.Members.optional at optional ⊢
  cases held : document.find? "logging" with
  | none =>
    rw [held] at optional
    obtain rfl := Option.some.inj optional
    rfl
  | some given =>
    rw [held] at optional
    obtain ⟨settings, overlaid, rfl⟩ := Option.map_eq_some_iff.mp optional
    obtain ⟨choice, chosen, rfl⟩ := overlay?_eq_some.mp overlaid
    dsimp only
    rw [chosen]
    rfl

theorem logging_of_ofOptionalFile
    (read : ofOptionalFile (documentPath options) (files (documentPath options)) = .ok c) :
    c.logging = (loggingChoice options.configFile files).settled := by
  unfold loggingChoice
  change c.logging =
    (((files (documentPath options)).content?.map LoggingChoice.ofText).getD {}).settled
  rcases document_of_ofOptionalFile read with
    ⟨missing, defaults⟩ | ⟨text, document, stands, parses, members⟩
  · rw [missing]
    obtain rfl := Option.some.inj defaults
    rfl
  · rw [stands]
    exact logging_of_ofText parses members

theorem logging_of_withEnvironment (merged : withEnvironment env c = .ok d) :
    d.logging = { c.logging with
      level := (env "SOCIAL_LOG_LEVEL").getD c.logging.level
      format := (env "SOCIAL_LOG_FORMAT").getD c.logging.format } := by
  obtain ⟨size, -, merged⟩ := exists_of_bind_ok merged
  obtain ⟨most, -, merged⟩ := exists_of_bind_ok merged
  obtain ⟨autoBan, -, merged⟩ := exists_of_bind_ok merged
  obtain ⟨timeout, -, merged⟩ := exists_of_bind_ok merged
  obtain ⟨enabled, -, merged⟩ := exists_of_bind_ok merged
  obtain rfl := Except.ok.inj merged
  rfl

/-- What only one of two orders looks at makes a difference where nothing goes before it in both
and it gives another value. -/
theorem getD_eq_getD_or_iff (first between later : Option String) (last : String) :
    first.getD (between.getD (later.getD last)) = (first.or later).getD last ↔
      first.isSome ∨ ∀ given, between = some given → given = (first.or later).getD last := by
  cases first with
  | some value => exact iff_of_true rfl (.inl rfl)
  | none =>
    cases between with
    | none => exact iff_of_true rfl (.inr fun _ nothing => nomatch nothing)
    | some given => simp

/-- For all options, environments and files on which loading succeeds: the file of the log is the
one from before loading. So is its level, unless the command line gives none and the variable
`SOCIAL_LOG_LEVEL` gives another; and so is its format, unless the command line gives none and the
variable `SOCIAL_LOG_FORMAT` gives another. -/
theorem load_agrees_with_early (options : Options) (env : Environment) (files : Files)
    (c : Config) (loaded : load options env files = .ok c) :
    let early := earlyLogging options files
    c.logging.file = early.file ∧
      (c.logging.level = early.level ↔ options.level?.isSome ∨
        ∀ level, env "SOCIAL_LOG_LEVEL" = some level → level = early.level) ∧
      (c.logging.format = early.format ↔ options.format?.isSome ∨
        ∀ format, env "SOCIAL_LOG_FORMAT" = some format → format = early.format) := by
  intro early
  obtain ⟨fromFile, merged, read, environment, rfl, -⟩ := layers_of_load loaded
  have overridden := logging_of_withEnvironment environment
  rw [logging_of_ofOptionalFile read] at overridden
  simp only [withOptions, overridden, LoggingChoice.settled]
  exact ⟨rfl, getD_eq_getD_or_iff .., getD_eq_getD_or_iff ..⟩

/-- The document gives the level and the file, and the command line the format, over a variable. -/
theorem load_agrees_with_early_document :
    let options : Options := { logFormat := "json" }
    let env : Environment := fun name => if name = "SOCIAL_LOG_FORMAT" then some "pretty" else none
    let files : Files := fun path =>
      if path = "config.toml" then .text "[logging]\nlevel = \"warn\"\nfile = \"a.log\""
      else .missing
    let c : Config := { logging := ⟨"warn", "json", "a.log"⟩ }
    load options env files = .ok c ∧ c.logging = earlyLogging options files := by
  intro options env files c
  have loaded : load options env files = .ok c := by decide +kernel
  obtain ⟨file, level, format⟩ := load_agrees_with_early options env files c loaded
  have same_level : c.logging.level = (earlyLogging options files).level :=
    level.mpr (.inr fun _ given => nomatch given)
  have same_format : c.logging.format = (earlyLogging options files).format :=
    format.mpr (.inl rfl)
  rw [Logging.mk.injEq]
  exact ⟨loaded, same_level, same_format, file⟩

/-- With `SOCIAL_LOG_LEVEL=debug` and nothing else, the settings that are loaded ask for another
level than the one that the log is opened with. -/
theorem early_level_without_variable :
    let env : Environment := fun name => if name = "SOCIAL_LOG_LEVEL" then some "debug" else none
    let files : Files := fun _ => .missing
    let c : Config := { logging := { level := "debug" } }
    load {} env files = .ok c ∧ (earlyLogging {} files).level = "info" ∧
      c.logging ≠ earlyLogging {} files := by
  decide +kernel

end Parley.Config
