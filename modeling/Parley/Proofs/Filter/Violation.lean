import Parley.Filter.Basic
import Parley.Proofs.Filter.Links
import Parley.Proofs.Filter.Occurrence
import Parley.Proofs.Filter.Runs
import Parley.Proofs.Filter.Shouting

/-!
# What counts as a violation

Each step of the filter is the identity when it finds nothing. So a message is no violation exactly
when none of the four steps would find anything in the escaped message itself, and it is then
passed on escaped and otherwise as it was.
-/

namespace Parley.Filter

/-- A word of a configured list: an entry without the blanks around it, unless nothing is left. -/
def Configured (bannedWords : List String) (word : List Char) : Prop :=
  word ≠ [] ∧ ∃ w ∈ bannedWords, Text.trim w.toList = word

/-- The words of a filter are those configured. -/
theorem mem_wordList_iff_configured {bannedWords : List String} {word : List Char} :
    word ∈ wordList bannedWords ↔ Configured bannedWords word := by
  simp [wordList, Configured, and_comm]

/-- A text without a banned word, a link that is not allowed, a long run or shouting. -/
structure Harmless (bannedWords whitelist : List String) (text : List Char) : Prop where
  words : ∀ word, Configured bannedWords word → ¬ Occurs word text
  links : ∀ link, FindsLink false text link → isAllowed (hostList whitelist) link = true
  runs : ∀ c, ¬ List.replicate 5 c <:+: text
  capitals : ¬ Shouts text

def maskedText (filter : Filter) (message : List Char) : List Char :=
  (maskWords filter.words (Markup.escape message)).1

def delinkedText (filter : Filter) (message : List Char) : List Char :=
  (stripLinks filter.hosts filter.placeholder (filter.maskedText message)).1

def collapsedText (filter : Filter) (message : List Char) : List Char :=
  (collapseRuns (filter.delinkedText message)).1

theorem apply_content (filter : Filter) (message : String) :
    (filter.apply message).content.toList =
      (lowerShouts (filter.collapsedText message.toList)).1 := by
  rw [apply, String.toList_ofList]
  rfl

variable {filter : Filter} {message : List Char}

/-- None of the four steps finds anything, each on the escaped message. -/
def Silent (filter : Filter) (text : List Char) : Prop :=
  (maskWords filter.words text).2 = false ∧
    (stripLinks filter.hosts filter.placeholder text).2 = false ∧
    (collapseRuns text).2 = false ∧ (lowerShouts text).2 = false

/-- The steps work on the outcome of each other, but as long as none finds anything that is the
escaped message. -/
theorem applyChars_violation_iff :
    (filter.applyChars message).2 = false ↔ filter.Silent (Markup.escape message) := by
  simp only [applyChars, Bool.or_eq_false_iff, Silent]
  constructor
  · rintro ⟨⟨⟨word, link⟩, run⟩, shout⟩
    rw [maskWords_eq_of_no_hit word] at link run shout
    have same : (stripLinks filter.hosts filter.placeholder (Markup.escape message)).1 =
        Markup.escape message := stripFrom_eq_of_no_hit link
    rw [same] at run shout
    rw [collapseRuns_eq_of_no_hit run] at shout
    exact ⟨word, link, run, shout⟩
  · rintro ⟨word, link, run, shout⟩
    have same : (stripLinks filter.hosts filter.placeholder (Markup.escape message)).1 =
        Markup.escape message := stripFrom_eq_of_no_hit link
    rw [maskWords_eq_of_no_hit word, same, collapseRuns_eq_of_no_hit run]
    exact ⟨⟨⟨word, link⟩, run⟩, shout⟩

theorem applyChars_of_silent (silent : filter.Silent (Markup.escape message)) :
    (filter.applyChars message).1 = Markup.escape message := by
  obtain ⟨word, link, run, shout⟩ := silent
  have same : (stripLinks filter.hosts filter.placeholder (Markup.escape message)).1 =
      Markup.escape message := stripFrom_eq_of_no_hit link
  simp only [applyChars]
  rw [maskWords_eq_of_no_hit word, same, collapseRuns_eq_of_no_hit run,
    lowerShouts_eq_of_no_hit shout]

/-- No step finds anything in a harmless text, and in no other. -/
theorem silent_iff_harmless {bannedWords whitelist : List String} {placeholder : String}
    {text : List Char} :
    (Filter.configure bannedWords whitelist placeholder).Silent text ↔
      Harmless bannedWords whitelist text := by
  have nonempty : ∀ word ∈ wordList bannedWords, word ≠ [] := fun word listed =>
    (mem_wordList_iff_configured.mp listed).1
  have words : (maskWords (wordList bannedWords) text).2 = false ↔
      ∀ word, Configured bannedWords word → ¬ Occurs word text := by
    rw [← Bool.not_eq_true, maskWords_hit_iff nonempty]
    simp only [not_exists, not_and, mem_wordList_iff_configured]
  have links : (stripLinks (hostList whitelist) placeholder.toList text).2 = false ↔
      ∀ link, FindsLink false text link → isAllowed (hostList whitelist) link = true := by
    rw [← Bool.not_eq_true, stripLinks_hit_iff]
    simp only [not_exists, not_and, Bool.not_eq_false]
  have runs : (collapseRuns text).2 = false ↔ ∀ c, ¬ List.replicate 5 c <:+: text := by
    rw [← Bool.not_eq_true, collapseRuns_hit_iff]
    simp only [not_exists]
  have capitals : (lowerShouts text).2 = false ↔ ¬ Shouts text := by
    rw [← Bool.not_eq_true, lowerShouts_hit_iff]
  simp only [Silent, configure, words, links, runs, capitals]
  constructor
  · rintro ⟨words, links, runs, capitals⟩
    exact ⟨words, links, runs, capitals⟩
  · rintro ⟨words, links, runs, capitals⟩
    exact ⟨words, links, runs, capitals⟩

/-- For every configuration and message: the filter reports no violation exactly when the escaped
message holds no banned word, no link that is not allowed, no long run and no shouting; and then it
returns the escaped message. -/
theorem violation_eq_false_iff_harmless (bannedWords whitelist : List String)
    (placeholder message : String) :
    let outcome := (Filter.configure bannedWords whitelist placeholder).apply message
    let escaped := Markup.escape message.toList
    (outcome.violation = false ↔ Harmless bannedWords whitelist escaped) ∧
      (outcome.violation = false → outcome.content = String.ofList escaped) := by
  intro outcome escaped
  have violation : outcome.violation = false ↔
      (Filter.configure bannedWords whitelist placeholder).Silent escaped :=
    applyChars_violation_iff
  refine ⟨violation.trans silent_iff_harmless, fun quiet => ?_⟩
  exact congrArg String.ofList (applyChars_of_silent (violation.mp quiet))

end Parley.Filter
