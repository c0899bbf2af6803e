import Parley.Config.Basic
import Parley.Proofs.Filter.LoweredLinks
import Parley.Proofs.Filter.Violation

/-!
# Links left in a filtered message

Links are replaced before runs are shrunk and shouts are lowered. Right after replacing, every link
left is allowed. A shrunk run ends with dots, and what stood behind a word character before may now
begin a link. Lowering makes no link, but it rewrites those that stand in a shout.

The pattern of links is a link head and a link character behind it, where no word character stands
right before. A search from the left finds a link in a text exactly when the pattern matches at some
place of it. So a placeholder in which it matches nowhere brings no link, every link of a stripped
text is an allowed one, and stripping once more keeps it.
-/

namespace Parley.Filter

/-- The placeholder of a configuration that does not name one. -/
def defaultPlaceholder : String := ({} : Config.Moderation).linkPlaceholder

theorem not_isAllowed_of_no_hosts (link : List Char) : isAllowed [] link = false := by
  rw [isAllowed]
  split <;> rfl

/-- A text that stripping finds nothing in, with nothing allowed, has no link. -/
theorem not_findsLink_of_no_hit {text : List Char} (h : (stripLinks [] [] text).2 = false)
    (link : List Char) : ¬ FindsLink false text link := by
  intro found
  have hit : (stripLinks [] [] text).2 = true :=
    stripLinks_hit_iff.mpr ⟨link, found, not_isAllowed_of_no_hosts link⟩
  exact absurd (h.symm.trans hit) Bool.false_ne_true

theorem enclosed_default : Enclosed defaultPlaceholder.toList := by
  refine ⟨by decide, by decide, not_findsLink_of_no_hit ?_⟩
  decide +kernel

theorem stripLinks_content_iff (filter : Filter) (message : String) :
    (stripLinks filter.hosts filter.placeholder (filter.apply message).content.toList).2 = false ↔
      ∀ link, FindsLink false (filter.collapsedText message.toList) link →
        isAllowed filter.hosts (lowerShouts link).1 = true := by
  have links : ∀ other, FindsLink false (filter.apply message).content.toList other ↔
      ∃ link, FindsLink false (filter.collapsedText message.toList) link ∧
        (lowerShouts link).1 = other := by
    intro other
    simp only [apply_content, lowerShouts_eq_lowerBehind]
    exact findsLink_lowerBehind fun _ => rfl
  rw [← Bool.not_eq_true, stripLinks_hit_iff]
  simp only [links, not_exists, not_and, Bool.not_eq_false]
  constructor
  · intro h link found
    exact h _ ⟨link, found, rfl⟩
  · rintro h _ ⟨link, found, rfl⟩
    exact h link found

/-- For every whitelist, every list of banned words and every message, with the default
placeholder: right after replacing only allowed links are left, and without five equal characters in
a row the text stays so. Stripping the filtered text once more finds nothing exactly when each link
of the text with shrunk runs is allowed as it is written after lowering. -/
theorem leftover_links (bannedWords whitelist : List String) (message : String) :
    let filter := Filter.configure bannedWords whitelist defaultPlaceholder
    (∀ link, FindsLink false (filter.delinkedText message.toList) link →
      isAllowed filter.hosts link = true) ∧
    ((∀ c, ¬ List.replicate 5 c <:+: filter.delinkedText message.toList) →
      filter.collapsedText message.toList = filter.delinkedText message.toList) ∧
    ((stripLinks filter.hosts filter.placeholder (filter.apply message).content.toList).2 = false ↔
      ∀ link, FindsLink false (filter.collapsedText message.toList) link →
        isAllowed filter.hosts (lowerShouts link).1 = true) := by
  intro filter
  refine ⟨?_, ?_, stripLinks_content_iff filter message⟩
  · exact fun link found => isAllowed_of_findsLink_stripFrom enclosed_default found
  · intro norun
    refine collapseRuns_eq_of_no_hit ?_
    rw [← Bool.not_eq_true, collapseRuns_hit_iff]
    rintro ⟨c, row⟩
    exact norun c row

/-- Shrinking `aaaaa` puts a dot before a link that a letter preceded. -/
theorem leftover_of_shrunk_run :
    let filter := Filter.configure [] ["example.com"] defaultPlaceholder
    (stripLinks filter.hosts filter.placeholder
      (filter.apply "aaaaahttp://evil.test/x").content.toList).2 = true := by
  decide +kernel

section Twice

open Letter (isWordChar)

variable {hosts : List (List Char)} {placeholder text before place link : List Char}
  {afterWord : Bool} {c : Char}

/-- The pattern of links matches at the place behind the given text. -/
structure LinkAt (before place : List Char) : Prop where
  boundary : ∀ c ∈ before.getLast?, isWordChar c = false
  opens : ∃ head ∈ linkHeads, beginsWith head place = true ∧ ¬ Stopped (place.drop head.length)

/-- Whether a word character is the last one of a text, or stands before it if it is empty. -/
def endsInWord (afterWord : Bool) : List Char → Bool
  | [] => afterWord
  | c :: text => endsInWord (isWordChar c) text

theorem endsInWord_eq (afterWord : Bool) (text : List Char) :
    endsInWord afterWord text = (text.getLast?.map isWordChar).getD afterWord := by
  induction text generalizing afterWord with
  | nil => rfl
  | cons c text ih =>
    rw [endsInWord, ih, List.getLast?_cons]
    cases text.getLast? <;> rfl

theorem endsInWord_eq_false_iff :
    endsInWord false text = false ↔ ∀ c ∈ text.getLast?, isWordChar c = false := by
  rw [endsInWord_eq]
  cases text.getLast? with
  | none => simp
  | some c => simp

/-- A search finds a link exactly when a link begins at some place that no word character
precedes. -/
theorem exists_findsLink_iff : (∃ link, FindsLink afterWord text link) ↔
    ∃ before place, text = before ++ place ∧ endsInWord afterWord before = false ∧
      linkLength? place ≠ none := by
  induction text generalizing afterWord with
  | nil =>
    constructor
    · rintro ⟨link, found⟩
      exact absurd found not_findsLink_nil
    · rintro ⟨before, place, whole, -, begins⟩
      obtain ⟨-, rfl⟩ := List.append_eq_nil_iff.mp whole.symm
      exact absurd linkLength?_nil begins
  | cons c text ih =>
    by_cases skips : afterWord = true ∨ linkLength? (c :: text) = none
    · simp only [findsLink_cons skips, ih]
      constructor
      · rintro ⟨before, place, rfl, boundary, begins⟩
        exact ⟨c :: before, place, rfl, boundary, begins⟩
      · rintro ⟨before, place, whole, boundary, begins⟩
        cases before with
        | nil =>
          obtain rfl : c :: text = place := whole
          rcases skips with word | none_here
          · exact absurd (boundary.symm.trans word) Bool.false_ne_true
          · exact absurd none_here begins
        | cons d before =>
          obtain ⟨rfl, rfl⟩ := List.cons.inj whole
          exact ⟨before, place, rfl, boundary, begins⟩
    · obtain ⟨noWord, begins⟩ := not_or.mp skips
      obtain rfl : afterWord = false := Bool.eq_false_iff.mpr noWord
      obtain ⟨n, length⟩ := Option.ne_none_iff_exists'.mp begins
      exact iff_of_true ⟨_, .here length⟩ ⟨[], c :: text, rfl, rfl, begins⟩

/-- No link is found in a text exactly when the pattern matches nowhere in it. -/
theorem linkless_iff : (∀ link, ¬ FindsLink false text link) ↔
    ∀ before place, text = before ++ place → ¬ LinkAt before place := by
  have opens : ∀ place : List Char, linkLength? place ≠ none ↔
      ∃ head ∈ linkHeads, beginsWith head place = true ∧ ¬ Stopped (place.drop head.length) := by
    intro place
    rw [Ne, linkLength?_eq_none_iff, not_not, opens_linkSpan_iff]
  rw [← not_exists, exists_findsLink_iff]
  simp only [endsInWord_eq_false_iff, opens, not_exists, not_and]
  refine forall₂_congr fun before place => imp_congr_right fun _ => ?_
  constructor
  · rintro h ⟨boundary, head, listed, begins, goes_on⟩
    exact h boundary head listed begins goes_on
  · intro h boundary head listed begins goes_on
    exact h ⟨boundary, head, listed, begins, goes_on⟩

theorem isAllowed_iff : isAllowed hosts link = true ↔
    ∃ host, linkHost? link = some host ∧
      ∃ entry ∈ hosts, host = entry ∨ ('.' :: entry) <:+ host := by
  rw [isAllowed]
  cases linkHost? link with
  | none => simp
  | some host => simp

/-- For every whitelist, every placeholder in brackets in which the pattern of links matches
nowhere, and every text: stripping the stripped text once more changes nothing and finds nothing,
and the host of every link in it is a listed one or lies below a listed one. -/
theorem stripLinks_stripLinks (whitelist : List String) (placeholder text : List Char)
    (opens : placeholder.head? = some '[') (closes : placeholder.getLast? = some ']')
    (linkless : ∀ before place, placeholder = before ++ place → ¬ LinkAt before place) :
    let hosts := hostList whitelist
    let out := (stripLinks hosts placeholder text).1
    stripLinks hosts placeholder out = (out, false) ∧
      ∀ link, FindsLink false out link → ∃ host, linkHost? link = some host ∧
        ∃ entry ∈ hosts, host = entry ∨ ('.' :: entry) <:+ host := by
  intro hosts out
  have enclosed : Enclosed placeholder := ⟨opens, closes, linkless_iff.mpr linkless⟩
  have allowed : ∀ link, FindsLink false out link → isAllowed hosts link = true :=
    fun link found => isAllowed_of_findsLink_stripFrom enclosed found
  have noHit : (stripLinks hosts placeholder out).2 = false := by
    rw [← Bool.not_eq_true, stripLinks_hit_iff]
    rintro ⟨link, found, forbidden⟩
    exact absurd (forbidden.symm.trans (allowed link found)) Bool.false_ne_true
  refine ⟨Prod.ext (stripFrom_eq_of_no_hit noHit) noHit, fun link found => ?_⟩
  exact isAllowed_iff.mp (allowed link found)

/-- A link is found in what was cut off an allowed one at an escaped quote. -/
theorem stripLinks_stripLinks_hidden :
    let placeholder := "[link removed]".toList
    let text := "&quot;http://example.com&quot;http://evil.test, www.a.example.com!".toList
    let hosts := hostList ["*.Example.com"]
    let out := "&quot;http://example.com&quot;[link removed], www.a.example.com!".toList
    placeholder.head? = some '[' ∧ placeholder.getLast? = some ']' ∧
      (∀ before place, placeholder = before ++ place → ¬ LinkAt before place) ∧
      stripLinks hosts placeholder text = (out, true) ∧
      stripLinks hosts placeholder out = (out, false) ∧
      ∀ link, FindsLink false out link → ∃ host, linkHost? link = some host ∧
        ∃ entry ∈ hosts, host = entry ∨ ('.' :: entry) <:+ host := by
  intro placeholder text hosts out
  have opens : placeholder.head? = some '[' := by decide
  have closes : placeholder.getLast? = some ']' := by decide
  have linkless : ∀ before place, placeholder = before ++ place → ¬ LinkAt before place :=
    linkless_iff.mp (not_findsLink_of_no_hit (by decide +kernel))
  have stripped : stripLinks (hostList ["*.Example.com"]) placeholder text = (out, true) := by
    decide +kernel
  have again := stripLinks_stripLinks ["*.Example.com"] placeholder text opens closes linkless
  simp only [stripped] at again
  exact ⟨opens, closes, linkless, stripped, again⟩

end Twice

end Parley.Filter
