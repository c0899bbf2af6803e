import Parley.Moderation.Rules
import Parley.Proofs.Filter.Violation
import Parley.Proofs.Letter.Case

/-!
# Masking

What masking writes has as many characters as the text, and each of them is the one that stood
there or a star. When no configured word holds a star, no configured word is left, so that masking
once more finds nothing.

`Masked` says which characters become stars: going from the left, those of the longest configured
word that begins at a place, and the search goes on behind it. The relation knows the configured
words as a set. As a text is masked by it in one way only, the order of the list, repeated entries,
blank ones and the blanks around an entry do not count.
-/

namespace Parley.Filter

open Letter (sameLetter)

variable {bannedWords : List String} {words : List (List Char)} {word text out : List Char}
variable {banned : List Char → Prop} {hit : Bool} {c : Char}

theorem eq_star_of_sameLetter (h : sameLetter c '*' = true) : c = '*' :=
  Letter.eq_of_sameLetter_of_not_isAlpha (by decide) (by decide) h

theorem Configured.starless (h : Configured bannedWords word)
    (plain : ∀ w ∈ bannedWords, '*' ∉ w.toList) : Starless word := by
  obtain ⟨-, w, listed, rfl⟩ := h
  intro c hc
  cases same : sameLetter c '*' with
  | false => rfl
  | true =>
    obtain rfl := eq_star_of_sameLetter same
    exact absurd (mem_of_mem_trim hc) (plain w listed)

/-- Masking any list of words overwrites characters by stars and does nothing else. -/
theorem overwritten_maskFrom (words : List (List Char)) (covered : Nat) (text : List Char) :
    List.Forall₂ (fun c d => d = c ∨ d = '*') text (maskFrom words covered text).1 := by
  induction text generalizing covered with
  | nil =>
    rw [maskFrom_nil]
    exact .nil
  | cons c text ih =>
    cases covered with
    | succ covered => exact .cons (.inr rfl) (ih covered)
    | zero =>
      cases found : wordAt? words (c :: text) with
      | none =>
        rw [maskFrom_none found]
        exact .cons (.inl rfl) (ih 0)
      | some word =>
        rw [maskFrom_some found]
        exact .cons (.inr rfl) (ih (word.length - 1))

theorem mem_maskFrom {covered : Nat} (h : c ∈ (maskFrom words covered text).1) :
    c = '*' ∨ c ∈ text := by
  have overwritten := overwritten_maskFrom words covered text
  obtain ⟨place, inside, rfl⟩ := List.getElem_of_mem h
  have within : place < text.length := overwritten.length_eq ▸ inside
  rcases overwritten.get within inside with kept | star
  · rw [List.get_eq_getElem, List.get_eq_getElem] at kept
    rw [kept]
    exact .inr (List.getElem_mem within)
  · exact .inl star

/-- For every list of banned words without stars and every text: the masked text is the text with
some of its characters overwritten by stars, no part of it agrees with a banned word, and masking it
again leaves it as it is and finds nothing. -/
theorem maskWords_overwrites (bannedWords : List String) (text : List Char)
    (plain : ∀ w ∈ bannedWords, '*' ∉ w.toList) :
    let words := wordList bannedWords
    let out := (maskWords words text).1
    out.length = text.length ∧
      List.Forall₂ (fun c d => d = c ∨ d = '*') text out ∧
      (∀ word, Configured bannedWords word → ∀ part, part <:+: out → ¬ Agrees word part) ∧
      maskWords words out = (out, false) := by
  intro words out
  have overwritten : List.Forall₂ (fun c d => d = c ∨ d = '*') text out :=
    overwritten_maskFrom words 0 text
  have gone : ∀ word ∈ words, ¬ Occurs word out := by
    intro word listed
    have configured := mem_wordList_iff_configured.mp listed
    exact not_occurs_maskWords (configured.starless plain) configured.1 listed
  have noHit : (maskWords words out).2 = false := by
    rw [← Bool.not_eq_true, maskWords_hit_iff fun word listed =>
      (mem_wordList_iff_configured.mp listed).1]
    rintro ⟨word, listed, occurs⟩
    exact gone word listed occurs
  refine ⟨overwritten.length_eq.symm, overwritten, ?_, ?_⟩
  · intro word configured part inside agrees
    have listed : word ∈ words := mem_wordList_iff_configured.mpr configured
    exact gone word listed (occurs_iff_agrees.mpr ⟨part, inside, agrees⟩)
  · exact Prod.ext (maskWords_eq_of_no_hit noHit) noHit

/-- The word in the middle overlaps the first one and is not found; what is left of it holds another
word. -/
theorem maskWords_overwrites_overlapping :
    let banned := ["aba", " BAB ", "b"]
    let words := wordList banned
    let out := "****x sa*".toList
    (∀ w ∈ banned, '*' ∉ w.toList) ∧ maskWords words "Ababx sab".toList = (out, true) ∧
      out.length = "Ababx sab".toList.length ∧
      List.Forall₂ (fun c d => d = c ∨ d = '*') "Ababx sab".toList out ∧
      (∀ word, Configured banned word → ∀ part, part <:+: out → ¬ Agrees word part) ∧
      maskWords words out = (out, false) := by
  intro banned words out
  have plain : ∀ w ∈ banned, '*' ∉ w.toList := by decide
  have listed : wordList banned = ["aba".toList, "BAB".toList, "b".toList] :=
    List.mergeSort_of_pairwise (by decide)
  have masked : maskWords (wordList banned) "Ababx sab".toList = (out, true) := by
    rw [listed]
    decide
  have overwrites := maskWords_overwrites banned "Ababx sab".toList plain
  simp only [masked] at overwrites
  exact ⟨plain, masked, overwrites⟩

/-- Of the banned words that begin a text, one that no other exceeds. -/
structure LongestAt (banned : List Char → Prop) (text word : List Char) : Prop where
  listed : banned word
  begins : beginsWith word text = true
  longest : ∀ other, banned other → beginsWith other text = true → other.length ≤ word.length

/-- Words that are equal up to case may tie, but then they cover the same characters. -/
theorem LongestAt.length_eq {other : List Char} (h : LongestAt banned text word)
    (h' : LongestAt banned text other) : word.length = other.length :=
  Nat.le_antisymm (h'.longest word h.listed h.begins) (h.longest other h'.listed h'.begins)

/-- A text is searched from the left. A character that no banned word begins at is kept; otherwise
the longest word is replaced by as many stars, and the search goes on behind it. Also tells whether
a word was found. -/
inductive Masked (banned : List Char → Prop) : List Char → List Char → Bool → Prop
  | nil : Masked banned [] [] false
  | keep {c : Char} {text out : List Char} {hit : Bool} :
      (∀ word, banned word → beginsWith word (c :: text) = false) →
      Masked banned text out hit → Masked banned (c :: text) (c :: out) hit
  | mask {text word out : List Char} {hit : Bool} : LongestAt banned text word →
      Masked banned (text.drop word.length) out hit →
      Masked banned text (List.replicate word.length '*' ++ out) true

theorem wordList_decreasing (bannedWords : List String) :
    (wordList bannedWords).Pairwise fun a b => b.length ≤ a.length := by
  have sorted : (wordList bannedWords).Pairwise fun a b => decide (b.length ≤ a.length) = true := by
    refine List.pairwise_mergeSort (fun a b c hab hbc => ?_) (fun a b => ?_) _
    · exact decide_eq_true (Nat.le_trans (of_decide_eq_true hbc) (of_decide_eq_true hab))
    · simpa only [Bool.or_eq_true, decide_eq_true_eq] using Nat.le_total b.length a.length
  exact sorted.imp of_decide_eq_true

theorem wordAt?_wordList_eq_none_iff : wordAt? (wordList bannedWords) text = none ↔
    ∀ word, Configured bannedWords word → beginsWith word text = false := by
  rw [wordAt?_eq_none_iff]
  exact forall_congr' fun word => imp_congr_left mem_wordList_iff_configured

/-- In a list that is sorted by length, what is found first is a longest one. -/
theorem longestAt_of_wordAt? (h : wordAt? (wordList bannedWords) text = some word) :
    LongestAt (Configured bannedWords) text word := by
  obtain ⟨listed, begins⟩ := of_wordAt?_eq_some h
  obtain ⟨-, before, after, split, skipped⟩ := List.find?_eq_some_iff_append.mp h
  refine ⟨mem_wordList_iff_configured.mp listed, begins, fun other banned otherBegins => ?_⟩
  have otherListed : other ∈ wordList bannedWords := mem_wordList_iff_configured.mpr banned
  have decreasing := wordList_decreasing bannedWords
  rw [split] at otherListed decreasing
  rcases List.mem_append.mp otherListed with earlier | here
  · have unmatched := skipped other earlier
    rw [otherBegins] at unmatched
    exact absurd unmatched (by decide)
  · rcases List.mem_cons.mp here with rfl | later
    · exact Nat.le_refl _
    · exact List.rel_of_pairwise_cons (List.pairwise_append.mp decreasing).2.1 later

/-- What is covered becomes stars, and the search starts behind it. -/
theorem maskFrom_of_le_length {covered : Nat} (h : covered ≤ text.length) :
    maskFrom words covered text =
      (List.replicate covered '*' ++ (maskWords words (text.drop covered)).1,
        (maskWords words (text.drop covered)).2) := by
  induction covered generalizing text with
  | zero => rfl
  | succ covered ih =>
    cases text with
    | nil => exact absurd h (Nat.not_succ_le_zero covered)
    | cons c text =>
      rw [maskFrom, ih (Nat.le_of_succ_le_succ h)]
      rfl

theorem maskWords_of_wordAt? (h : wordAt? words text = some word) (hword : word ≠ []) :
    maskWords words text =
      (List.replicate word.length '*' ++ (maskWords words (text.drop word.length)).1, true) := by
  have begins := (of_wordAt?_eq_some h).2
  cases word with
  | nil => exact absurd rfl hword
  | cons w word =>
    cases text with
    | nil => exact absurd begins Bool.false_ne_true
    | cons c text =>
      have covered : word.length ≤ text.length :=
        Nat.le_of_succ_le_succ (length_le_of_beginsWith begins)
      rw [maskWords, maskFrom_some h]
      simp only [List.length_cons, Nat.add_sub_cancel, maskFrom_of_le_length covered]
      rfl

theorem masked_maskWords (bannedWords : List String) (text : List Char) :
    Masked (Configured bannedWords) text (maskWords (wordList bannedWords) text).1
      (maskWords (wordList bannedWords) text).2 := by
  -- The search goes on behind a word, so the induction is on the length of what is left.
  induction hlength : text.length using Nat.strong_induction_on generalizing text with
  | _ length ih =>
    subst hlength
    cases found : wordAt? (wordList bannedWords) text with
    | some word =>
      have longest := longestAt_of_wordAt? found
      have hword := longest.listed.1
      have shorter : (text.drop word.length).length < text.length := by
        have fits := length_le_of_beginsWith longest.begins
        have positive := List.length_pos_iff.mpr hword
        rw [List.length_drop]
        omega
      rw [maskWords_of_wordAt? found hword]
      exact .mask longest (ih _ shorter _ rfl)
    | none =>
      cases text with
      | nil => exact .nil
      | cons c text =>
        rw [maskWords, maskFrom_none found]
        exact .keep (wordAt?_wordList_eq_none_iff.mp found) (ih _ (Nat.lt_succ_self _) text rfl)

/-- There is one way only to mask a text. -/
theorem Masked.maskWords_eq (h : Masked (Configured bannedWords) text out hit) :
    maskWords (wordList bannedWords) text = (out, hit) := by
  induction h with
  | nil => rfl
  | keep unmatched _ ih =>
    rw [maskWords] at ih ⊢
    rw [maskFrom_none (wordAt?_wordList_eq_none_iff.mpr unmatched), ih]
  | @mask text word out hit longest _ ih =>
    cases found : wordAt? (wordList bannedWords) text with
    | none =>
      have unmatched := wordAt?_wordList_eq_none_iff.mp found word longest.listed
      exact absurd (unmatched.symm.trans longest.begins) Bool.false_ne_true
    | some other =>
      have another := longestAt_of_wordAt? found
      rw [maskWords_of_wordAt? found another.listed.1, another.length_eq longest, ih]

/-- Masking is going from the left and taking the longest banned word that begins at a place. -/
theorem maskWords_eq_iff :
    maskWords (wordList bannedWords) text = (out, hit) ↔
      Masked (Configured bannedWords) text out hit := by
  refine ⟨fun h => ?_, Masked.maskWords_eq⟩
  have masked := masked_maskWords bannedWords text
  rwa [h] at masked

/-- Two lists with the same words: they differ in their order, in repeated and in blank entries and
in the blanks around an entry. -/
def SameWords (bannedWords other : List String) : Prop :=
  ∀ word, Configured bannedWords word ↔ Configured other word

/-- The words of a list, not sorted yet. -/
def trimmed (bannedWords : List String) : List (List Char) :=
  (bannedWords.map fun w => Text.trim w.toList).filter fun word => !word.isEmpty

theorem mem_trimmed_iff_configured : word ∈ trimmed bannedWords ↔ Configured bannedWords word :=
  List.mem_mergeSort.symm.trans mem_wordList_iff_configured

instance (bannedWords other : List String) : Decidable (SameWords bannedWords other) :=
  decidable_of_iff ((∀ word ∈ trimmed bannedWords, word ∈ trimmed other) ∧
      ∀ word ∈ trimmed other, word ∈ trimmed bannedWords) <| by
    simp only [mem_trimmed_iff_configured, SameWords, iff_def, forall_and]

theorem SameWords.maskWords_eq {other : List String} (same : SameWords bannedWords other)
    (text : List Char) :
    maskWords (wordList other) text = maskWords (wordList bannedWords) text := by
  have configured : Configured other = Configured bannedWords :=
    funext fun word => propext (same word).symm
  have masked := masked_maskWords bannedWords text
  rw [← configured] at masked
  exact masked.maskWords_eq

/-- For every configuration and every list with the same words as its banned ones: with either list
the filter gives the same outcome for every message. Masking is going from the left and taking the
longest banned word that begins at a place. -/
theorem apply_eq_of_sameWords (config : Config.Moderation) (other : List String)
    (same : SameWords config.bannedWords other) :
    let filter := (Rules.ofConfig config).filter
    (∀ message,
        (Rules.ofConfig { config with bannedWords := other }).filter.apply message =
          filter.apply message) ∧
      ∀ text out hit, maskWords filter.words text = (out, hit) ↔
        Masked (Configured config.bannedWords) text out hit := by
  intro filter
  refine ⟨fun message => ?_, fun text out hit => maskWords_eq_iff⟩
  have chars :
      (Rules.ofConfig { config with bannedWords := other }).filter.applyChars message.toList =
        filter.applyChars message.toList := by
    simp only [applyChars, filter, Rules.ofConfig, configure, same.maskWords_eq]
  rw [apply, apply, chars]

/-- In the order of the second list, the first three characters alone would be masked. -/
theorem apply_eq_of_sameWords_disordered :
    let config : Config.Moderation := { bannedWords := ["bard", "bar"] }
    let other := [" bar", "", "bard\t", " ", "bard"]
    let filter := (Rules.ofConfig config).filter
    SameWords config.bannedWords other ∧
      filter.apply "BARDs, bar" = ⟨"****s, ***", true⟩ ∧
      (Rules.ofConfig { config with bannedWords := other }).filter.apply "BARDs, bar" =
        filter.apply "BARDs, bar" := by
  intro config other filter
  have same : SameWords config.bannedWords other := by decide
  have listed : wordList config.bannedWords = ["bard".toList, "bar".toList] :=
    List.mergeSort_of_pairwise (by decide)
  have outcome : filter.apply "BARDs, bar" = ⟨"****s, ***", true⟩ := by
    simp only [filter, Rules.ofConfig, configure, listed]
    decide +kernel
  exact ⟨same, outcome, (apply_eq_of_sameWords config other same).1 "BARDs, bar"⟩

end Parley.Filter
