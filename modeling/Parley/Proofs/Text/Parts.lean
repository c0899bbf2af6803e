import Mathlib.Data.List.Infix
import Parley.Text.Blank

/-!
# Words in texts

Whether a word stands somewhere in a text. A word does not reach across a character that it does not
have, so in a text of parts with marks between them it stands in one of the parts. Where characters
are written as others that no word has, a word stands in what is written only if it stood in the
text.
-/

namespace Parley.Text

variable {word text before after part : List Char} {parts : List (List Char)} {mark c : Char}
  {write : Char → List Char}

theorem contains_iff_infix : contains word text = true ↔ word <:+: text := by
  induction text with
  | nil => rw [contains, List.isEmpty_iff, List.infix_nil]
  | cons c text ih =>
    rw [contains, Bool.or_eq_true, List.isPrefixOf_iff_prefix, ih, List.infix_cons_iff]

/-- A word does not reach across a character that it does not have. -/
theorem infix_append_cons_iff (apart : c ∉ word) :
    word <:+: before ++ c :: after ↔ word <:+: before ∨ word <:+: after := by
  constructor
  · rintro ⟨start, rest, whole⟩
    rw [List.append_assoc] at whole
    rcases List.append_eq_append_iff.mp whole with ⟨more, rfl, ends⟩ | ⟨more, rfl, ends⟩
    · rcases List.append_eq_append_iff.mp ends with ⟨later, rfl, -⟩ | ⟨later, rfl, meets⟩
      · exact .inl (List.infix_append' start word later)
      · cases later with
        | nil => exact .inl ⟨start, [], by rw [List.append_nil, List.append_nil]⟩
        | cons d later =>
          obtain rfl : c = d := (List.cons.inj meets).1
          exact absurd (List.mem_append_right more List.mem_cons_self) apart
    · cases more with
      | nil =>
        cases word with
        | nil => exact .inl List.nil_infix
        | cons d word => exact absurd (List.mem_cons.mpr (.inl (List.cons.inj ends).1)) apart
      | cons d more =>
        obtain ⟨-, rfl⟩ := List.cons.inj ends
        exact .inr ⟨more, rest, List.append_assoc _ _ _⟩
  · rintro (within | within)
    · exact within.trans (List.infix_append' [] before _)
    · exact within.trans (List.suffix_append_of_suffix (List.suffix_cons c after)).isInfix

/-- A word in a text with further parts, each behind a mark. -/
theorem infix_append_flatMap_iff (apart : mark ∉ word) :
    word <:+: before ++ parts.flatMap (mark :: ·) ↔
      word <:+: before ∨ ∃ part ∈ parts, word <:+: part := by
  induction parts generalizing before with
  | nil => simp
  | cons part parts ih =>
    rw [List.flatMap_cons, List.cons_append, infix_append_cons_iff apart, ih,
      List.exists_mem_cons_iff]

theorem exists_splitAt (mark : Char) (text : List Char) : ∃ first others,
    splitAt mark text = first :: others ∧ first <+: text ∧ ∀ part ∈ others, part <:+: text := by
  induction text with
  | nil => exact ⟨[], [], rfl, List.prefix_rfl, by simp⟩
  | cons c text ih =>
    obtain ⟨first, others, split, start, later⟩ := ih
    have behind : ∀ part ∈ others, part <:+: c :: text := by
      intro part listed
      exact (later part listed).trans (List.suffix_cons c text).isInfix
    by_cases same : c = mark
    · refine ⟨[], first :: others, ?_, List.nil_prefix, ?_⟩
      · rw [splitAt, if_pos same, split]
      · intro part listed
        cases listed with
        | head => exact start.isInfix.trans (List.suffix_cons c text).isInfix
        | tail _ listed => exact behind part listed
    · refine ⟨c :: first, others, ?_, List.cons_prefix_cons.mpr ⟨rfl, start⟩, behind⟩
      rw [splitAt, if_neg same, split]

theorem infix_of_mem_splitAt (h : part ∈ splitAt mark text) : part <:+: text := by
  obtain ⟨first, others, split, start, later⟩ := exists_splitAt mark text
  rw [split] at h
  cases h with
  | head => exact start.isInfix
  | tail _ listed => exact later part listed

theorem dropEndWhile_isPrefix (p : Char → Bool) (text : List Char) :
    dropEndWhile p text <+: text := by
  have shorter := List.reverse_prefix.mpr (List.dropWhile_suffix p (l := text.reverse))
  rwa [List.reverse_reverse] at shorter

/-- Nothing is dropped that stands before a character that stays. -/
theorem dropEndWhile_append_cons {p : Char → Bool} (stays : p c = false) :
    dropEndWhile p (before ++ c :: after) = before ++ c :: dropEndWhile p after := by
  have here : (before ++ c :: after).reverse = after.reverse ++ (c :: before.reverse) := by simp
  rw [dropEndWhile, here, List.dropWhile_append, dropEndWhile]
  split
  · next nothing =>
    rw [List.isEmpty_iff.mp nothing, List.dropWhile_cons_of_neg (by simp [stays])]
    simp
  · simp

/-- What a character is written as, if not as itself, begins with no character of the word. -/
def WritesApart (write : Char → List Char) (word : List Char) : Prop :=
  ∀ c, write c = [c] ∨ write c ≠ [] ∧ ∀ d ∈ write c, d ∉ word

theorem prefix_of_prefix_flatMap (apart : WritesApart write word)
    (h : word <+: text.flatMap write) : word <+: text := by
  induction text generalizing word with
  | nil => exact h
  | cons c text ih =>
    cases word with
    | nil => exact List.nil_prefix
    | cons w word =>
      have fewer : WritesApart write word := fun c => (apart c).imp_right fun ⟨some_char, free⟩ =>
        ⟨some_char, fun d hd inside => free d hd (List.mem_cons_of_mem w inside)⟩
      rw [List.flatMap_cons] at h
      rcases apart c with same | ⟨some_char, free⟩
      · rw [same] at h
        obtain ⟨rfl, behind⟩ := List.cons_prefix_cons.mp h
        exact List.cons_prefix_cons.mpr ⟨rfl, ih fewer behind⟩
      · obtain ⟨d, rest, written⟩ := List.exists_cons_of_ne_nil some_char
        rw [written] at h free
        obtain ⟨rfl, -⟩ := List.cons_prefix_cons.mp h
        exact absurd List.mem_cons_self (free w List.mem_cons_self)

theorem infix_of_infix_append (some_word : word ≠ []) (free : ∀ d ∈ before, d ∉ word)
    (h : word <:+: before ++ after) : word <:+: after := by
  induction before with
  | nil => exact h
  | cons d before ih =>
    obtain ⟨here, later⟩ := List.forall_mem_cons.mp free
    rcases List.infix_cons_iff.mp h with start | within
    · obtain ⟨w, rest, rfl⟩ := List.exists_cons_of_ne_nil some_word
      obtain ⟨rfl, -⟩ := List.cons_prefix_cons.mp start
      exact absurd List.mem_cons_self here
    · exact ih later within

theorem infix_of_infix_flatMap (apart : WritesApart write word)
    (h : word <:+: text.flatMap write) : word <:+: text := by
  by_cases nothing : word = []
  · exact nothing ▸ List.nil_infix
  · induction text with
    | nil => exact h
    | cons c text ih =>
      have behind : word <:+: text.flatMap write → word <:+: c :: text := by
        intro within
        exact (ih within).trans (List.suffix_cons c text).isInfix
      rcases apart c with same | ⟨-, free⟩
      · have whole : (c :: text).flatMap write = c :: text.flatMap write := by
          rw [List.flatMap_cons, same, List.singleton_append]
        rw [whole] at h
        rcases List.infix_cons_iff.mp h with start | within
        · rw [← whole] at start
          exact (prefix_of_prefix_flatMap apart start).isInfix
        · exact behind within
      · rw [List.flatMap_cons] at h
        exact behind (infix_of_infix_append nothing free h)

end Parley.Text
