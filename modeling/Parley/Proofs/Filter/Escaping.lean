import Parley.Proofs.Filter.LoweredLinks
import Parley.Proofs.Filter.Masking

/-!
# Filtered messages hold no markup

Escaping comes first, and every later step may cut an entity in two. What a cut leaves is still
text: each step says of a character that it writes where it comes from. Stars, the placeholder,
dots and letters are all that is written besides what stood in the text, and only the placeholder
can hold one of the characters that delimit tags and attributes.
-/

namespace Parley

/-- The characters that open or close a tag or the value of an attribute. The ampersand is none of
them. -/
def Markup.delimiters : List Char := ['<', '>', '"', '\'']

namespace Markup

theorem entity?_eq_none {c : Char} (h : entity? c = none) : c ∉ delimiters := by
  intro listed
  simp only [delimiters, List.mem_cons, List.not_mem_nil, or_false] at listed
  rcases listed with rfl | rfl | rfl | rfl <;> exact absurd h (by decide)

theorem not_mem_entity {c d : Char} {entity : List Char} (h : entity? c = some entity)
    (written : d ∈ entity) : d ∉ delimiters := by
  unfold entity? at h
  split at h
  case h_6 => exact absurd h (Option.some_ne_none entity).symm
  all_goals
    obtain rfl := Option.some.inj h
    revert d
    decide

/-- An escaped text holds no delimiter. -/
theorem not_mem_delimiters_of_mem_escape {text : List Char} {c : Char} (h : c ∈ escape text) :
    c ∉ delimiters := by
  induction text with
  | nil => exact absurd h List.not_mem_nil
  | cons d text ih =>
    rw [escape] at h
    rcases List.mem_append.mp h with here | behind
    · cases entity : entity? d with
      | some written =>
        rw [entity] at here
        exact not_mem_entity entity here
      | none =>
        rw [entity] at here
        obtain rfl := List.mem_singleton.mp here
        exact entity?_eq_none entity
    · exact ih behind

end Markup

namespace Filter

open Letter (isWordChar)

variable {words hosts : List (List Char)} {placeholder text : List Char} {c : Char}

/-- Replacing links writes the placeholder, and keeps the allowed links and what is cut off a
link. -/
theorem mem_stripFrom {afterWord : Bool}
    (h : c ∈ (stripFrom hosts placeholder afterWord text).1) : c ∈ placeholder ∨ c ∈ text := by
  induction afterWord, text using search_induction with
  | nil afterWord =>
    rw [stripFrom] at h
    exact absurd h List.not_mem_nil
  | cons afterWord d text skips ih =>
    rw [stripFrom_cons skips] at h
    rcases List.mem_cons.mp h with rfl | behind
    · exact .inr List.mem_cons_self
    · exact (ih behind).imp_right (List.mem_cons_of_mem d)
  | link text n found ihCut ihBehind =>
    have parts : c ∈ text ↔
        c ∈ linkPart (text.take n) ∨ c ∈ cutOff (text.take n) ∨ c ∈ text.drop n := by
      rw [← List.mem_append, ← List.mem_append, linkPart_append_cutOff_append_drop]
    rw [stripFrom_of_linkLength? found, List.mem_append, List.mem_append] at h
    rw [parts]
    rcases h with (here | cut) | behind
    · split at here
      · exact .inr (.inl here)
      · exact .inl here
    · exact (ihCut cut).imp_right fun kept => .inr (.inl kept)
    · exact (ihBehind behind).imp_right fun kept => .inr (.inr kept)

theorem mem_collapseRuns (h : c ∈ (collapseRuns text).1) : c = '.' ∨ c ∈ text := by
  obtain ⟨⟨d, n⟩, listed, written⟩ := List.mem_flatMap.mp h
  rcases eq_of_mem_collapseRun written with rfl | ⟨dot, -⟩
  · have positive : 0 < n := pos_of_mem_runs listed
    have inRun : c ∈ List.replicate n c := List.mem_replicate.mpr ⟨positive.ne', rfl⟩
    exact .inr ((replicate_of_mem_runs listed).subset inRun)
  · exact .inl dot

/-- A character of a filtered message is a star, a dot or a word character, or stands in the
placeholder or in the escaped message. -/
theorem mem_apply_content {filter : Filter} {message : String}
    (h : c ∈ (filter.apply message).content.toList) :
    c = '*' ∨ c = '.' ∨ isWordChar c = true ∨ c ∈ filter.placeholder ∨
      c ∈ Markup.escape message.toList := by
  rw [apply_content, lowerShouts_eq_lowerBehind] at h
  rcases mem_lowerBehind h with collapsed | letter
  · rcases mem_collapseRuns collapsed with dot | delinked
    · exact .inr (.inl dot)
    · rcases mem_stripFrom delinked with replaced | masked
      · exact .inr (.inr (.inr (.inl replaced)))
      · rcases mem_maskFrom masked with star | escaped
        · exact .inl star
        · exact .inr (.inr (.inr (.inr escaped)))
  · exact .inr (.inr (.inl letter))

theorem not_isWordChar_of_mem_delimiters (h : c ∈ Markup.delimiters) : isWordChar c = false := by
  revert c
  decide

/-- For every configuration whose placeholder holds no delimiter of markup, and every message: the
filtered message holds none. -/
theorem content_free_of_delimiters (bannedWords whitelist : List String)
    (placeholder message : String)
    (plain : ∀ c ∈ placeholder.toList, c ∉ Markup.delimiters) :
    let filter := Filter.configure bannedWords whitelist placeholder
    ∀ c ∈ (filter.apply message).content.toList, c ∉ Markup.delimiters := by
  intro filter c written listed
  rcases mem_apply_content written with rfl | rfl | letter | replaced | escaped
  · exact absurd listed (by decide)
  · exact absurd listed (by decide)
  · exact absurd ((not_isWordChar_of_mem_delimiters listed).symm.trans letter) Bool.false_ne_true
  · exact plain c replaced listed
  · exact Markup.not_mem_delimiters_of_mem_escape escaped listed

/-- The banned word `lt` is masked inside the entity of the bracket, and a link is replaced behind
an escaped quote. -/
theorem content_free_of_delimiters_cut_entity :
    let filter := Filter.configure ["lt"] [] "[link]"
    (∀ c ∈ "[link]".toList, c ∉ Markup.delimiters) ∧
      filter.apply "<b>\"www.x.test\"" = ⟨"&**;b&gt;&quot;[link]&quot;", true⟩ ∧
      ∀ c ∈ (filter.apply "<b>\"www.x.test\"").content.toList, c ∉ Markup.delimiters :=
  ⟨by decide, by decide +kernel, content_free_of_delimiters ["lt"] [] "[link]" _ (by decide)⟩

end Filter

end Parley
