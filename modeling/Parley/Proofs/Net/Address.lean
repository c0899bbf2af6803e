import Parley.Net.Address
import Parley.Proofs.Letter.Case
import Parley.Proofs.Text.Parts

/-!
# Groups as they are read and written

A group of a version six address is written with the digits that it was read from, in small letters
and without the zeros in front, or as a single zero. So a word without a zero and a colon that
stands in a written address stood in the text that it was read from, up to case, if that text has no
numbers with dots.
-/

namespace Parley.Net

open Text (hexValue? hexDigit)
open Letter (lowerAscii)

variable {c : Char} {text word : List Char} {values groups : List Nat} {d n start : Nat}

theorem lowerAscii_of_hexValue? (h : hexValue? c = some d) :
    d < 16 ∧ lowerAscii c = hexDigit d := by
  have ascii : c.toNat < 128 := by
    by_contra large
    have beyond : ∀ last : Char, last.toNat < 128 → ¬ c ≤ last := by
      intro last small below
      have : c.toNat ≤ last.toNat := below
      omega
    simp [hexValue?, beyond] at h
  exact Letter.forall_ascii
    (p := fun c => ∀ d ∈ hexValue? c, d < 16 ∧ lowerAscii c = hexDigit d) (by decide) ascii d h

/-- The digits that are read one after the other, behind those whose value is `start`. -/
theorem exists_digits
    (h : text.foldlM (fun n c => (hexValue? c).map (16 * n + ·)) start = some n) :
    ∃ values : List Nat, (∀ v ∈ values, v < 16) ∧ text.map lowerAscii = values.map hexDigit ∧
      values.foldl (fun n v => 16 * n + v) start = n := by
  induction text generalizing start with
  | nil =>
    rw [List.foldlM_nil] at h
    exact ⟨[], by simp, rfl, Option.some.inj h⟩
  | cons c text ih =>
    rw [List.foldlM_cons] at h
    obtain ⟨next, first, later⟩ := Option.bind_eq_some_iff.mp h
    obtain ⟨d, digit, rfl⟩ := Option.map_eq_some_iff.mp first
    obtain ⟨values, small, same, total⟩ := ih later
    obtain ⟨below, here⟩ := lowerAscii_of_hexValue? digit
    refine ⟨d :: values, List.forall_mem_cons.mpr ⟨below, small⟩, ?_, total⟩
    rw [List.map_cons, List.map_cons, here, same]

namespace Version6

/-- The four digits of a number that has no more. -/
theorem four_digits (few : values.length ≤ 4) (small : ∀ v ∈ values, v < 16)
    (total : values.foldl (fun n v => 16 * n + v) 0 = n) :
    [n / 4096, n / 256 % 16, n / 16 % 16, n % 16] =
      List.replicate (4 - values.length) 0 ++ values := by
  subst total
  match values, few, small with
  | [], _, _ => rfl
  | [a], _, small =>
    simp at small ⊢
    omega
  | [a, b], _, small =>
    simp at small ⊢
    omega
  | [a, b, c], _, small =>
    simp at small ⊢
    omega
  | [a, b, c, d], _, small =>
    simp at small ⊢
    omega

/-- A group is written as a zero, or as it was read but for the zeros in front. -/
theorem hexText_of_group? (h : group? text = some n) :
    hexText n = ['0'] ∨ hexText n <:+ text.map lowerAscii := by
  rw [group?] at h
  split at h
  · exact absurd h (Option.some_ne_none n).symm
  · next bounds =>
    obtain ⟨values, small, same, total⟩ := exists_digits h
    have few : values.length ≤ 4 := by
      have lengths := congrArg List.length same
      rw [List.length_map, List.length_map] at lengths
      rw [← lengths]
      exact Nat.not_lt.mp fun long => bounds (.inr long)
    have zeros : (List.replicate (4 - values.length) 0).dropWhile (· == 0) = [] := by simp
    rw [hexText, four_digits few small total, List.dropWhile_append, zeros]
    simp only [List.isEmpty_nil, if_true]
    split
    · exact .inl rfl
    · rw [same]
      exact .inr ((List.dropWhile_suffix _).map hexDigit)

theorem exists_of_mem_mapM {parts : List (List Char)} {read? : List Char → Option Nat}
    (h : parts.mapM read? = some values) : ∀ v ∈ values, ∃ part ∈ parts, read? part = some v := by
  induction parts generalizing values with
  | nil =>
    obtain rfl : [] = values := Option.some.inj h
    simp
  | cons part parts ih =>
    rw [List.mapM_cons] at h
    obtain ⟨first, here, h⟩ := Option.bind_eq_some_iff.mp h
    obtain ⟨others, later, h⟩ := Option.bind_eq_some_iff.mp h
    obtain rfl : first :: others = values := Option.some.inj h
    intro v listed
    rcases List.mem_cons.mp listed with rfl | listed
    · exact ⟨part, List.mem_cons_self, here⟩
    · obtain ⟨other, behind, read⟩ := ih later v listed
      exact ⟨other, List.mem_cons_of_mem part behind, read⟩

theorem exists_of_groups? (undotted : '.' ∉ text) (h : groups? text = some groups) :
    ∀ g ∈ groups, ∃ part, part <:+: text ∧ group? part = some g := by
  rw [groups?] at h
  split at h
  · obtain rfl : [] = groups := Option.some.inj h
    simp
  · dsimp only at h
    split at h
    · exact absurd h (Option.some_ne_none groups).symm
    · next last ends =>
      have inText : last <:+: text := Text.infix_of_mem_splitAt (List.mem_of_getLast? ends)
      have plain : ¬ last.contains '.' = true :=
        fun dot => undotted (inText.subset (List.contains_iff_mem.mp dot))
      rw [if_neg plain] at h
      intro g listed
      obtain ⟨part, inText, read⟩ := exists_of_mem_mapM h g listed
      exact ⟨part, Text.infix_of_mem_splitAt inText, read⟩

theorem eq_of_abbreviated? {left right : List Char} (h : abbreviated? text = some (left, right)) :
    text = left ++ ':' :: ':' :: right := by
  fun_induction abbreviated? text generalizing left with
  | case1 rest =>
    obtain ⟨rfl, rfl⟩ := Prod.mk.inj (Option.some.inj h)
    rfl
  | case2 c rest _ ih =>
    obtain ⟨⟨before, after⟩, found, same⟩ := Option.map_eq_some_iff.mp h
    obtain ⟨rfl, rfl⟩ := Prod.mk.inj same
    rw [ih found, List.cons_append]
  | case3 => exact absurd h (Option.some_ne_none _).symm

/-- The groups of an address without dots are zeros or parts of its text. -/
theorem exists_of_parse? (undotted : '.' ∉ text) (h : parse? text = some groups) :
    ∀ g ∈ groups, g = 0 ∨ ∃ part, part <:+: text ∧ group? part = some g := by
  intro g listed
  rw [parse?] at h
  split at h
  · obtain ⟨all, read, h⟩ := Option.bind_eq_some_iff.mp h
    split at h
    · obtain rfl : all = groups := Option.some.inj h
      exact .inr (exists_of_groups? undotted read g listed)
    · exact absurd h (Option.some_ne_none groups).symm
  · next left right found =>
    have whole := eq_of_abbreviated? found
    have before : left <:+: text := whole ▸ List.infix_append' [] left _
    have after : right <:+: text := by
      rw [whole]
      exact (List.suffix_append_of_suffix
        ((List.suffix_cons ':' right).trans (List.suffix_cons ':' _))).isInfix
    have within : ∀ {part : List Char} {read : List Nat}, part <:+: text →
        groups? part = some read → g ∈ read → ∃ part, part <:+: text ∧ group? part = some g := by
      intro part read inText reads inRead
      have plain : '.' ∉ part := fun dot => undotted (inText.subset dot)
      obtain ⟨digits, inPart, group⟩ := exists_of_groups? plain reads g inRead
      exact ⟨digits, inPart.trans inText, group⟩
    obtain ⟨-, -, h⟩ := Option.bind_eq_some_iff.mp h
    obtain ⟨front, reads_front, h⟩ := Option.bind_eq_some_iff.mp h
    obtain ⟨back, reads_back, h⟩ := Option.bind_eq_some_iff.mp h
    split at h
    · obtain rfl := Option.some.inj h
      rcases List.mem_append.mp listed with inFront | inBack
      · rcases List.mem_append.mp inFront with inFront | zero
        · exact .inr (within before reads_front inFront)
        · exact .inl (List.eq_of_mem_replicate zero)
      · exact .inr (within after reads_back inBack)
    · exact absurd h (Option.some_ne_none groups).symm

theorem join_cons (g : Nat) (groups : List Nat) :
    join (g :: groups) = hexText g ++ (groups.map hexText).flatMap (':' :: ·) := by
  induction groups generalizing g with
  | nil => simp [join]
  | cons next groups ih =>
    calc join (g :: next :: groups)
        = hexText g ++ ':' :: join (next :: groups) := by
          simp only [join, List.map_cons, List.intersperse_cons_cons, List.flatten_cons,
            List.singleton_append]
      _ = hexText g ++ ((next :: groups).map hexText).flatMap (':' :: ·) := by
          rw [ih next, List.map_cons, List.flatMap_cons, List.cons_append]

theorem exists_of_infix_join (some_word : word ≠ []) (apart : ':' ∉ word)
    (h : word <:+: join groups) : ∃ g ∈ groups, word <:+: hexText g := by
  cases groups with
  | nil => exact absurd (List.infix_nil.mp h) some_word
  | cons first groups =>
    rw [join_cons, Text.infix_append_flatMap_iff apart] at h
    rcases h with here | ⟨written, listed, here⟩
    · exact ⟨first, List.mem_cons_self, here⟩
    · obtain ⟨g, behind, rfl⟩ := List.mem_map.mp listed
      exact ⟨g, List.mem_cons_of_mem first behind, here⟩

theorem exists_of_infix_render (some_word : word ≠ []) (apart : ':' ∉ word)
    (h : word <:+: render groups) : ∃ g ∈ groups, word <:+: hexText g := by
  rw [render] at h
  dsimp only at h
  split at h
  · exact exists_of_infix_join some_word apart h
  · rw [Text.infix_append_cons_iff apart, ← List.nil_append (':' :: _),
      Text.infix_append_cons_iff apart, List.infix_nil] at h
    rcases h with here | nothing | here
    · obtain ⟨g, listed, here⟩ := exists_of_infix_join some_word apart here
      exact ⟨g, List.mem_of_mem_take listed, here⟩
    · exact absurd nothing some_word
    · obtain ⟨g, listed, here⟩ := exists_of_infix_join some_word apart here
      exact ⟨g, List.mem_of_mem_drop listed, here⟩

/-- A word in a written address stands in the text of the address, up to case. -/
theorem infix_of_infix_render (some_word : word ≠ []) (colon : ':' ∉ word) (zero : '0' ∉ word)
    (undotted : '.' ∉ text) (read : parse? text = some groups) (h : word <:+: render groups) :
    word <:+: text.map lowerAscii := by
  have no_zero : ¬ word <:+: ['0'] := by
    intro inside
    obtain ⟨c, listed⟩ := List.exists_mem_of_ne_nil word some_word
    obtain rfl := List.mem_singleton.mp (inside.subset listed)
    exact zero listed
  obtain ⟨g, listed, here⟩ := exists_of_infix_render some_word colon h
  rcases exists_of_parse? undotted read g listed with rfl | ⟨part, inText, group⟩
  · exact absurd here no_zero
  · rcases hexText_of_group? group with single | written
    · exact absurd (single ▸ here) no_zero
    · exact here.trans (written.isInfix.trans (inText.map lowerAscii))

end Version6

end Parley.Net
