import Parley.Filter.Links
import Parley.Proofs.Text.Parts

/-!
# The links of a text

`FindsLink` says which links are looked at when a text is searched from the left: the first one,
those in what was cut off it, and those behind it. Stripping finds something to replace exactly
when one of them is not allowed, and is the identity when all of them are.
-/

namespace Parley.Filter

open Letter (isWordChar)

/-- The links that a search meets, given whether a word character precedes the text. -/
inductive FindsLink : Bool → List Char → List Char → Prop
  /-- The link that begins the text. -/
  | here {text : List Char} {n : Nat} : linkLength? text = some n →
      FindsLink false text (linkPart (text.take n))
  /-- A link in what was cut off the link that begins the text. -/
  | within {text link : List Char} {n : Nat} : linkLength? text = some n →
      FindsLink false ((text.take n).drop (linkPart (text.take n)).length) link →
      FindsLink false text link
  /-- A link behind the one that begins the text. -/
  | behind {text link : List Char} {n : Nat} : linkLength? text = some n →
      FindsLink false (text.drop n) link → FindsLink false text link
  /-- A link in the rest of a text that no link begins. -/
  | later {afterWord : Bool} {c : Char} {text link : List Char} :
      afterWord = true ∨ linkLength? (c :: text) = none →
      FindsLink (isWordChar c) text link → FindsLink afterWord (c :: text) link

variable {hosts : List (List Char)} {placeholder text link : List Char} {afterWord : Bool}
  {c : Char} {n : Nat}

theorem linkLength?_nil : linkLength? [] = none := rfl

theorem not_findsLink_nil : ¬ FindsLink afterWord [] link := by
  intro found
  cases found with
  | here h => exact absurd h (by simp [linkLength?_nil])
  | within h => exact absurd h (by simp [linkLength?_nil])
  | behind h => exact absurd h (by simp [linkLength?_nil])

/-- No link begins here: the search goes on behind the first character. -/
theorem findsLink_cons (h : afterWord = true ∨ linkLength? (c :: text) = none) :
    FindsLink afterWord (c :: text) link ↔ FindsLink (isWordChar c) text link := by
  constructor
  · intro found
    cases found with
    | here some_length => simp [some_length] at h
    | within some_length => simp [some_length] at h
    | behind some_length => simp [some_length] at h
    | later _ found => exact found
  · exact .later h

/-- What is cut off the text that a search met. -/
def cutOff (found : List Char) : List Char := found.drop (linkPart found).length

theorem beforeLinkEnd_isPrefix (found : List Char) : beforeLinkEnd found <+: found := by
  induction found with
  | nil => exact List.prefix_rfl
  | cons c found ih =>
    rw [beforeLinkEnd]
    split
    · exact List.nil_prefix
    · exact List.cons_prefix_cons.mpr ⟨rfl, ih⟩

theorem mem_of_mem_trim {text : List Char} {c : Char} (h : c ∈ Text.trim text) : c ∈ text := by
  have start : c ∈ Text.trimLeft text := (Text.dropEndWhile_isPrefix _ _).subset h
  exact (List.dropWhile_suffix _).subset start

theorem linkPart_append_cutOff (found : List Char) : linkPart found ++ cutOff found = found := by
  have part : linkPart found <+: found :=
    (Text.dropEndWhile_isPrefix _ _).trans (beforeLinkEnd_isPrefix found)
  exact (List.prefix_iff_eq_append.mp part)

/-- A text is the link that begins it, what was cut off the link, and what is behind. -/
theorem linkPart_append_cutOff_append_drop (text : List Char) (n : Nat) :
    linkPart (text.take n) ++ (cutOff (text.take n) ++ text.drop n) = text := by
  rw [← List.append_assoc, linkPart_append_cutOff, List.take_append_drop]

/-- A link begins here: it is met, and so are those in what is cut off it and behind it. -/
theorem findsLink_of_linkLength? (h : linkLength? text = some n) :
    FindsLink false text link ↔ link = linkPart (text.take n) ∨
      FindsLink false (cutOff (text.take n)) link ∨ FindsLink false (text.drop n) link := by
  constructor
  · intro found
    cases found with
    | here same =>
      obtain rfl := Option.some.inj (h.symm.trans same)
      exact .inl rfl
    | within same found =>
      obtain rfl := Option.some.inj (h.symm.trans same)
      exact .inr (.inl found)
    | behind same found =>
      obtain rfl := Option.some.inj (h.symm.trans same)
      exact .inr (.inr found)
    | later none_here _ => simp [h] at none_here
  · rintro (rfl | found | found)
    · exact .here h
    · exact .within h found
    · exact .behind h found

theorem stripFrom_cons (h : afterWord = true ∨ linkLength? (c :: text) = none) :
    stripFrom hosts placeholder afterWord (c :: text) =
      (c :: (stripFrom hosts placeholder (isWordChar c) text).1,
        (stripFrom hosts placeholder (isWordChar c) text).2) := by
  have skips : (if afterWord then none else linkLength? (c :: text)) = none := by
    rcases h with rfl | h
    · rfl
    · rw [h, ite_self]
  rw [stripFrom]
  split
  · rfl
  · next n some_length => simp [skips] at some_length

theorem stripFrom_of_linkLength? (h : linkLength? text = some n) :
    stripFrom hosts placeholder false text =
      ((if isAllowed hosts (linkPart (text.take n)) then linkPart (text.take n) else placeholder) ++
          (stripFrom hosts placeholder false (cutOff (text.take n))).1 ++
          (stripFrom hosts placeholder false (text.drop n)).1,
        !isAllowed hosts (linkPart (text.take n)) ||
          (stripFrom hosts placeholder false (cutOff (text.take n))).2 ||
          (stripFrom hosts placeholder false (text.drop n)).2) := by
  cases text with
  | nil => exact absurd h (by simp [linkLength?_nil])
  | cons c text =>
    rw [stripFrom]
    split
    · next none_here => simp [h] at none_here
    · next m some_length =>
      obtain rfl := Option.some.inj (h.symm.trans some_length)
      rfl

theorem length_drop_lt (h : linkLength? text = some n) : (text.drop n).length < text.length := by
  have bounds := linkLength?_bounds h
  rw [List.length_drop]
  omega

theorem length_cutOff_lt (h : linkLength? text = some n) :
    (cutOff (text.take n)).length < text.length := by
  have bounds := linkLength?_bounds h
  obtain ⟨m, rfl⟩ : ∃ m, n = m + 1 := ⟨n - 1, by omega⟩
  cases text with
  | nil => exact absurd h (by simp [linkLength?_nil])
  | cons c text =>
    have link : linkPart (c :: text.take m) ≠ [] := linkPart_ne_nil (head_of_linkLength? h)
    have positive := List.length_pos_iff.mpr link
    simp only [cutOff, List.take_succ_cons, List.length_drop, List.length_cons,
      List.length_take] at *
    omega

/-- A search looks at one character after the other, or at a link, what is cut off it and what is
behind it. -/
theorem search_induction {motive : Bool → List Char → Prop}
    (nil : ∀ afterWord, motive afterWord [])
    (cons : ∀ afterWord c text, afterWord = true ∨ linkLength? (c :: text) = none →
      motive (isWordChar c) text → motive afterWord (c :: text))
    (link : ∀ text n, linkLength? text = some n → motive false (cutOff (text.take n)) →
      motive false (text.drop n) → motive false text)
    (afterWord : Bool) (text : List Char) : motive afterWord text := by
  induction hsize : text.length using Nat.strongRecOn generalizing afterWord text with
  | ind size ih =>
    subst hsize
    cases text with
    | nil => exact nil afterWord
    | cons c text =>
      have step : afterWord = true ∨ linkLength? (c :: text) = none →
          motive afterWord (c :: text) := fun skips =>
        cons afterWord c text skips (ih _ (Nat.lt_succ_self _) _ text rfl)
      cases afterWord with
      | true => exact step (.inl rfl)
      | false =>
        cases h : linkLength? (c :: text) with
        | none => exact step (.inr h)
        | some n =>
          exact link _ n h (ih _ (length_cutOff_lt h) false _ rfl)
            (ih _ (length_drop_lt h) false _ rfl)

theorem stripFrom_hit_iff : (stripFrom hosts placeholder afterWord text).2 = true ↔
    ∃ link, FindsLink afterWord text link ∧ isAllowed hosts link = false := by
  induction afterWord, text using search_induction with
  | nil afterWord =>
    simp [stripFrom, not_findsLink_nil]
  | cons afterWord c text skips ih =>
    simp only [stripFrom_cons skips, ih, findsLink_cons skips]
  | link text n h ihCut ihBehind =>
    simp only [stripFrom_of_linkLength? h, findsLink_of_linkLength? h, Bool.or_eq_true,
      Bool.not_eq_true', ihCut, ihBehind, or_and_right, exists_or, exists_eq_left, or_assoc]

theorem stripLinks_hit_iff : (stripLinks hosts placeholder text).2 = true ↔
    ∃ link, FindsLink false text link ∧ isAllowed hosts link = false :=
  stripFrom_hit_iff

theorem stripFrom_eq_of_no_hit (h : (stripFrom hosts placeholder afterWord text).2 = false) :
    (stripFrom hosts placeholder afterWord text).1 = text := by
  induction afterWord, text using search_induction with
  | nil afterWord => simp [stripFrom]
  | cons afterWord c text skips ih =>
    rw [stripFrom_cons skips] at h ⊢
    exact congrArg (c :: ·) (ih h)
  | link text n hlength ihCut ihBehind =>
    rw [stripFrom_of_linkLength? hlength] at h ⊢
    simp only [Bool.or_eq_false_iff, Bool.not_eq_false'] at h
    obtain ⟨⟨allowed, cut⟩, behind⟩ := h
    simp only [allowed, if_true, ihCut cut, ihBehind behind, List.append_assoc]
    exact linkPart_append_cutOff_append_drop text n

end Parley.Filter
