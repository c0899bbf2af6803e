import Mathlib.Data.List.Forall2
import Mathlib.Data.List.Infix
import Parley.Filter.Words

/-!
# Occurrences of words

A word occurs in a text where it begins one of the suffixes of the text, up to case. Masking finds
a word exactly when one occurs, and is the identity when none does.

Masking never lets an occurrence through: a place that it leaves as it was began no word, and what
it writes instead of a word is no letter. This needs the words to hold no star.
-/

namespace Parley.Filter

/-- The word begins at some place of the text, up to case. -/
def Occurs (word text : List Char) : Prop :=
  ∃ place, place <:+ text ∧ beginsWith word place = true

variable {word text : List Char} {words : List (List Char)} {c : Char}

theorem beginsWith_nil_text (hword : word ≠ []) : beginsWith word [] = false := by
  cases word with
  | nil => exact absurd rfl hword
  | cons w word => rfl

instance (word text : List Char) : Decidable (Occurs word text) :=
  decidable_of_iff (∃ place ∈ text.tails, beginsWith word place = true) <| by
    simp only [List.mem_tails, Occurs]

theorem occurs_cons :
    Occurs word (c :: text) ↔ beginsWith word (c :: text) = true ∨ Occurs word text := by
  constructor
  · rintro ⟨place, hplace, begins⟩
    rcases List.suffix_cons_iff.mp hplace with rfl | hplace
    · exact .inl begins
    · exact .inr ⟨place, hplace, begins⟩
  · rintro (begins | ⟨place, hplace, begins⟩)
    · exact ⟨c :: text, List.suffix_rfl, begins⟩
    · exact ⟨place, hplace.trans (List.suffix_cons c text), begins⟩

theorem not_occurs_nil (hword : word ≠ []) : ¬ Occurs word [] := by
  rintro ⟨place, hplace, begins⟩
  rw [List.suffix_nil.mp hplace, beginsWith_nil_text hword] at begins
  exact Bool.false_ne_true begins

theorem length_le_of_beginsWith (h : beginsWith word text = true) : word.length ≤ text.length := by
  induction word generalizing text with
  | nil => exact Nat.zero_le _
  | cons w word ih =>
    cases text with
    | nil => exact absurd h Bool.false_ne_true
    | cons c text =>
      simp only [beginsWith, Bool.and_eq_true] at h
      exact Nat.succ_le_succ (ih h.2)

theorem beginsWith_append (h : beginsWith word text = true) (after : List Char) :
    beginsWith word (text ++ after) = true := by
  induction word generalizing text with
  | nil => exact beginsWith.eq_1 _
  | cons w word ih =>
    cases text with
    | nil => exact absurd h Bool.false_ne_true
    | cons c text =>
      simp only [List.cons_append, beginsWith, Bool.and_eq_true] at h ⊢
      exact ⟨h.1, ih h.2⟩

/-- A word does not reach beyond a character that agrees with none of its own. -/
theorem beginsWith_of_append_cons {before : List Char}
    (apart : ∀ w ∈ word, Letter.sameLetter w c = false)
    (h : beginsWith word (before ++ c :: text) = true) : beginsWith word before = true := by
  induction before generalizing word with
  | nil =>
    cases word with
    | nil => rfl
    | cons w word =>
      rw [List.nil_append, beginsWith, apart w List.mem_cons_self] at h
      exact absurd h Bool.false_ne_true
  | cons b before ih =>
    cases word with
    | nil => rfl
    | cons w word =>
      simp only [List.cons_append, beginsWith, Bool.and_eq_true] at h ⊢
      exact ⟨h.1, ih (fun v hv => apart v (List.mem_cons_of_mem w hv)) h.2⟩

/-- Each character of a word agrees with one of a text in which the word occurs. -/
theorem exists_mem_of_occurs {w : Char} (h : Occurs word text) (hw : w ∈ word) :
    ∃ d ∈ text, Letter.sameLetter w d = true := by
  obtain ⟨place, hplace, begins⟩ := h
  suffices here : ∃ d ∈ place, Letter.sameLetter w d = true by
    obtain ⟨d, hd, same⟩ := here
    exact ⟨d, hplace.subset hd, same⟩
  clear hplace
  induction word generalizing place with
  | nil => exact absurd hw List.not_mem_nil
  | cons v word ih =>
    cases place with
    | nil => exact absurd begins Bool.false_ne_true
    | cons d place =>
      simp only [beginsWith, Bool.and_eq_true] at begins
      rcases List.mem_cons.mp hw with rfl | hw
      · exact ⟨d, List.mem_cons_self, begins.1⟩
      · obtain ⟨e, he, same⟩ := ih hw place begins.2
        exact ⟨e, List.mem_cons_of_mem d he, same⟩

/-- A word does not begin at a character that agrees with none of its own. -/
theorem occurs_cons_of_apart (hword : word ≠ [])
    (apart : ∀ w ∈ word, Letter.sameLetter w c = false) :
    Occurs word (c :: text) ↔ Occurs word text := by
  rw [occurs_cons]
  refine or_iff_right fun begins => ?_
  cases word with
  | nil => exact hword rfl
  | cons w word =>
    rw [beginsWith, apart w List.mem_cons_self] at begins
    exact Bool.false_ne_true begins

theorem occurs_append_left (h : Occurs word text) (after : List Char) :
    Occurs word (text ++ after) := by
  obtain ⟨place, ⟨before, rfl⟩, begins⟩ := h
  refine ⟨place ++ after, ⟨before, ?_⟩, beginsWith_append begins after⟩
  rw [List.append_assoc]

theorem occurs_append_right (h : Occurs word text) (before : List Char) :
    Occurs word (before ++ text) := by
  obtain ⟨place, hplace, begins⟩ := h
  exact ⟨place, hplace.trans (List.suffix_append before text), begins⟩

/-- A word does not lie across a character that agrees with none of its own. -/
theorem occurs_append_cons (hword : word ≠ [])
    (apart : ∀ w ∈ word, Letter.sameLetter w c = false) (before : List Char) :
    Occurs word (before ++ c :: text) ↔ Occurs word before ∨ Occurs word text := by
  constructor
  · intro h
    induction before with
    | nil => exact .inr ((occurs_cons_of_apart hword apart).mp h)
    | cons b before ih =>
      rcases occurs_cons.mp h with begins | occurs
      · have begins : beginsWith word (b :: before ++ c :: text) = true := begins
        exact .inl (occurs_cons.mpr (.inl (beginsWith_of_append_cons apart begins)))
      · exact (ih occurs).imp_left fun occurs => occurs_cons.mpr (.inr occurs)
  · rintro (occurs | occurs)
    · exact occurs_append_left occurs (c :: text)
    · exact occurs_append_right ((occurs_cons_of_apart hword apart).mpr occurs) before

/-- A part of a text agrees with a word that has as many characters, each the same up to case. -/
def Agrees (word part : List Char) : Prop :=
  List.Forall₂ (fun w c => Letter.sameLetter w c = true) word part

theorem beginsWith_iff_agrees :
    beginsWith word text = true ↔ ∃ part, part <+: text ∧ Agrees word part := by
  induction word generalizing text with
  | nil => exact iff_of_true (beginsWith.eq_1 text) ⟨[], List.nil_prefix, .nil⟩
  | cons w word ih =>
    cases text with
    | nil =>
      refine iff_of_false Bool.false_ne_true ?_
      rintro ⟨part, here, agrees⟩
      obtain rfl := List.prefix_nil.mp here
      cases agrees
    | cons c text =>
      rw [beginsWith, Bool.and_eq_true, ih]
      constructor
      · rintro ⟨same, part, here, agrees⟩
        exact ⟨c :: part, (List.prefix_cons_inj c).mpr here, .cons same agrees⟩
      · rintro ⟨part, here, agrees⟩
        cases agrees with
        | cons same agrees =>
          rw [List.cons_prefix_cons] at here
          obtain ⟨rfl, here⟩ := here
          exact ⟨same, _, here, agrees⟩

theorem occurs_iff_agrees : Occurs word text ↔ ∃ part, part <:+: text ∧ Agrees word part := by
  constructor
  · rintro ⟨place, hplace, begins⟩
    obtain ⟨part, here, agrees⟩ := beginsWith_iff_agrees.mp begins
    exact ⟨part, here.isInfix.trans hplace.isInfix, agrees⟩
  · rintro ⟨part, ⟨before, after, rfl⟩, agrees⟩
    refine ⟨part ++ after, ⟨before, (List.append_assoc ..).symm⟩, ?_⟩
    exact beginsWith_iff_agrees.mpr ⟨part, List.prefix_append part after, agrees⟩

theorem wordAt?_eq_none_iff :
    wordAt? words text = none ↔ ∀ word ∈ words, beginsWith word text = false := by
  simp [wordAt?]

theorem of_wordAt?_eq_some (h : wordAt? words text = some word) :
    word ∈ words ∧ beginsWith word text = true :=
  ⟨List.mem_of_find?_eq_some h, List.find?_some (p := (beginsWith · text)) h⟩

@[simp] theorem maskFrom_nil (words : List (List Char)) (covered : Nat) :
    maskFrom words covered [] = ([], false) := by
  cases covered <;> rfl

theorem maskFrom_none (h : wordAt? words (c :: text) = none) :
    maskFrom words 0 (c :: text) = (c :: (maskFrom words 0 text).1, (maskFrom words 0 text).2) := by
  rw [maskFrom, h]

theorem maskFrom_some {word : List Char} (h : wordAt? words (c :: text) = some word) :
    maskFrom words 0 (c :: text) = ('*' :: (maskFrom words (word.length - 1) text).1, true) := by
  rw [maskFrom, h]

theorem maskWords_hit_iff (nonempty : ∀ word ∈ words, word ≠ []) :
    (maskWords words text).2 = true ↔ ∃ word ∈ words, Occurs word text := by
  unfold maskWords
  induction text with
  | nil =>
    constructor
    · intro hit
      exact absurd hit Bool.false_ne_true
    · rintro ⟨word, listed, occurs⟩
      exact absurd occurs (not_occurs_nil (nonempty word listed))
  | cons c text ih =>
    cases found : wordAt? words (c :: text) with
    | none =>
      have none_begins := wordAt?_eq_none_iff.mp found
      rw [maskFrom_none found, ih]
      refine exists_congr fun word => and_congr_right fun listed => ?_
      simp only [occurs_cons, none_begins word listed, Bool.false_eq_true, false_or]
    | some word =>
      rw [maskFrom_some found]
      obtain ⟨listed, begins⟩ := of_wordAt?_eq_some found
      exact iff_of_true rfl ⟨word, listed, occurs_cons.mpr (.inl begins)⟩

theorem maskWords_eq_of_no_hit (h : (maskWords words text).2 = false) :
    (maskWords words text).1 = text := by
  unfold maskWords at h ⊢
  induction text with
  | nil => rfl
  | cons c text ih =>
    cases found : wordAt? words (c :: text) with
    | none =>
      rw [maskFrom_none found] at h ⊢
      exact congrArg (c :: ·) (ih h)
    | some word =>
      rw [maskFrom_some found] at h
      exact absurd h.symm Bool.false_ne_true

/-- No star agrees with a character of the word. -/
def Starless (word : List Char) : Prop := ∀ c ∈ word, Letter.sameLetter c '*' = false

theorem beginsWith_star (starless : Starless word) (hword : word ≠ []) :
    beginsWith word ('*' :: text) = false := by
  cases word with
  | nil => exact absurd rfl hword
  | cons w word => simp [beginsWith, starless w List.mem_cons_self]

/-- What a masked text begins with, the text began with, and no star stands there. -/
theorem beginsWith_of_maskFrom (starless : Starless word) (hword : word ≠ []) {covered : Nat}
    (h : beginsWith word (maskFrom words covered text).1 = true) :
    covered = 0 ∧ beginsWith word text = true ∧ wordAt? words text = none := by
  induction text generalizing word covered with
  | nil =>
    rw [maskFrom_nil, beginsWith_nil_text hword] at h
    exact absurd h Bool.false_ne_true
  | cons c text ih =>
    cases covered with
    | succ covered =>
      rw [maskFrom, beginsWith_star starless hword] at h
      exact absurd h Bool.false_ne_true
    | zero =>
      cases found : wordAt? words (c :: text) with
      | some other =>
        rw [maskFrom_some found, beginsWith_star starless hword] at h
        exact absurd h Bool.false_ne_true
      | none =>
        rw [maskFrom_none found] at h
        refine ⟨rfl, ?_, rfl⟩
        cases word with
        | nil => exact absurd rfl hword
        | cons w word =>
          simp only [beginsWith, Bool.and_eq_true] at h ⊢
          refine ⟨h.1, ?_⟩
          cases word with
          | nil => exact beginsWith.eq_1 text
          | cons v word =>
            have rest : Starless (v :: word) := fun d hd => starless d (List.mem_cons_of_mem w hd)
            exact (ih rest (List.cons_ne_nil v word) h.2).2.1

/-- No listed word occurs in a masked text. -/
theorem not_occurs_maskWords (starless : Starless word) (hword : word ≠ [])
    (listed : word ∈ words) : ¬ Occurs word (maskWords words text).1 := by
  have anywhere : ∀ covered, ¬ Occurs word (maskFrom words covered text).1 := by
    induction text with
    | nil =>
      intro covered
      rw [maskFrom_nil]
      exact not_occurs_nil hword
    | cons c text ih =>
      intro covered occurs
      have here : beginsWith word (maskFrom words covered (c :: text)).1 = false := by
        cases begins : beginsWith word (maskFrom words covered (c :: text)).1 with
        | false => rfl
        | true =>
          obtain ⟨_, begins, none_found⟩ := beginsWith_of_maskFrom starless hword begins
          rw [wordAt?_eq_none_iff.mp none_found word listed] at begins
          exact absurd begins Bool.false_ne_true
      obtain ⟨d, next, hnext⟩ : ∃ d next, (maskFrom words covered (c :: text)).1 =
          d :: (maskFrom words next text).1 := by
        cases covered with
        | succ covered => exact ⟨'*', covered, rfl⟩
        | zero =>
          cases found : wordAt? words (c :: text) with
          | none => exact ⟨c, 0, by rw [maskFrom_none found]⟩
          | some other => exact ⟨'*', other.length - 1, by rw [maskFrom_some found]⟩
      rw [hnext] at occurs here
      rcases occurs_cons.mp occurs with begins | occurs
      · rw [here] at begins
        exact Bool.false_ne_true begins
      · exact ih next occurs
  exact anywhere 0

end Parley.Filter
