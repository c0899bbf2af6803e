import Mathlib.Data.List.TakeWhile
import Parley.Proofs.Filter.LinkParts

/-!
# Searches within searches

What is cut off a link is stripped as a text of its own, which may hold links again, and so on. Of
what the pattern of links matches, neither the cut at an escaped quote nor the trimming of marks
takes away the scheme or the `www` that it begins with. So each text that is stripped within another
one has at least three characters less, and the stripping of every text comes to an end.

`Strips` says how a text is stripped call by call, and holds only where that ends.
-/

namespace Parley.Filter

open Letter (isWordChar sameLetter)

variable {hosts : List (List Char)} {placeholder text found link marks stem : List Char}
  {afterWord : Bool} {outcome : List Char × Bool} {w : Char} {depth n : Nat}

/-- The pattern of links matches the whole of the text: a link head and link characters behind
it. -/
structure IsMatch (found : List Char) : Prop where
  opens : Opens found
  chars : ∀ c ∈ found, isLinkChar c = true

theorem isMatch_of_linkLength? (h : linkLength? text = some n) : IsMatch (text.take n) := by
  have opens := (linkLength?_eq_some_iff.mp h).1
  rw [take_of_linkLength? h]
  exact ⟨opens, fun c inside => List.all_eq_true.mp List.all_takeWhile c inside⟩

/-- The pattern matches as far as it can. -/
theorem IsMatch.linkLength? (found_match : IsMatch found) :
    linkLength? found = some found.length := by
  have span : linkSpan found = found := List.takeWhile_eq_self_iff.mpr found_match.chars
  rw [linkLength?_eq_some_iff, span]
  exact ⟨found_match.opens, rfl⟩

/-- What every link begins with, up to case: its head without a dot at the end. -/
def linkStems : List (List Char) := ["https://".toList, "http://".toList, "www".toList]

theorem linkHead_stem {head : List Char} (listed : head ∈ linkHeads) :
    ∃ stem w rest, stem ++ [w] ∈ linkStems ∧ head = stem ++ [w] ++ rest ∧ (w = '/' ∨ w = 'w') := by
  simp only [linkHeads, List.mem_cons, List.not_mem_nil, or_false] at listed
  rcases listed with rfl | rfl | rfl
  · exact ⟨"https:/".toList, '/', [], by decide, by decide, .inl rfl⟩
  · exact ⟨"http:/".toList, '/', [], by decide, by decide, .inl rfl⟩
  · exact ⟨"ww".toList, 'w', ['.'], by decide, by decide, .inr rfl⟩

theorem not_sameLetter_of_isSentenceMark {c : Char} (hw : w = '/' ∨ w = 'w')
    (mark : isSentenceMark c = true) : sameLetter w c = false := by
  simp only [isSentenceMark, Bool.or_eq_true, beq_iff_eq] at mark
  rcases hw with rfl | rfl
  all_goals
    rcases mark with (((((rfl | rfl) | rfl) | rfl) | rfl) | rfl) | rfl <;> decide

theorem beginsWith_of_append {word more : List Char} (h : beginsWith (word ++ more) text = true) :
    beginsWith word text = true := by
  induction word generalizing text with
  | nil => exact beginsWith.eq_1 _
  | cons w word ih =>
    cases text with
    | nil => exact absurd h Bool.false_ne_true
    | cons c text =>
      simp only [List.cons_append, beginsWith, Bool.and_eq_true] at h ⊢
      exact ⟨h.1, ih h.2⟩

/-- A word that does not end in a mark does not reach into the marks behind a text. -/
theorem beginsWith_of_append_marks (apart : ∀ c ∈ marks, sameLetter w c = false)
    (h : beginsWith (stem ++ [w]) (link ++ marks) = true) :
    beginsWith (stem ++ [w]) link = true := by
  induction stem generalizing link marks with
  | nil =>
    cases link with
    | cons c link => simpa [beginsWith] using h
    | nil =>
      cases marks with
      | nil => exact h
      | cons c marks =>
        have same : sameLetter w c = true := by simpa [beginsWith] using h
        exact absurd ((apart c List.mem_cons_self).symm.trans same) Bool.false_ne_true
  | cons v stem ih =>
    cases link with
    | cons c link =>
      simp only [List.cons_append, beginsWith, Bool.and_eq_true] at h ⊢
      exact ⟨h.1, ih apart h.2⟩
    | nil =>
      cases marks with
      | nil => exact h
      | cons c marks =>
        simp only [List.nil_append, List.cons_append, beginsWith, Bool.and_eq_true] at h
        have apart : ∀ d ∈ marks, sameLetter w d = false :=
          fun d hd => apart d (List.mem_cons_of_mem c hd)
        have inside : beginsWith (stem ++ [w]) [] = true := ih apart h.2
        have fits := length_le_of_beginsWith inside
        simp at fits

/-- Cutting and trimming leave the scheme or the `www` in place. -/
theorem IsMatch.linkPart_begins (found_match : IsMatch found) :
    ∃ stem ∈ linkStems, beginsWith stem (linkPart found) = true := by
  obtain ⟨marks, after, -, begins⟩ := exists_beginsLink found_match.linkLength?
  rw [List.take_length] at begins
  obtain ⟨head, listed, opens, -⟩ := begins.opens
  obtain ⟨stem, w, rest, isStem, rfl, hw⟩ := linkHead_stem listed
  have apart : ∀ c ∈ marks, sameLetter w c = false := by
    intro c mark
    exact not_sameLetter_of_isSentenceMark hw (begins.sentenceMarks c mark)
  exact ⟨stem ++ [w], isStem, beginsWith_of_append_marks apart (beginsWith_of_append opens)⟩

/-- The dot of `www.` may be trimmed, and an escaped bracket may follow right behind a head. -/
example : linkPart "WWW.,!".toList = "WWW".toList ∧
    linkPart "https://&lt;www.x.test".toList = "https://".toList := by
  decide

theorem IsMatch.length_linkPart (found_match : IsMatch found) : 3 ≤ (linkPart found).length := by
  obtain ⟨stem, listed, begins⟩ := found_match.linkPart_begins
  have long : ∀ stem ∈ linkStems, 3 ≤ stem.length := by decide
  exact (long stem listed).trans (length_le_of_beginsWith begins)

theorem IsMatch.length_cutOff (found_match : IsMatch found) :
    (cutOff found).length + 3 ≤ found.length := by
  have part := found_match.length_linkPart
  have whole := congrArg List.length (linkPart_append_cutOff found)
  rw [List.length_append] at whole
  omega

/-- Stripping a text ends with an outcome, and at no time are more than `depth` calls under way
within it. The text is passed over from the left, and what was cut off a link is stripped by a call
of its own. -/
inductive Strips (hosts : List (List Char)) (placeholder : List Char) :
    Nat → Bool → List Char → List Char × Bool → Prop
  | done {depth : Nat} {afterWord : Bool} : Strips hosts placeholder depth afterWord [] ([], false)
  | skip {depth : Nat} {afterWord : Bool} {c : Char} {text : List Char} {rest : List Char × Bool} :
      afterWord = true ∨ linkLength? (c :: text) = none →
      Strips hosts placeholder depth (isWordChar c) text rest →
      Strips hosts placeholder depth afterWord (c :: text) (c :: rest.1, rest.2)
  | link {depth n : Nat} {text : List Char} {cut behind : List Char × Bool} :
      linkLength? text = some n →
      Strips hosts placeholder depth false (cutOff (text.take n)) cut →
      Strips hosts placeholder (depth + 1) false (text.drop n) behind →
      Strips hosts placeholder (depth + 1) false text
        ((if isAllowed hosts (linkPart (text.take n)) then linkPart (text.take n)
            else placeholder) ++ cut.1 ++ behind.1,
          !isAllowed hosts (linkPart (text.take n)) || cut.2 || behind.2)

theorem Strips.eq_stripFrom (h : Strips hosts placeholder depth afterWord text outcome) :
    outcome = stripFrom hosts placeholder afterWord text := by
  induction h with
  | done => rw [stripFrom]
  | skip skips _ ih => rw [stripFrom_cons skips, ih]
  | link length _ _ ihCut ihBehind => rw [stripFrom_of_linkLength? length, ihCut, ihBehind]

/-- Each call within a call has at least three characters less. -/
theorem strips_stripFrom (enough : text.length ≤ 3 * depth + 2) :
    Strips hosts placeholder depth afterWord text
      (stripFrom hosts placeholder afterWord text) := by
  induction afterWord, text using search_induction generalizing depth with
  | nil afterWord =>
    rw [stripFrom]
    exact .done
  | cons afterWord c text skips ih =>
    rw [stripFrom_cons skips]
    apply Strips.skip skips
    apply ih
    rw [List.length_cons] at enough
    omega
  | link text n length ihCut ihBehind =>
    have shorter := (isMatch_of_linkLength? length).length_cutOff
    have fits := List.length_take_le' n text
    have behind := length_drop_lt length
    rw [stripFrom_of_linkLength? length]
    cases depth with
    | zero => omega
    | succ depth =>
      apply Strips.link length
      · apply ihCut
        omega
      · apply ihBehind
        omega

/-- What a search finds is matched by the pattern of links. Of everything that the pattern matches a
link is left that begins with a scheme or with `www`, so it is not empty and what is cut off it is
shorter than the match. For every whitelist, every placeholder and every text: stripping the text
ends, with calls within calls for at most a third of its characters, and with one outcome. -/
theorem stripping_ends (hosts : List (List Char)) (placeholder : List Char) :
    (∀ text n, linkLength? text = some n → IsMatch (text.take n)) ∧
    (∀ found, IsMatch found →
      (∃ stem ∈ linkStems, beginsWith stem (linkPart found) = true) ∧ linkPart found ≠ [] ∧
        (cutOff found).length < found.length) ∧
    ∀ text outcome, Strips hosts placeholder (text.length / 3) false text outcome ↔
      outcome = stripLinks hosts placeholder text := by
  refine ⟨fun text n => isMatch_of_linkLength?, ?_, ?_⟩
  · intro found found_match
    have part := found_match.length_linkPart
    have cut := found_match.length_cutOff
    refine ⟨found_match.linkPart_begins, ?_, by omega⟩
    intro nothing
    rw [nothing] at part
    simp at part
  · intro text outcome
    constructor
    · exact Strips.eq_stripFrom
    · rintro rfl
      apply strips_stripFrom
      omega

end Parley.Filter
