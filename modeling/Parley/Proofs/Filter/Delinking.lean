import Parley.Proofs.Filter.LinkParts

/-!
# Links of a stripped text

Only allowed links are left in a stripped text. The links that stay are met again, each with the
end it had, because what follows it is copied up to that end. No link arises where there was none:
a stripped text agrees with the text before up to a placeholder, and a link stood there.
-/

namespace Parley.Filter

open Letter (isWordChar sameLetter)

variable {hosts : List (List Char)} {placeholder text u v after link marks other quiet : List Char}
  {afterWord : Bool} {c d : Char}

/-- No link head begins with the character. -/
def Quiet (c : Char) : Prop := sameLetter 'h' c = false ∧ sameLetter 'w' c = false

instance (c : Char) : Decidable (Quiet c) := inferInstanceAs (Decidable (_ ∧ _))

theorem linkLength?_of_quiet (h : Quiet c) : linkLength? (c :: text) = none := by
  cases found : linkLength? (c :: text) with
  | none => rfl
  | some n =>
    rcases head_of_linkLength? found with same | same
    · exact absurd (h.1.symm.trans same) Bool.false_ne_true
    · exact absurd (h.2.symm.trans same) Bool.false_ne_true

theorem quiet_of_isSentenceMark (h : isSentenceMark c = true) : Quiet c := by
  simp only [isSentenceMark, Bool.or_eq_true, beq_iff_eq] at h
  rcases h with (((((rfl | rfl) | rfl) | rfl) | rfl) | rfl) | rfl <;> decide

theorem quiet_of_mem_linkEnd : ∀ e ∈ linkEnds, ∀ c ∈ e, Quiet c := by
  decide

/-- Characters that begin no link are copied. -/
theorem stripFrom_quiet_append (hquiet : ∀ c ∈ quiet, Quiet c) (hosts : List (List Char))
    (placeholder : List Char) (afterWord : Bool) (text : List Char) : ∃ behind,
      (stripFrom hosts placeholder afterWord (quiet ++ text)).1 =
        quiet ++ (stripFrom hosts placeholder behind text).1 := by
  induction quiet generalizing afterWord with
  | nil => exact ⟨afterWord, rfl⟩
  | cons c quiet ih =>
    have none_here : linkLength? (c :: (quiet ++ text)) = none :=
      linkLength?_of_quiet (hquiet c List.mem_cons_self)
    obtain ⟨behind, copied⟩ :=
      ih (fun d hd => hquiet d (List.mem_cons_of_mem c hd)) (isWordChar c)
    refine ⟨behind, ?_⟩
    rw [List.cons_append, stripFrom_cons (.inr none_here), copied, List.cons_append]

theorem stripFrom_of_quiet (hquiet : ∀ c ∈ quiet, Quiet c) :
    (stripFrom hosts placeholder afterWord quiet).1 = quiet := by
  obtain ⟨behind, copied⟩ := stripFrom_quiet_append hquiet hosts placeholder afterWord []
  simpa [stripFrom] using copied

theorem stopped_stripFrom (stopped : Stopped text) :
    Stopped (stripFrom hosts placeholder afterWord text).1 := by
  cases text with
  | nil => simpa [stripFrom] using stopped
  | cons c text =>
    rw [stripFrom_cons (.inr (linkLength?_of_stopped stopped))]
    exact stopped

namespace BeginsLink

theorem link_ne_nil (h : BeginsLink link marks after) : link ≠ [] := by
  rintro rfl
  obtain ⟨head, listed, begins, -⟩ := h.opens
  cases marks with
  | nil =>
    have nonempty : ∀ head ∈ linkHeads, beginsWith head [] = false := by decide
    exact absurd ((nonempty head listed).symm.trans begins) Bool.false_ne_true
  | cons m marks =>
    have first : ∀ head ∈ linkHeads, ∃ rest, head = 'h' :: rest ∨ head = 'w' :: rest := by
      intro head listed
      simp only [linkHeads, List.mem_cons, List.not_mem_nil, or_false] at listed
      rcases listed with rfl | rfl | rfl
      · exact ⟨_, .inl rfl⟩
      · exact ⟨_, .inl rfl⟩
      · exact ⟨_, .inr rfl⟩
    have hm : Quiet m := quiet_of_isSentenceMark (h.sentenceMarks m List.mem_cons_self)
    obtain ⟨rest, rfl | rfl⟩ := first head listed
    · exact absurd (hm.1.symm.trans (beginsWith_cons begins)) Bool.false_ne_true
    · exact absurd (hm.2.symm.trans (beginsWith_cons begins)) Bool.false_ne_true

/-- Stripping copies what is behind a link up to where the link ends. -/
theorem stripFrom_behind (h : BeginsLink link marks after) (hosts : List (List Char))
    (placeholder : List Char) : ∃ other,
    (stripFrom hosts placeholder false (marks ++ after)).1 = marks ++ other ∧
      BeginsLink link marks other := by
  have marks_quiet : ∀ c ∈ marks, Quiet c := fun c hc =>
    quiet_of_isSentenceMark (h.sentenceMarks c hc)
  rcases h.ends with stopped | ⟨e, listed, rest, rfl⟩
  · refine ⟨(stripFrom hosts placeholder false after).1, ?_, ?_⟩
    · rw [stripFrom_append stopped, stripFrom_of_quiet marks_quiet]
    · exact h.of_after (.inl ⟨stopped, stopped_stripFrom stopped⟩)
  · have all_quiet : ∀ c ∈ marks ++ e, Quiet c := by
      intro c hc
      rcases List.mem_append.mp hc with hc | hc
      · exact marks_quiet c hc
      · exact quiet_of_mem_linkEnd e listed c hc
    obtain ⟨behind, copied⟩ := stripFrom_quiet_append all_quiet hosts placeholder false rest
    refine ⟨e ++ (stripFrom hosts placeholder behind rest).1, ?_, ?_⟩
    · rw [← List.append_assoc, copied, List.append_assoc]
    · exact h.of_after (.inr ⟨e, listed, List.prefix_append _ _⟩)

end BeginsLink

/-- A search looks at one character after the other, or at a link and then at what is right behind
it. -/
theorem link_induction {motive : Bool → List Char → Prop}
    (nil : ∀ afterWord, motive afterWord [])
    (cons : ∀ afterWord c text, afterWord = true ∨ linkLength? (c :: text) = none →
      motive (isWordChar c) text → motive afterWord (c :: text))
    (link : ∀ link marks after, BeginsLink link marks after → motive false (marks ++ after) →
      motive false (link ++ (marks ++ after)))
    (afterWord : Bool) (text : List Char) : motive afterWord text := by
  induction hsize : text.length using Nat.strongRecOn generalizing afterWord text with
  | ind size ih =>
    subst hsize
    cases text with
    | nil => exact nil afterWord
    | cons c text =>
      have step : afterWord = true ∨ linkLength? (c :: text) = none →
          motive afterWord (c :: text) := fun skips =>
        cons afterWord c text skips (ih _ (Nat.lt_succ_self _) _ text rfl)
      cases afterWord with
      | true => exact step (.inl rfl)
      | false =>
        cases h : linkLength? (c :: text) with
        | none => exact step (.inr h)
        | some n =>
          obtain ⟨marks, after, whole, begins⟩ := exists_beginsLink h
          have positive := List.length_pos_iff.mpr begins.link_ne_nil
          have length := congrArg List.length whole
          rw [List.length_append] at length
          rw [whole]
          exact link _ marks after begins (ih _ (by omega) false _ rfl)

/-- A placeholder in brackets that holds no link. -/
structure Enclosed (placeholder : List Char) : Prop where
  opens : placeholder.head? = some '['
  closes : placeholder.getLast? = some ']'
  linkless : ∀ link, ¬ FindsLink false placeholder link

theorem linkHead_apart_brackets :
    ∀ head ∈ linkHeads, ∀ w ∈ head, sameLetter w '[' = false ∧ sameLetter w ']' = false := by
  decide

/-- A link head ends before a character that it does not have. So it opens the same text when
another character stands there, if a link may extend over that one. -/
theorem opens_of_append_cons {other : List Char}
    (apart : ∀ head ∈ linkHeads, ∀ w ∈ head, sameLetter w c = false) (hd : isLinkChar d = true)
    (h : Opens (linkSpan (u ++ c :: text))) : Opens (linkSpan (u ++ d :: other)) := by
  obtain ⟨head, listed, begins, longer⟩ := h
  simp only [linkSpan, List.takeWhile_append] at begins longer ⊢
  split at begins
  · next all =>
    have begins_u : beginsWith head u = true := by
      have whole := beginsWith_append begins ((c :: text).dropWhile isLinkChar)
      rw [List.append_assoc, List.takeWhile_append_dropWhile] at whole
      exact beginsWith_of_append_cons (apart head listed) whole
    have fits := length_le_of_beginsWith begins_u
    rw [if_pos all]
    refine ⟨head, listed, beginsWith_append begins_u _, ?_⟩
    rw [List.takeWhile_cons_of_pos hd, List.length_append, List.length_cons]
    omega
  · next stops =>
    rw [if_neg stops] at longer ⊢
    exact ⟨head, listed, begins, longer⟩

/-- Behind a placeholder the search is as at the begin of a text. -/
theorem findsLink_placeholder (enclosed : Enclosed placeholder) :
    FindsLink false (placeholder ++ text) link ↔ FindsLink false text link := by
  obtain ⟨-, closes, linkless⟩ := enclosed
  obtain ⟨inner, rfl⟩ := List.getLast?_eq_some_iff.mp closes
  have behind : ∀ afterWord, (∀ link, ¬ FindsLink afterWord (inner ++ [']']) link) →
      (FindsLink afterWord (inner ++ ']' :: text) link ↔ FindsLink false text link) := by
    clear closes linkless
    induction inner with
    | nil =>
      intro afterWord _
      have none_here : linkLength? (']' :: text) = none := linkLength?_of_quiet (by decide)
      have noWord : isWordChar ']' = false := by decide
      rw [List.nil_append, findsLink_cons (.inr none_here), noWord]
    | cons c inner ih =>
      intro afterWord linkless
      have skips : afterWord = true ∨ linkLength? (c :: (inner ++ [']'])) = none := by
        cases afterWord with
        | true => exact .inl rfl
        | false =>
          refine .inr (Option.eq_none_iff_forall_not_mem.mpr fun n found => ?_)
          exact linkless _ (.here found)
      have skips_all : afterWord = true ∨ linkLength? (c :: (inner ++ ']' :: text)) = none := by
        refine skips.imp_right fun none_here => ?_
        rw [linkLength?_eq_none_iff] at none_here ⊢
        intro opens
        refine none_here (opens_of_append_cons (u := c :: inner) (c := ']') ?_ (by decide) opens)
        exact fun head listed w hw => (linkHead_apart_brackets head listed w hw).2
      rw [List.cons_append, findsLink_cons skips_all]
      refine ih _ fun link found => linkless link ?_
      rw [List.cons_append, findsLink_cons skips]
      exact found
  have whole := behind false linkless
  rwa [List.append_assoc]

/-- A stripped text is the text before, or agrees with it up to a placeholder. A link stood there. -/
theorem stripFrom_cases (opens : placeholder.head? = some '[') (hosts : List (List Char))
    (afterWord : Bool) (text : List Char) :
    (stripFrom hosts placeholder afterWord text).1 = text ∨
    ∃ u c rest out, text = u ++ c :: rest ∧ isLinkChar c = true ∧
      (stripFrom hosts placeholder afterWord text).1 = u ++ '[' :: out := by
  induction afterWord, text using link_induction with
  | nil afterWord => exact .inl (by simp [stripFrom])
  | cons afterWord c text skips ih =>
    rw [stripFrom_cons skips]
    rcases ih with same | ⟨u, d, rest, out, rfl, hd, same⟩
    · exact .inl (congrArg (c :: ·) same)
    · exact .inr ⟨c :: u, d, rest, out, rfl, hd, congrArg (c :: ·) same⟩
  | link link marks after begins ih =>
    rw [begins.stripFrom_eq]
    cases allowed : isAllowed hosts link with
    | true =>
      rw [if_pos rfl]
      rcases ih with same | ⟨u, d, rest, out, split, hd, same⟩
      · exact .inl (congrArg (link ++ ·) same)
      · refine .inr ⟨link ++ u, d, rest, out, ?_, hd, ?_⟩
        · rw [split, List.append_assoc]
        · rw [same, List.append_assoc]
    | false =>
      rw [if_neg Bool.false_ne_true]
      obtain ⟨c, rest, rfl⟩ := List.exists_cons_of_ne_nil begins.link_ne_nil
      obtain ⟨p, rfl⟩ := List.head?_eq_some_iff.mp opens
      have hc := begins.chars c (List.mem_append_left _ List.mem_cons_self)
      exact .inr ⟨[], c, rest ++ (marks ++ after), p ++ _, rfl, hc, rfl⟩

/-- Stripping makes no link at the begin of a text. -/
theorem linkLength?_stripFrom (opens : placeholder.head? = some '[') (hosts : List (List Char))
    (afterWord : Bool) (h : linkLength? text = none) :
    linkLength? (stripFrom hosts placeholder afterWord text).1 = none := by
  rcases stripFrom_cases opens hosts afterWord text with
    same | ⟨u, c, rest, out, rfl, hc, same⟩
  · rw [same, h]
  · rw [linkLength?_eq_none_iff] at h ⊢
    rw [same]
    refine fun found => h (opens_of_append_cons ?_ hc found)
    exact fun head listed w hw => (linkHead_apart_brackets head listed w hw).1

/-- Every link of a stripped text is allowed. -/
theorem isAllowed_of_findsLink_stripFrom (enclosed : Enclosed placeholder)
    (h : FindsLink afterWord (stripFrom hosts placeholder afterWord text).1 link) :
    isAllowed hosts link = true := by
  induction afterWord, text using link_induction with
  | nil afterWord =>
    have nothing : (stripFrom hosts placeholder afterWord []).1 = [] := by simp [stripFrom]
    exact absurd (nothing ▸ h) not_findsLink_nil
  | cons afterWord c text skips ih =>
    have skips_out : afterWord = true ∨
        linkLength? (c :: (stripFrom hosts placeholder (isWordChar c) text).1) = none := by
      refine skips.imp_right fun none_here => ?_
      have kept := linkLength?_stripFrom enclosed.opens hosts afterWord none_here
      rwa [stripFrom_cons skips] at kept
    rw [stripFrom_cons skips] at h
    exact ih ((findsLink_cons skips_out).mp h)
  | link first marks after begins ih =>
    rw [begins.stripFrom_eq] at h
    cases allowed : isAllowed hosts first with
    | true =>
      rw [allowed, if_pos rfl] at h
      obtain ⟨other, copied, again⟩ := begins.stripFrom_behind hosts placeholder
      rw [copied] at h ih
      rcases again.findsLink_iff.mp h with rfl | found
      · exact allowed
      · exact ih found
    | false =>
      rw [allowed, if_neg Bool.false_ne_true] at h
      exact ih ((findsLink_placeholder enclosed).mp h)

end Parley.Filter
