import Parley.Proofs.Filter.Links
import Parley.Proofs.Filter.Occurrence
import Parley.Proofs.Letter.Case

/-!
# Where a link begins and ends

Whether a link begins a text depends only on the characters up to the next blank, quote or bracket.
So a text may be searched in parts that are cut there, and what was cut off a link and what is
behind it may be searched in one go.

`BeginsLink` says how a text is made that a link begins: the link, the marks that end the sentence,
and behind them either the end of the part or an escaped quote or bracket.
-/

namespace Parley.Filter

open Letter (isWordChar sameLetter)

variable {hosts : List (List Char)} {placeholder text word u v after link marks e : List Char}
  {afterWord : Bool} {c w : Char} {n : Nat}

/-- A text that no link character begins. -/
def Stopped (text : List Char) : Prop := ∀ c ∈ text.head?, isLinkChar c = false

/-- The part of a text that a link at its begin extends over. -/
def linkSpan (text : List Char) : List Char := text.takeWhile isLinkChar

/-- The part begins with a link head and has more than that. -/
def Opens (span : List Char) : Prop :=
  ∃ head ∈ linkHeads, beginsWith head span = true ∧ head.length < span.length

theorem beginsWith_takeWhile {p : Char → Bool}
    (inside : ∀ w ∈ word, ∀ c, sameLetter w c = true → p c = true)
    (h : beginsWith word text = true) : beginsWith word (text.takeWhile p) = true := by
  induction word generalizing text with
  | nil => exact beginsWith.eq_1 _
  | cons w word ih =>
    cases text with
    | nil => exact absurd h Bool.false_ne_true
    | cons c text =>
      simp only [beginsWith, Bool.and_eq_true] at h
      rw [List.takeWhile_cons_of_pos (inside w List.mem_cons_self c h.1)]
      simp only [beginsWith, Bool.and_eq_true]
      exact ⟨h.1, ih (fun w hw => inside w (List.mem_cons_of_mem _ hw)) h.2⟩

/-- Link heads are made of link characters, up to case. -/
theorem isLinkChar_of_sameLetter {head : List Char} (listed : head ∈ linkHeads) :
    ∀ w ∈ head, ∀ c, sameLetter w c = true → isLinkChar c = true := by
  have ascii : ∀ head ∈ linkHeads, ∀ w ∈ head, w.toNat < 128 ∧
      ∀ n < 128, sameLetter w (Char.ofNat n) = true → isLinkChar (Char.ofNat n) = true := by
    decide +kernel
  intro w hw c h
  obtain ⟨hsmall, small⟩ := ascii head listed w hw
  rcases Letter.ascii_of_sameLetter hsmall h with hc | rfl | rfl
  · exact Letter.forall_ascii (p := fun c => sameLetter w c = true → isLinkChar c = true) small hc h
  · decide
  · decide

/-- Two words that begin one text agree as far as both go. -/
theorem sameLetter_of_beginsWith {other : List Char} (h : beginsWith word text = true)
    (h' : beginsWith other text = true) : ∀ p ∈ word.zip other, sameLetter p.1 p.2 = true := by
  induction word generalizing other text with
  | nil => exact fun p hp => absurd hp List.not_mem_nil
  | cons w word ih =>
    cases other with
    | nil => exact fun p hp => absurd hp List.not_mem_nil
    | cons o other =>
      cases text with
      | nil => exact absurd h Bool.false_ne_true
      | cons c text =>
        simp only [beginsWith, Bool.and_eq_true, Letter.sameLetter_iff] at h h'
        intro p hp
        rcases List.mem_cons.mp hp with rfl | hp
        · exact Letter.sameLetter_iff.mpr (h.1.trans h'.1.symm)
        · exact ih h.2 h'.2 p hp

/-- At most one link head begins a text. -/
theorem linkHead_unique {a b : List Char} (ha : a ∈ linkHeads) (hb : b ∈ linkHeads)
    (h : beginsWith a text = true) (h' : beginsWith b text = true) : a = b := by
  have apart : ∀ a ∈ linkHeads, ∀ b ∈ linkHeads,
      (∀ p ∈ a.zip b, sameLetter p.1 p.2 = true) → a = b := by
    decide +kernel
  exact apart a ha b hb (sameLetter_of_beginsWith h h')

theorem takeWhile_drop_of_beginsWith {p : Char → Bool}
    (inside : ∀ w ∈ word, ∀ c, sameLetter w c = true → p c = true)
    (h : beginsWith word text = true) :
    (text.drop word.length).takeWhile p = (text.takeWhile p).drop word.length := by
  induction word generalizing text with
  | nil => rfl
  | cons w word ih =>
    cases text with
    | nil => exact absurd h Bool.false_ne_true
    | cons c text =>
      simp only [beginsWith, Bool.and_eq_true] at h
      rw [List.takeWhile_cons_of_pos (inside w List.mem_cons_self c h.1)]
      exact ih (fun w hw => inside w (List.mem_cons_of_mem _ hw)) h.2

theorem linkSpan_append_dropWhile (text : List Char) :
    linkSpan text ++ text.dropWhile isLinkChar = text :=
  List.takeWhile_append_dropWhile

theorem beginsWith_linkSpan_iff {head : List Char} (listed : head ∈ linkHeads) :
    beginsWith head (linkSpan text) = true ↔ beginsWith head text = true := by
  constructor
  · intro begins
    have whole := beginsWith_append begins (text.dropWhile isLinkChar)
    rwa [linkSpan_append_dropWhile] at whole
  · exact beginsWith_takeWhile (isLinkChar_of_sameLetter listed)

/-- What follows the head of a link, and the head, are all of the part. -/
theorem length_linkSpan {head : List Char} (listed : head ∈ linkHeads)
    (begins : beginsWith head text = true) :
    ((text.drop head.length).takeWhile isLinkChar).length + head.length =
      (linkSpan text).length := by
  have fits := length_le_of_beginsWith ((beginsWith_linkSpan_iff listed).mpr begins)
  rw [takeWhile_drop_of_beginsWith (isLinkChar_of_sameLetter listed) begins, List.length_drop]
  exact Nat.sub_add_cancel fits

theorem opens_of_linkLength? (h : linkLength? text = some n) :
    Opens (linkSpan text) ∧ n = (linkSpan text).length := by
  unfold linkLength? at h
  split at h
  · exact absurd h (by simp)
  · next head found =>
    have begins : beginsWith head text = true := List.find?_some (p := (beginsWith · text)) found
    have listed := List.mem_of_find?_eq_some found
    have length := length_linkSpan listed begins
    split at h
    · exact absurd h (by simp)
    · next more hmore =>
      have positive := List.length_pos_iff.mpr hmore
      have same := Option.some.inj h
      exact ⟨⟨head, listed, (beginsWith_linkSpan_iff listed).mpr begins, by omega⟩, by omega⟩

theorem linkLength?_of_opens (opens : Opens (linkSpan text)) :
    linkLength? text = some (linkSpan text).length := by
  obtain ⟨head, listed, begins, longer⟩ := opens
  rw [beginsWith_linkSpan_iff listed] at begins
  have length := length_linkSpan listed begins
  unfold linkLength?
  split
  · next none_found => exact absurd begins (List.find?_eq_none.mp none_found head listed)
  · next other found =>
    obtain rfl := linkHead_unique (List.mem_of_find?_eq_some found) listed
      (List.find?_some (p := (beginsWith · text)) found) begins
    split
    · next nothing =>
      rw [nothing, List.length_nil] at length
      omega
    · exact congrArg some (by omega)

/-- A link extends over all of the part that it begins. -/
theorem linkLength?_eq_some_iff :
    linkLength? text = some n ↔ Opens (linkSpan text) ∧ n = (linkSpan text).length := by
  constructor
  · exact opens_of_linkLength?
  · rintro ⟨opens, rfl⟩
    exact linkLength?_of_opens opens

theorem linkLength?_eq_none_iff : linkLength? text = none ↔ ¬ Opens (linkSpan text) := by
  rw [← not_iff_not, not_not, ← Ne, Option.ne_none_iff_exists']
  constructor
  · rintro ⟨n, h⟩
    exact (opens_of_linkLength? h).1
  · exact fun opens => ⟨_, linkLength?_of_opens opens⟩

theorem stopped_iff : Stopped text ↔ linkSpan text = [] := by
  cases text with
  | nil => exact iff_of_true (fun c hc => absurd hc (by simp)) rfl
  | cons c text =>
    cases hc : isLinkChar c with
    | false =>
      have stops : linkSpan (c :: text) = [] := List.takeWhile_cons_of_neg (by simp [hc])
      exact iff_of_true (by simpa [Stopped] using hc) stops
    | true =>
      have goes_on : linkSpan (c :: text) = c :: linkSpan text := List.takeWhile_cons_of_pos hc
      refine iff_of_false (fun stopped => ?_) (by simp [goes_on])
      exact Bool.false_ne_true ((stopped c rfl).symm.trans hc)

/-- A link begins a text when a head does and a link character follows. -/
theorem opens_linkSpan_iff : Opens (linkSpan text) ↔
    ∃ head ∈ linkHeads, beginsWith head text = true ∧ ¬ Stopped (text.drop head.length) := by
  refine exists_congr fun head => and_congr_right fun listed => ?_
  rw [beginsWith_linkSpan_iff listed]
  refine and_congr_right fun begins => ?_
  have rest : linkSpan (text.drop head.length) = (linkSpan text).drop head.length :=
    takeWhile_drop_of_beginsWith (isLinkChar_of_sameLetter listed) begins
  rw [stopped_iff, rest, List.drop_eq_nil_iff, Nat.not_le]

theorem linkSpan_append (stopped : Stopped v) : linkSpan (u ++ v) = linkSpan u := by
  induction u with
  | nil =>
    cases v with
    | nil => rfl
    | cons c v => exact List.takeWhile_cons_of_neg (by simp [stopped c rfl])
  | cons c u ih =>
    cases hc : isLinkChar c with
    | false => simp only [linkSpan, List.cons_append, List.takeWhile_cons, hc, Bool.false_eq_true,
        if_false]
    | true =>
      simp only [linkSpan, List.cons_append, List.takeWhile_cons, hc, if_true] at ih ⊢
      rw [ih]

theorem linkLength?_append (stopped : Stopped v) : linkLength? (u ++ v) = linkLength? u := by
  ext n
  rw [linkLength?_eq_some_iff, linkLength?_eq_some_iff, linkSpan_append stopped]

theorem linkLength?_of_stopped (stopped : Stopped text) : linkLength? text = none :=
  linkLength?_append (u := []) stopped

theorem findsLink_of_stopped (stopped : Stopped text) :
    FindsLink afterWord text link ↔ FindsLink false text link := by
  cases text with
  | nil => exact iff_of_false not_findsLink_nil not_findsLink_nil
  | cons c text =>
    have none_here := linkLength?_of_stopped stopped
    rw [findsLink_cons (.inr none_here), findsLink_cons (.inr none_here)]

theorem stripFrom_of_stopped (stopped : Stopped text) :
    stripFrom hosts placeholder afterWord text = stripFrom hosts placeholder false text := by
  cases text with
  | nil => simp [stripFrom]
  | cons c text =>
    have none_here := linkLength?_of_stopped stopped
    rw [stripFrom_cons (.inr none_here), stripFrom_cons (.inr none_here)]

/-- A text cut before a character that no link extends over may be searched in two parts. -/
theorem findsLink_append (stopped : Stopped v) : FindsLink afterWord (u ++ v) link ↔
    FindsLink afterWord u link ∨ FindsLink false v link := by
  induction afterWord, u using search_induction with
  | nil afterWord =>
    rw [List.nil_append, findsLink_of_stopped stopped, or_iff_right not_findsLink_nil]
  | cons afterWord c u skips ih =>
    have skips_all : afterWord = true ∨ linkLength? (c :: (u ++ v)) = none := by
      rwa [← List.cons_append, linkLength?_append stopped]
    rw [List.cons_append, findsLink_cons skips_all, findsLink_cons skips, ih]
  | link u n h _ ihBehind =>
    have hall : linkLength? (u ++ v) = some n := by rwa [linkLength?_append stopped]
    have fits := (linkLength?_bounds h).2
    rw [findsLink_of_linkLength? hall, findsLink_of_linkLength? h, List.take_append_of_le_length fits,
      List.drop_append_of_le_length fits, ihBehind, or_assoc, or_assoc]

theorem stripFrom_append (stopped : Stopped v) :
    (stripFrom hosts placeholder afterWord (u ++ v)).1 =
      (stripFrom hosts placeholder afterWord u).1 ++ (stripFrom hosts placeholder false v).1 := by
  induction afterWord, u using search_induction with
  | nil afterWord =>
    rw [List.nil_append, stripFrom_of_stopped stopped]
    simp [stripFrom]
  | cons afterWord c u skips ih =>
    have skips_all : afterWord = true ∨ linkLength? (c :: (u ++ v)) = none := by
      rwa [← List.cons_append, linkLength?_append stopped]
    rw [List.cons_append, stripFrom_cons skips_all, stripFrom_cons skips, ih, List.cons_append]
  | link u n h _ ihBehind =>
    have hall : linkLength? (u ++ v) = some n := by rwa [linkLength?_append stopped]
    have fits := (linkLength?_bounds h).2
    rw [stripFrom_of_linkLength? hall, stripFrom_of_linkLength? h,
      List.take_append_of_le_length fits, List.drop_append_of_le_length fits]
    simp only [ihBehind, List.append_assoc]

theorem take_of_linkLength? (h : linkLength? text = some n) : text.take n = linkSpan text := by
  obtain ⟨-, rfl⟩ := linkLength?_eq_some_iff.mp h
  exact (List.prefix_iff_eq_take.mp (List.takeWhile_prefix isLinkChar)).symm

theorem drop_of_linkLength? (h : linkLength? text = some n) :
    text.drop n = text.dropWhile isLinkChar := by
  have whole : text.take n ++ text.drop n = linkSpan text ++ text.dropWhile isLinkChar :=
    (List.take_append_drop n text).trans (linkSpan_append_dropWhile text).symm
  rw [take_of_linkLength? h] at whole
  exact List.append_cancel_left whole

theorem stopped_dropWhile (text : List Char) : Stopped (text.dropWhile isLinkChar) := by
  intro c hc
  have stops := List.head?_dropWhile_not isLinkChar text
  rw [Option.mem_def.mp hc] at stops
  simpa using stops

/-- An escaped quote or bracket begins the text. -/
def Ended (text : List Char) : Prop := ∃ e ∈ linkEnds, e <+: text

/-- No escaped quote or bracket stands in the text. -/
def Unended (text : List Char) : Prop := ∀ e ∈ linkEnds, ¬ e <:+: text

theorem exists_cons_of_ended (h : Ended text) : ∃ rest, text = '&' :: rest := by
  obtain ⟨e, listed, rest, rfl⟩ := h
  have ampersand : ∀ e ∈ linkEnds, e = '&' :: e.tail := by decide
  rw [ampersand e listed]
  exact ⟨e.tail ++ rest, rfl⟩

theorem not_stopped_of_ended (h : Ended text) : ¬ Stopped text := by
  obtain ⟨rest, rfl⟩ := exists_cons_of_ended h
  exact fun stopped => absurd (stopped '&' rfl) (by decide)

theorem beforeLinkEnd_of_ended (h : Ended text) : beforeLinkEnd text = [] := by
  obtain ⟨rest, rfl⟩ := exists_cons_of_ended h
  obtain ⟨e, listed, begins⟩ := h
  rw [beforeLinkEnd, if_pos]
  exact List.any_eq_true.mpr ⟨e, listed, List.isPrefixOf_iff_prefix.mpr begins⟩

/-- What comes before the first end is taken, whatever stands behind it: an end begins with an
ampersand and has no other. -/
theorem beforeLinkEnd_append (free : Unended u) (h : after = [] ∨ Ended after) :
    beforeLinkEnd (u ++ after) = u := by
  induction u with
  | nil =>
    rcases h with rfl | ended
    · rfl
    · exact beforeLinkEnd_of_ended ended
  | cons c u ih =>
    have rest : Unended u := fun e listed inside =>
      free e listed (inside.trans (List.suffix_cons c u).isInfix)
    rw [List.cons_append, beforeLinkEnd, if_neg, ih rest]
    rw [List.any_eq_true]
    rintro ⟨e, listed, begins⟩
    rw [List.isPrefixOf_iff_prefix, ← List.cons_append] at begins
    have within : e <+: c :: u := by
      rcases List.prefix_or_prefix_of_prefix begins (List.prefix_append (c :: u) after) with
        within | ⟨e', rfl⟩
      · exact within
      · have beyond : e' <+: after := (List.prefix_append_right_inj _).mp begins
        cases e' with
        | nil => rw [List.append_nil]
        | cons x e' =>
          rcases h with rfl | ended
          · exact absurd beyond (by simp)
          · obtain ⟨rest, rfl⟩ := exists_cons_of_ended ended
            obtain ⟨rfl, -⟩ := List.cons_prefix_cons.mp beyond
            have single : ∀ e ∈ linkEnds, '&' ∉ e.tail := by decide
            refine absurd ?_ (single _ listed)
            exact List.mem_append_right u List.mem_cons_self
    exact free e listed within.isInfix

theorem exists_beforeLinkEnd (text : List Char) : ∃ u after, text = u ++ after ∧
    beforeLinkEnd text = u ∧ Unended u ∧ (after = [] ∨ Ended after) := by
  induction text with
  | nil =>
    refine ⟨[], [], rfl, rfl, fun e listed inside => ?_, .inl rfl⟩
    have nonempty : ∀ e ∈ linkEnds, e ≠ [] := by decide
    exact nonempty e listed (List.infix_nil.mp inside)
  | cons c text ih =>
    obtain ⟨u, after, rfl, before, free, ends⟩ := ih
    by_cases ended : Ended (c :: (u ++ after))
    · refine ⟨[], c :: (u ++ after), rfl, beforeLinkEnd_of_ended ended, ?_, .inr ended⟩
      intro e listed inside
      exact free e listed (List.infix_nil.mp inside ▸ List.nil_infix)
    · have none_here : Unended (c :: u) := by
        intro e listed inside
        rcases List.infix_cons_iff.mp inside with begins | inside
        · exact ended ⟨e, listed, begins.trans (List.prefix_append (c :: u) after)⟩
        · exact free e listed inside
      exact ⟨c :: u, after, rfl, beforeLinkEnd_append none_here ends, none_here, ends⟩

theorem dropEndWhile_append {p : Char → Bool} (hmarks : ∀ c ∈ marks, p c = true)
    (last : ∀ c ∈ link.getLast?, p c = false) : Text.dropEndWhile p (link ++ marks) = link := by
  have kept : link.reverse.dropWhile p = link.reverse := by
    cases h : link.reverse with
    | nil => rfl
    | cons c rest =>
      have hc : p c = false := last c (by rw [List.getLast?_eq_head?_reverse, h]; rfl)
      exact List.dropWhile_cons_of_neg (by simp [hc])
  rw [Text.dropEndWhile, List.reverse_append,
    List.dropWhile_append_of_pos fun c hc => hmarks c (List.mem_reverse.mp hc), kept,
    List.reverse_reverse]

theorem exists_dropEndWhile (p : Char → Bool) (u : List Char) : ∃ link marks,
    u = link ++ marks ∧ (∀ c ∈ marks, p c = true) ∧ ∀ c ∈ link.getLast?, p c = false := by
  refine ⟨Text.dropEndWhile p u, (u.reverse.takeWhile p).reverse, ?_, ?_, ?_⟩
  · rw [Text.dropEndWhile, ← List.reverse_append, List.takeWhile_append_dropWhile,
      List.reverse_reverse]
  · intro c hc
    have all := List.all_takeWhile (p := p) (l := u.reverse)
    exact List.all_eq_true.mp all c (List.mem_reverse.mp hc)
  · intro c hc
    have stops := List.head?_dropWhile_not p u.reverse
    rw [Text.dropEndWhile, List.getLast?_reverse] at hc
    rw [Option.mem_def.mp hc] at stops
    simpa using stops

/-- The parts of a text that a link begins: the link, the marks that end the sentence, and what is
behind them. -/
structure BeginsLink (link marks after : List Char) : Prop where
  chars : ∀ c ∈ link ++ marks, isLinkChar c = true
  unended : Unended (link ++ marks)
  sentenceMarks : ∀ c ∈ marks, isSentenceMark c = true
  last : ∀ c ∈ link.getLast?, isSentenceMark c = false
  opens : ∃ head ∈ linkHeads, beginsWith head (link ++ marks) = true ∧
    (Stopped after → head.length < (link ++ marks).length)
  ends : Stopped after ∨ Ended after

theorem linkHead_apart_ampersand :
    ∀ head ∈ linkHeads, ∀ w ∈ head, sameLetter w '&' = false := by
  decide +kernel

theorem exists_beginsLink (h : linkLength? text = some n) : ∃ marks after,
    text = linkPart (text.take n) ++ (marks ++ after) ∧
      BeginsLink (linkPart (text.take n)) marks after := by
  obtain ⟨⟨head, listed, begins, longer⟩, -⟩ := linkLength?_eq_some_iff.mp h
  obtain ⟨u, a, hspan, before, free, ends⟩ := exists_beforeLinkEnd (linkSpan text)
  obtain ⟨link, marks, rfl, hmarks, last⟩ := exists_dropEndWhile isSentenceMark u
  have part : linkPart (text.take n) = link := by
    rw [take_of_linkLength? h, linkPart, before, dropEndWhile_append hmarks last]
  have whole : text = link ++ (marks ++ (a ++ text.dropWhile isLinkChar)) := by
    rw [← List.append_assoc, ← List.append_assoc, ← hspan, linkSpan_append_dropWhile]
  have chars : ∀ c ∈ link ++ marks, isLinkChar c = true := by
    intro c hc
    have inside : c ∈ linkSpan text := hspan ▸ List.mem_append_left a hc
    exact List.all_eq_true.mp List.all_takeWhile c inside
  have stopped := stopped_dropWhile text
  refine ⟨marks, a ++ text.dropWhile isLinkChar, part.symm ▸ whole, ?_⟩
  rw [part]
  rw [hspan] at begins longer
  refine ⟨chars, free, hmarks, last, ⟨head, listed, ?_⟩, ?_⟩
  · rcases ends with rfl | ended
    · rw [List.append_nil] at begins longer
      exact ⟨begins, fun _ => longer⟩
    · have beyond : Ended (a ++ text.dropWhile isLinkChar) := by
        obtain ⟨e, he, begins⟩ := ended
        exact ⟨e, he, begins.trans (List.prefix_append _ _)⟩
      obtain ⟨rest, rfl⟩ := exists_cons_of_ended ended
      refine ⟨beginsWith_of_append_cons (linkHead_apart_ampersand head listed) begins, ?_⟩
      exact fun stops => absurd stops (not_stopped_of_ended beyond)
  · rcases ends with rfl | ⟨e, he, begins⟩
    · exact .inl stopped
    · exact .inr ⟨e, he, begins.trans (List.prefix_append _ _)⟩

namespace BeginsLink

/-- What is behind the marks may change, as long as the link ends there in the same way. -/
theorem of_after {other : List Char} (h : BeginsLink link marks after)
    (same : Stopped after ∧ Stopped other ∨ Ended other) : BeginsLink link marks other := by
  obtain ⟨head, listed, begins, longer⟩ := h.opens
  rcases same with ⟨stopped, stopped'⟩ | ended
  · exact ⟨h.chars, h.unended, h.sentenceMarks, h.last, ⟨head, listed, begins, fun _ => longer stopped⟩,
      .inl stopped'⟩
  · exact ⟨h.chars, h.unended, h.sentenceMarks, h.last,
      ⟨head, listed, begins, fun stops => absurd stops (not_stopped_of_ended ended)⟩, .inr ended⟩

theorem linkSpan_eq (h : BeginsLink link marks after) :
    linkSpan (link ++ (marks ++ after)) = link ++ marks ++ linkSpan after := by
  rw [← List.append_assoc]
  exact List.takeWhile_append_of_pos h.chars

/-- The part behind the marks is empty or begins with an end. -/
theorem linkSpan_after (h : BeginsLink link marks after) :
    linkSpan after = [] ∧ Stopped after ∨ Ended (linkSpan after) := by
  rcases h.ends with stopped | ⟨e, listed, rest, rfl⟩
  · exact .inl ⟨linkSpan_append (u := []) stopped, stopped⟩
  · have inside : ∀ e ∈ linkEnds, ∀ c ∈ e, isLinkChar c = true := by decide
    refine .inr ⟨e, listed, linkSpan rest, ?_⟩
    exact (List.takeWhile_append_of_pos (inside e listed)).symm

theorem linkLength?_eq (h : BeginsLink link marks after) :
    linkLength? (link ++ (marks ++ after)) = some (link ++ marks ++ linkSpan after).length := by
  rw [linkLength?_eq_some_iff, h.linkSpan_eq]
  refine ⟨?_, rfl⟩
  obtain ⟨head, listed, begins, longer⟩ := h.opens
  refine ⟨head, listed, beginsWith_append begins _, ?_⟩
  rw [List.length_append]
  rcases h.linkSpan_after with ⟨-, stopped⟩ | ended
  · exact Nat.lt_add_right _ (longer stopped)
  · obtain ⟨rest, hrest⟩ := exists_cons_of_ended ended
    have fits := length_le_of_beginsWith begins
    rw [hrest, List.length_cons]
    omega

theorem linkPart_eq (h : BeginsLink link marks after) :
    linkPart (link ++ marks ++ linkSpan after) = link := by
  have ends : linkSpan after = [] ∨ Ended (linkSpan after) := h.linkSpan_after.imp_left And.left
  rw [linkPart, beforeLinkEnd_append h.unended ends, dropEndWhile_append h.sentenceMarks h.last]

theorem cutOff_eq (h : BeginsLink link marks after) :
    cutOff (link ++ marks ++ linkSpan after) = marks ++ linkSpan after := by
  rw [cutOff, h.linkPart_eq, List.append_assoc, List.drop_left]

theorem take_eq (h : BeginsLink link marks after) : (link ++ (marks ++ after)).take
    (link ++ marks ++ linkSpan after).length = link ++ marks ++ linkSpan after :=
  (take_of_linkLength? h.linkLength?_eq).trans h.linkSpan_eq

theorem drop_eq (h : BeginsLink link marks after) : (link ++ (marks ++ after)).drop
    (link ++ marks ++ linkSpan after).length = after.dropWhile isLinkChar := by
  rw [drop_of_linkLength? h.linkLength?_eq, ← List.append_assoc,
    List.dropWhile_append_of_pos h.chars]

/-- The rest of the part and what comes after the part are all that is behind the link. -/
theorem marks_append_after (marks after : List Char) :
    marks ++ after = marks ++ linkSpan after ++ after.dropWhile isLinkChar := by
  rw [List.append_assoc, linkSpan_append_dropWhile]

/-- Right behind the link the search goes on. -/
theorem findsLink_iff {other : List Char} (h : BeginsLink link marks after) :
    FindsLink false (link ++ (marks ++ after)) other ↔
      other = link ∨ FindsLink false (marks ++ after) other := by
  rw [findsLink_of_linkLength? h.linkLength?_eq, h.take_eq, h.drop_eq, h.linkPart_eq, h.cutOff_eq,
    marks_append_after marks after, findsLink_append (stopped_dropWhile after)]

theorem stripFrom_eq (h : BeginsLink link marks after) :
    (stripFrom hosts placeholder false (link ++ (marks ++ after))).1 =
      (if isAllowed hosts link then link else placeholder) ++
        (stripFrom hosts placeholder false (marks ++ after)).1 := by
  rw [stripFrom_of_linkLength? h.linkLength?_eq, h.take_eq, h.drop_eq, h.linkPart_eq, h.cutOff_eq,
    marks_append_after marks after, stripFrom_append (stopped_dropWhile after), List.append_assoc]

end BeginsLink

end Parley.Filter
