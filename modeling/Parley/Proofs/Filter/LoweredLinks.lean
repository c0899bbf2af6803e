import Parley.Proofs.Filter.Delinking
import Parley.Proofs.Filter.Lowering

/-!
# Links of a lowered text

Lowering neither makes nor breaks a link: the links of a lowered text are the links of the text,
each written as lowering writes it. The heads of links and the escaped quotes and brackets are too
short to be part of a shout, and marks and blanks are no letters. What lowering writes are word
characters, so it does not move the places where a link may begin either.
-/

namespace Parley.Filter

open Letter (isCapital isWordChar sameLetter)

variable {text word out u after link marks other e : List Char} {afterWord : Bool} {c x : Char}
  {count : Nat}

/-- The code points of blanks. -/
def blanks : List Nat :=
  [9, 10, 11, 12, 13, 0x20, 0x85, 0xA0, 0x1680, 0x2000, 0x2001, 0x2002, 0x2003, 0x2004, 0x2005,
   0x2006, 0x2007, 0x2008, 0x2009, 0x200A, 0x2028, 0x2029, 0x202F, 0x205F, 0x3000]

theorem mem_blanks_of_isBlank (h : Text.isBlank c = true) : c.toNat ∈ blanks := by
  simp only [Text.isBlank, Bool.or_eq_true, Bool.and_eq_true, decide_eq_true_eq, beq_iff_eq] at h
  simp only [blanks, List.mem_cons, List.not_mem_nil, or_false]
  omega

theorem not_isWordChar_of_mem_blanks (h : c.toNat ∈ blanks) : isWordChar c = false := by
  have all : ∀ n ∈ blanks, isWordChar (Char.ofNat n) = false := by decide +kernel
  have := all c.toNat h
  rwa [Char.ofNat_toNat] at this

theorem isLinkChar_of_isWordChar (h : isWordChar c = true) : isLinkChar c = true := by
  cases hc : isLinkChar c with
  | true => rfl
  | false =>
    simp only [isLinkChar, Bool.not_eq_false', Bool.or_eq_true, beq_iff_eq] at hc
    have noWord : isWordChar c = false := by
      rcases hc with (((blank | rfl) | rfl) | rfl) | rfl
      · exact not_isWordChar_of_mem_blanks (mem_blanks_of_isBlank blank)
      all_goals decide
    exact absurd (noWord.symm.trans h) Bool.false_ne_true

theorem isCapital_of_not_isLinkChar (h : isLinkChar c = false) : isCapital c = false := by
  cases hc : isCapital c with
  | false => rfl
  | true =>
    have inside := isLinkChar_of_isWordChar (Letter.isWordChar_of_isCapital hc)
    exact absurd (h.symm.trans inside) Bool.false_ne_true

theorem not_isWordChar_of_isSentenceMark (h : isSentenceMark c = true) : isWordChar c = false := by
  simp only [isSentenceMark, Bool.or_eq_true, beq_iff_eq] at h
  rcases h with (((((rfl | rfl) | rfl) | rfl) | rfl) | rfl) | rfl <;> decide

/-- Every character of a lowered text stood in the text, or is a word character. -/
theorem mem_lowerBehind (h : c ∈ lowerBehind count text) : c ∈ text ∨ isWordChar c = true := by
  induction text generalizing count with
  | nil => exact absurd h List.not_mem_nil
  | cons d text ih =>
    rw [lowerBehind] at h
    rcases List.mem_append.mp h with here | behind
    · cases hd : isCapital d with
      | true => exact .inr (isWordChar_of_mem_lowered hd here)
      | false =>
        rw [lowered_of_other hd] at here
        exact .inl (List.mem_singleton.mp here ▸ List.mem_cons_self)
    · exact (ih behind).imp_left (List.mem_cons_of_mem d)

theorem stopped_lowerBehind (stopped : Stopped text) : Stopped (lowerBehind 0 text) := by
  cases text with
  | nil => exact stopped
  | cons c text =>
    have hc : isCapital c = false := isCapital_of_not_isLinkChar (stopped c rfl)
    rw [lowerBehind, lowered_of_other hc]
    exact stopped

theorem stopped_of_lowerBehind (stopped : Stopped (lowerBehind 0 text)) : Stopped text := by
  cases text with
  | nil => exact stopped
  | cons c text =>
    cases hc : isCapital c with
    | false =>
      rw [lowerBehind, lowered_of_other hc] at stopped
      exact stopped
    | true =>
      obtain ⟨d, rest, written⟩ := List.exists_cons_of_ne_nil (lowered_ne_nil 0 c text)
      have hd : isWordChar d = true := isWordChar_of_mem_lowered hc (written ▸ List.mem_cons_self)
      rw [lowerBehind, written] at stopped
      have outside := stopped d rfl
      exact absurd (outside.symm.trans (isLinkChar_of_isWordChar hd)) Bool.false_ne_true

theorem exists_of_beginsWith_concat {stem : List Char} {w : Char}
    (h : beginsWith (stem ++ [w]) text = true) : ∃ p x rest, text = p ++ x :: rest ∧
      p.length = stem.length ∧ sameLetter w x = true ∧ beginsWith (stem ++ [w]) (p ++ [x]) = true := by
  induction stem generalizing text with
  | nil =>
    cases text with
    | nil => exact absurd h Bool.false_ne_true
    | cons x rest =>
      simp only [List.nil_append, beginsWith, Bool.and_true] at h
      exact ⟨[], x, rest, rfl, rfl, h, by simp [beginsWith, h]⟩
  | cons v stem ih =>
    cases text with
    | nil => exact absurd h Bool.false_ne_true
    | cons c text =>
      simp only [List.cons_append, beginsWith, Bool.and_eq_true] at h
      obtain ⟨p, x, rest, rfl, length, same, begins⟩ := ih h.2
      refine ⟨c :: p, x, rest, rfl, congrArg (· + 1) length, same, ?_⟩
      simp only [List.cons_append, beginsWith, Bool.and_eq_true]
      exact ⟨h.1, begins⟩

theorem linkHead_parts {head : List Char} (listed : head ∈ linkHeads) :
    ∃ stem w, head = stem ++ [w] ∧ stem.length < 10 ∧ (w = '/' ∨ w = '.') := by
  simp only [linkHeads, List.mem_cons, List.not_mem_nil, or_false] at listed
  rcases listed with rfl | rfl | rfl
  · exact ⟨"https:/".toList, '/', by decide, by decide, .inl rfl⟩
  · exact ⟨"http:/".toList, '/', by decide, by decide, .inl rfl⟩
  · exact ⟨"www".toList, '.', by decide, by decide, .inr rfl⟩

theorem not_isWordChar_of_sameLetter {w : Char} (hw : w = '/' ∨ w = '.')
    (h : sameLetter w x = true) : isWordChar x = false := by
  have ascii : ∀ n < 128, ∀ w ∈ ['/', '.'], sameLetter w (Char.ofNat n) = true →
      isWordChar (Char.ofNat n) = false := by
    decide
  have listed : w ∈ ['/', '.'] := by simpa using hw
  have apart : ∀ w ∈ ['/', '.'], w.toNat < 128 ∧ sameLetter w Letter.longS = false ∧
      sameLetter w Letter.kelvinSign = false := by
    decide
  obtain ⟨small, notLong, notKelvin⟩ := apart w listed
  rcases Letter.ascii_of_sameLetter small h with hx | rfl | rfl
  · exact Letter.forall_ascii (p := fun x => ∀ w ∈ ['/', '.'], sameLetter w x = true →
      isWordChar x = false) ascii hx w listed h
  · exact absurd (notLong.symm.trans h) Bool.false_ne_true
  · exact absurd (notKelvin.symm.trans h) Bool.false_ne_true

/-- A link head is short and ends with a character that lowering does not write. -/
theorem exists_of_beginsWith_head {head : List Char} (listed : head ∈ linkHeads)
    (h : beginsWith head text = true) : ∃ p x rest, text = p ++ x :: rest ∧
      p.length + 1 = head.length ∧ p.length < 10 ∧ isWordChar x = false ∧
      beginsWith head (p ++ [x]) = true := by
  obtain ⟨stem, w, rfl, short, hw⟩ := linkHead_parts listed
  obtain ⟨p, x, rest, rfl, length, same, begins⟩ := exists_of_beginsWith_concat h
  refine ⟨p, x, rest, rfl, ?_, ?_, not_isWordChar_of_sameLetter hw same, begins⟩
  · rw [length, List.length_append, List.length_singleton]
  · rw [length]
    exact short

theorem linkEnd_parts (listed : e ∈ linkEnds) : ∃ p, e = '&' :: (p ++ [';']) ∧ p.length < 9 := by
  simp only [linkEnds, List.mem_cons, List.not_mem_nil, or_false] at listed
  rcases listed with rfl | rfl | rfl | rfl
  · exact ⟨"quot".toList, by decide, by decide⟩
  · exact ⟨"#39".toList, by decide, by decide⟩
  · exact ⟨"lt".toList, by decide, by decide⟩
  · exact ⟨"gt".toList, by decide, by decide⟩

theorem lowerBehind_linkEnd (listed : e ∈ linkEnds) (rest : List Char) :
    lowerBehind 0 (e ++ rest) = e ++ lowerBehind 0 rest := by
  have others : ∀ e ∈ linkEnds, ∀ c ∈ e, isCapital c = false := by decide
  exact lowerBehind_of_others (others e listed) rest

theorem ended_lowerBehind (ended : Ended text) : Ended (lowerBehind 0 text) := by
  obtain ⟨e, listed, rest, rfl⟩ := ended
  rw [lowerBehind_linkEnd listed]
  exact ⟨e, listed, List.prefix_append _ _⟩

/-- Lowering makes no end: between its ampersand and its semicolon there are few characters. -/
theorem unended_lowerBehind (free : Unended u) : Unended (lowerBehind count u) := by
  rintro e listed ⟨before, behind, split⟩
  obtain ⟨p, rfl, short⟩ := linkEnd_parts listed
  have ampersand : isWordChar '&' = false := by decide
  have semicolon : isWordChar ';' = false := by decide
  rw [List.append_assoc, List.cons_append] at split
  obtain ⟨q, more, rfl, hmore⟩ := exists_of_lowerBehind_eq split.symm ampersand
  rw [List.append_assoc, List.singleton_append] at hmore
  obtain ⟨rest, rfl, -⟩ := of_lowerBehind_eq hmore.symm semicolon (by omega)
  refine free _ listed ⟨q, rest, ?_⟩
  simp only [List.append_assoc, List.cons_append, List.nil_append]

theorem drop_append_cons {head p : List Char} (length : p.length + 1 = head.length)
    (rest : List Char) : (p ++ x :: rest).drop head.length = rest := by
  have same : head.length = (p ++ [x]).length := by
    rw [← length, List.length_append, List.length_singleton]
  rw [same, List.append_cons p x rest, List.drop_left]

/-- Lowering makes no link at the begin of a text. -/
theorem linkLength?_lowerBehind (h : linkLength? text = none) :
    linkLength? (lowerBehind 0 text) = none := by
  rw [linkLength?_eq_none_iff, opens_linkSpan_iff] at h ⊢
  rintro ⟨head, listed, begins, goes_on⟩
  obtain ⟨p, x, rest, split, length, short, hx, begins_p⟩ :=
    exists_of_beginsWith_head listed begins
  obtain ⟨more, rfl, rfl⟩ := of_lowerBehind_eq split hx (by omega)
  rw [split, drop_append_cons length] at goes_on
  refine h ⟨head, listed, ?_, ?_⟩
  · rw [List.append_cons]
    exact beginsWith_append begins_p more
  · rw [drop_append_cons length]
    exact fun stopped => goes_on (stopped_lowerBehind stopped)

/-- A link head is kept, and so is whether something follows it. -/
theorem beginsWith_head_lowerBehind {head : List Char} (listed : head ∈ linkHeads)
    (h : beginsWith head u = true) : beginsWith head (lowerBehind 0 u) = true ∧
      (head.length < u.length → head.length < (lowerBehind 0 u).length) := by
  obtain ⟨p, x, rest, rfl, length, short, hx, begins⟩ := exists_of_beginsWith_head listed h
  rw [lowerBehind_append_cons (isCapital_of_not_isWordChar hx) (by omega)]
  constructor
  · rw [List.append_cons]
    exact beginsWith_append begins _
  · intro longer
    rw [List.length_append, List.length_cons] at longer ⊢
    have goes_on : rest ≠ [] := List.length_pos_iff.mp (by omega)
    have kept := List.length_pos_iff.mpr (lowerBehind_ne_nil 0 goes_on)
    omega

namespace BeginsLink

theorem not_isCapital_of_mem_marks (h : BeginsLink link marks after) :
    ∀ c ∈ marks, isCapital c = false := fun c hc =>
  isCapital_of_not_isWordChar (not_isWordChar_of_isSentenceMark (h.sentenceMarks c hc))

theorem lowerBehind_link_marks (h : BeginsLink link marks after) :
    lowerBehind 0 (link ++ marks) = lowerBehind 0 link ++ marks := by
  have others := h.not_isCapital_of_mem_marks
  have alone : Filter.lowerBehind 0 (marks ++ []) = marks ++ [] := lowerBehind_of_others others []
  rw [List.append_nil] at alone
  rw [lowerBehind_append fun c hc => others c (List.mem_of_mem_head? hc), alone]

/-- The link is lowered by itself: no capital stands right behind it. -/
theorem lowerBehind_eq (h : BeginsLink link marks after) :
    lowerBehind 0 (link ++ (marks ++ after)) =
      lowerBehind 0 link ++ lowerBehind 0 (marks ++ after) := by
  refine lowerBehind_append fun c hc => ?_
  cases marks with
  | cons m marks =>
    rw [← Option.some.inj hc]
    exact h.not_isCapital_of_mem_marks m List.mem_cons_self
  | nil =>
    rcases h.ends with stopped | ended
    · exact isCapital_of_not_isLinkChar (stopped c hc)
    · obtain ⟨rest, rfl⟩ := exists_cons_of_ended ended
      rw [← Option.some.inj hc]
      decide

/-- A link that begins a text stays one, with the same marks behind it. -/
theorem lowered (h : BeginsLink link marks after) :
    BeginsLink (lowerBehind 0 link) marks (lowerBehind 0 after) := by
  refine ⟨?_, ?_, h.sentenceMarks, ?_, ?_, h.ends.imp stopped_lowerBehind ended_lowerBehind⟩
  · intro c hc
    rw [← h.lowerBehind_link_marks] at hc
    rcases mem_lowerBehind hc with hc | word
    · exact h.chars c hc
    · exact isLinkChar_of_isWordChar word
  · rw [← h.lowerBehind_link_marks]
    exact unended_lowerBehind h.unended
  · intro c hc
    cases mark : isSentenceMark c with
    | false => rfl
    | true =>
      obtain ⟨before, split⟩ := List.getLast?_eq_some_iff.mp hc
      obtain ⟨q, more, rfl, nothing⟩ :=
        exists_of_lowerBehind_eq split (not_isWordChar_of_isSentenceMark mark)
      obtain rfl : more = [] := by
        by_contra goes_on
        exact lowerBehind_ne_nil 0 goes_on nothing.symm
      exact mark.symm.trans (h.last c (by rw [List.getLast?_append]; rfl))
  · obtain ⟨head, listed, begins, longer⟩ := h.opens
    obtain ⟨begins', longer'⟩ := beginsWith_head_lowerBehind listed begins
    rw [h.lowerBehind_link_marks] at begins' longer'
    exact ⟨head, listed, begins', fun stopped => longer' (longer (stopped_of_lowerBehind stopped))⟩

end BeginsLink

/-- Behind a word character no link begins, so word characters are passed over. -/
theorem findsLink_word_append {written : List Char} (nonempty : written ≠ [])
    (word : ∀ c ∈ written, isWordChar c = true)
    (skips : afterWord = true ∨ linkLength? (written ++ text) = none) :
    FindsLink afterWord (written ++ text) link ↔ FindsLink true text link := by
  induction written generalizing afterWord with
  | nil => exact absurd rfl nonempty
  | cons c written ih =>
    rw [List.cons_append] at skips ⊢
    rw [findsLink_cons skips, word c List.mem_cons_self]
    cases written with
    | nil => rfl
    | cons d written =>
      exact ih (List.cons_ne_nil d written) (fun e he => word e (List.mem_cons_of_mem c he))
        (.inl rfl)

/-- The links of a lowered text are those of the text, lowered. -/
theorem findsLink_lowerBehind (start : afterWord = false → count = 0) :
    FindsLink afterWord (lowerBehind count text) other ↔
      ∃ link, FindsLink afterWord text link ∧ lowerBehind 0 link = other := by
  induction afterWord, text using link_induction generalizing count other with
  | nil afterWord =>
    refine iff_of_false not_findsLink_nil ?_
    rintro ⟨link, found, -⟩
    exact not_findsLink_nil found
  | cons afterWord c text skips ih =>
    have skips_lowered : afterWord = true ∨ linkLength? (lowerBehind count (c :: text)) = none := by
      cases afterWord with
      | true => exact .inl rfl
      | false =>
        rw [start rfl]
        exact .inr (linkLength?_lowerBehind (skips.resolve_left Bool.false_ne_true))
    rw [lowerBehind] at skips_lowered ⊢
    simp only [findsLink_cons skips]
    rcases Bool.eq_false_or_eq_true (isCapital c) with hc | hc
    · have hword : isWordChar c = true := Letter.isWordChar_of_isCapital hc
      rw [hword] at ih ⊢
      rw [findsLink_word_append (lowered_ne_nil count c text)
        (fun d hd => isWordChar_of_mem_lowered hc hd) skips_lowered]
      exact ih fun h => absurd h.symm Bool.false_ne_true
    · rw [lowered_of_other hc, hc, if_neg Bool.false_ne_true, List.singleton_append]
        at skips_lowered ⊢
      rw [findsLink_cons skips_lowered]
      exact ih fun _ => rfl
  | link link marks after begins ih =>
    rw [start rfl, begins.lowerBehind_eq, lowerBehind_of_others begins.not_isCapital_of_mem_marks,
      begins.lowered.findsLink_iff, ← lowerBehind_of_others begins.not_isCapital_of_mem_marks,
      ih fun _ => rfl]
    simp only [begins.findsLink_iff]
    constructor
    · rintro (rfl | ⟨found, hfound, rfl⟩)
      · exact ⟨link, .inl rfl, rfl⟩
      · exact ⟨found, .inr hfound, rfl⟩
    · rintro ⟨found, rfl | hfound, rfl⟩
      · exact .inl rfl
      · exact .inr ⟨found, hfound, rfl⟩

end Parley.Filter
