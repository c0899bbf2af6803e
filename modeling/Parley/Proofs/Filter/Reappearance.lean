import Parley.Proofs.Filter.Lowering
import Parley.Proofs.Filter.Violation

/-!
# Banned words that come back

Masking leaves no banned word in a text, but three steps rewrite the text after it. A word of ASCII
letters does not come back when links are replaced by a bracketed placeholder, nor when runs are
shrunk: what the new text begins with at some place, the text before began with at that place, or
the placeholder holds it.

Lowering can bring a word back in one way only. A dotted capital I agrees with no ASCII letter, but
its small form begins with an `i`, and that `i` may complete a word.
-/

namespace Parley.Filter

open Letter (sameLetter isCapital isWordChar lower lowerOne dottedCapitalI)

variable {word out text placeholder : List Char} {c d w : Char}

/-- A word of ASCII letters. -/
def Lettered (word : List Char) : Prop := ∀ c ∈ word, c.isAlpha = true

instance (word : List Char) : Decidable (Lettered word) :=
  inferInstanceAs (Decidable (∀ c ∈ word, _))

/-- Characters that agree with no ASCII letter: those that masking, replacing and shrinking write,
the dotted capital I, and the dot that it leaves. -/
def marks : List Char := ['*', '[', ']', '.', dottedCapitalI, '\u0307']

theorem Lettered.tail (h : Lettered (w :: word)) : Lettered word :=
  fun c hc => h c (List.mem_cons_of_mem w hc)

theorem not_sameLetter_mark (h : w.isAlpha = true) :
    ∀ d ∈ marks, sameLetter w d = false := by
  have all : ∀ n < 128, (Char.ofNat n).isAlpha = true →
      ∀ d ∈ marks, sameLetter (Char.ofNat n) d = false := by
    decide
  exact Letter.forall_ascii (p := fun w => w.isAlpha = true → ∀ d ∈ marks, sameLetter w d = false)
    all (Letter.toNat_lt_of_isAlpha h) h

/-- Only the empty word begins a text that a mark begins. -/
theorem eq_nil_of_beginsWith_mark (letters : Lettered word) (hd : d ∈ marks)
    (h : beginsWith word (d :: text) = true) : word = [] := by
  cases word with
  | nil => rfl
  | cons w word =>
    rw [beginsWith, not_sameLetter_mark (letters w List.mem_cons_self) d hd] at h
    exact absurd h Bool.false_ne_true

theorem occurs_mark_cons (letters : Lettered word) (hword : word ≠ []) (hd : d ∈ marks) :
    Occurs word (d :: text) ↔ Occurs word text :=
  occurs_cons_of_apart hword fun w hw => not_sameLetter_mark (letters w hw) d hd

theorem occurs_append_mark (letters : Lettered word) (hword : word ≠ []) (hd : d ∈ marks)
    (begun : List Char) :
    Occurs word (begun ++ d :: text) ↔ Occurs word begun ∨ Occurs word text :=
  occurs_append_cons hword (fun w hw => not_sameLetter_mark (letters w hw) d hd) begun

/-- A text rewritten so that it begins with no other words of letters than before, and that a given
word occurs in it only where it occurred before. -/
structure Keeps (word out text : List Char) : Prop where
  beginning : ∀ begun, Lettered begun → beginsWith begun out = true → beginsWith begun text = true
  occurring : Occurs word out → Occurs word text

namespace Keeps

theorem refl (word text : List Char) : Keeps word text text :=
  ⟨fun _ _ begins => begins, fun occurs => occurs⟩

/-- A character in front is kept. -/
theorem cons (h : Keeps word out text) (letters : Lettered word) (c : Char) :
    Keeps word (c :: out) (c :: text) := by
  have beginning : ∀ begun, Lettered begun → beginsWith begun (c :: out) = true →
      beginsWith begun (c :: text) = true := by
    intro begun hbegun begins
    cases begun with
    | nil => rfl
    | cons b begun =>
      simp only [beginsWith, Bool.and_eq_true] at begins ⊢
      exact ⟨begins.1, h.beginning begun hbegun.tail begins.2⟩
  refine ⟨beginning, fun occurs => occurs_cons.mpr ?_⟩
  rcases occurs_cons.mp occurs with begins | occurs
  · exact .inl (beginning word letters begins)
  · exact .inr (h.occurring occurs)

theorem append (h : Keeps word out text) (letters : Lettered word) (before : List Char) :
    Keeps word (before ++ out) (before ++ text) := by
  induction before with
  | nil => exact h
  | cons c before ih => exact ih.cons letters c

/-- Behind a mark only the occurrences count. -/
theorem mark (letters : Lettered word) (hword : word ≠ []) (hd : d ∈ marks)
    (h : Occurs word out → Occurs word text) : Keeps word (d :: out) text := by
  refine ⟨fun begun hbegun begins => ?_, fun occurs => ?_⟩
  · rw [eq_nil_of_beginsWith_mark hbegun hd begins]
    exact beginsWith.eq_1 text
  · exact h ((occurs_mark_cons letters hword hd).mp occurs)

end Keeps

/-- A placeholder in brackets in which a word does not occur. -/
structure Bracketed (word placeholder : List Char) : Prop where
  opens : placeholder.head? = some '['
  closes : placeholder.getLast? = some ']'
  clean : ¬ Occurs word placeholder

instance (word placeholder : List Char) : Decidable (Bracketed word placeholder) :=
  decidable_of_iff (placeholder.head? = some '[' ∧ placeholder.getLast? = some ']' ∧
      ¬ Occurs word placeholder)
    ⟨fun h => ⟨h.1, h.2.1, h.2.2⟩, fun h => ⟨h.opens, h.closes, h.clean⟩⟩

/-- The placeholder may stand for any text: a word that occurs from there on occurs behind it. -/
theorem Bracketed.keeps (h : Bracketed word placeholder) (letters : Lettered word)
    (hword : word ≠ []) (rest : Occurs word out → Occurs word text) :
    Keeps word (placeholder ++ out) text := by
  obtain ⟨opens, closes, clean⟩ := h
  obtain ⟨inner, rfl⟩ := List.getLast?_eq_some_iff.mp closes
  cases inner with
  | nil => exact absurd opens (by decide)
  | cons c inner =>
    obtain rfl : c = '[' := Option.some.inj opens
    rw [List.cons_append, List.cons_append, List.append_assoc]
    refine Keeps.mark letters hword (by decide) fun occurs => ?_
    rcases (occurs_append_mark letters hword (by decide) inner).mp occurs with occurs | occurs
    · exact absurd (occurs_append_left (occurs_cons.mpr (.inr occurs)) [']']) clean
    · exact rest occurs

/-- Stripping links keeps the words of a text, whatever keeps those of the text behind it. -/
theorem keeps_stripFrom (letters : Lettered word) (hword : word ≠ [])
    (bracketed : Bracketed word placeholder) {hosts : List (List Char)} {afterWord : Bool}
    {before : List Char} (h : Keeps word out text) :
    Keeps word ((stripFrom hosts placeholder afterWord before).1 ++ out) (before ++ text) := by
  induction afterWord, before using search_induction generalizing out text with
  | nil afterWord => simpa [stripFrom] using h
  | cons afterWord c before skips ih =>
    rw [stripFrom_cons skips]
    exact (ih h).cons letters c
  | link before n hlength ihCut ihBehind =>
    have cut := ihCut (ihBehind h)
    have split : before ++ text =
        linkPart (before.take n) ++ (cutOff (before.take n) ++ (before.drop n ++ text)) := by
      rw [← List.append_assoc, ← List.append_assoc, List.append_assoc (linkPart _),
        linkPart_append_cutOff_append_drop]
    rw [stripFrom_of_linkLength? hlength, split]
    simp only [List.append_assoc]
    cases allowed : isAllowed hosts (linkPart (before.take n)) with
    | true => exact cut.append letters _
    | false =>
      refine bracketed.keeps letters hword fun occurs => ?_
      exact occurs_append_right (cut.occurring occurs) _

/-- A shrunk run begins with its character, and no word reaches beyond the dot behind it. -/
theorem keeps_collapseRun (letters : Lettered word) (hword : word ≠ []) (run : Char × Nat)
    (h : Keeps word out text) :
    Keeps word (collapseRun run ++ out) (List.replicate run.2 run.1 ++ text) := by
  obtain ⟨c, n⟩ := run
  by_cases long : 5 ≤ n
  · obtain ⟨n, rfl⟩ : ∃ m, n = m + 1 := ⟨n - 1, by omega⟩
    have shrunk : collapseRun (c, n + 1) = [c, '.', '.', '.'] := if_pos long
    have dot : '.' ∈ marks := by decide
    rw [shrunk, List.replicate_succ, List.cons_append, List.cons_append]
    refine Keeps.cons (Keeps.mark letters hword dot fun occurs => ?_) letters c
    have occurs := (occurs_mark_cons letters hword dot).mp occurs
    have occurs := (occurs_mark_cons letters hword dot).mp occurs
    exact occurs_append_right (h.occurring occurs) _
  · have kept : collapseRun (c, n) = List.replicate n c := if_neg long
    rw [kept]
    exact h.append letters _

theorem keeps_collapseRuns (letters : Lettered word) (hword : word ≠ []) (text : List Char) :
    Keeps word (collapseRuns text).1 text := by
  have spelled : ∀ runs, Keeps word (runs.flatMap collapseRun) (spellRuns runs) := by
    intro runs
    induction runs with
    | nil => exact Keeps.refl word []
    | cons run runs ih => exact keeps_collapseRun letters hword run ih
  have all := spelled (runs text)
  rwa [spellRuns_runs] at all

variable {count : Nat}

/-- The text begins with the word up to its last letter, which is an `i`, and there it has a dotted
capital I in a shout. Before the text stand `count` capitals. -/
def EndsInDot (count : Nat) (word text : List Char) : Prop :=
  ∃ stem i begun after, word = stem ++ [i] ∧ text = begun ++ dottedCapitalI :: after ∧
    List.Forall₂ (fun w c => sameLetter w c = true) stem begun ∧ sameLetter i 'i' = true ∧
    10 ≤ capitalsBehind count begun + leadingCapitals (dottedCapitalI :: after)

/-- Somewhere in the text the last letter of the word is missing, and lowering writes it. -/
def CompletedByDot (count : Nat) (word text : List Char) : Prop :=
  ∃ before place, text = before ++ place ∧ EndsInDot (capitalsBehind count before) word place

theorem not_endsInDot_nil_text : ¬ EndsInDot count word [] := by
  rintro ⟨stem, i, begun, after, -, htext, -⟩
  exact absurd htext (by simp)

theorem endsInDot_cons : EndsInDot count (w :: word) (c :: text) ↔
    (word = [] ∧ sameLetter w 'i' = true ∧ c = dottedCapitalI ∧
      10 ≤ count + leadingCapitals (c :: text)) ∨
    sameLetter w c = true ∧ EndsInDot (if isCapital c then count + 1 else 0) word text := by
  constructor
  · rintro ⟨stem, i, begun, after, hword, htext, agree, hi, loud⟩
    cases agree with
    | nil =>
      obtain ⟨rfl, rfl⟩ := List.cons.inj hword
      obtain ⟨rfl, rfl⟩ := List.cons.inj htext
      exact .inl ⟨rfl, hi, rfl, loud⟩
    | cons same agree =>
      obtain ⟨rfl, rfl⟩ := List.cons.inj hword
      obtain ⟨rfl, rfl⟩ := List.cons.inj htext
      exact .inr ⟨same, _, i, _, after, rfl, rfl, agree, hi, loud⟩
  · rintro (⟨rfl, hi, rfl, loud⟩ | ⟨same, stem, i, begun, after, rfl, rfl, agree, hi, loud⟩)
    · exact ⟨[], w, [], text, rfl, rfl, .nil, hi, loud⟩
    · exact ⟨w :: stem, i, c :: begun, after, rfl, rfl, .cons same agree, hi, loud⟩

theorem completedByDot_cons : CompletedByDot count word (c :: text) ↔
    EndsInDot count word (c :: text) ∨
      CompletedByDot (if isCapital c then count + 1 else 0) word text := by
  constructor
  · rintro ⟨before, place, htext, ends⟩
    cases before with
    | nil => exact .inl (htext ▸ ends)
    | cons b before =>
      obtain ⟨rfl, rfl⟩ := List.cons.inj htext
      exact .inr ⟨before, place, rfl, ends⟩
  · rintro (ends | ⟨before, place, rfl, ends⟩)
    · exact ⟨[], c :: text, rfl, ends⟩
    · exact ⟨c :: before, place, rfl, ends⟩

theorem sameLetter_finalSigma (hw : w.toNat < 128) : sameLetter w 'ς' = sameLetter w 'Σ' :=
  Letter.forall_ascii (p := fun w => sameLetter w 'ς' = sameLetter w 'Σ') (by decide +kernel) hw

/-- A shouted dotted capital I becomes two characters. Any other character becomes, or stays, one
that agrees with the same ASCII characters. -/
theorem lowered_cases (count : Nat) (c : Char) (text : List Char) :
    (c = dottedCapitalI ∧ 10 ≤ count + leadingCapitals (c :: text) ∧
      lowered count c text = ['i', '\u0307']) ∨
    (¬ (c = dottedCapitalI ∧ 10 ≤ count + leadingCapitals (c :: text)) ∧
      ∃ d, lowered count c text = [d] ∧
        ∀ w : Char, w.toNat < 128 → sameLetter w d = sameLetter w c) := by
  have dotted : isCapital dottedCapitalI = true := by decide
  by_cases loud : isCapital c ∧ 10 ≤ count + leadingCapitals (c :: text)
  · rw [lowered, if_pos loud, smallForm]
    by_cases final : c = 'Σ' ∧ leadingCapitals text = 0
    · obtain ⟨rfl, last⟩ := final
      refine .inr ⟨fun h => absurd h.1 (by decide), 'ς', if_pos ⟨rfl, last⟩, fun w hw => ?_⟩
      exact sameLetter_finalSigma hw
    · rw [if_neg final]
      by_cases hc : c = dottedCapitalI
      · subst hc
        exact .inl ⟨rfl, loud.2, rfl⟩
      · refine .inr ⟨fun h => hc h.1, lowerOne c, if_neg hc, fun w hw => ?_⟩
        exact Letter.sameLetter_lowerOne hw loud.1
  · rw [lowered, if_neg loud]
    refine .inr ⟨?_, c, rfl, fun w _ => rfl⟩
    rintro ⟨rfl, long⟩
    exact loud ⟨dotted, long⟩

theorem beginsWith_lowerBehind (letters : Lettered word) :
    beginsWith word (lowerBehind count text) = true ↔
      beginsWith word text = true ∨ EndsInDot count word text := by
  induction text generalizing word count with
  | nil => exact (or_iff_left not_endsInDot_nil_text).symm
  | cons c text ih =>
    cases word with
    | nil => exact iff_of_true (beginsWith.eq_1 _) (.inl (beginsWith.eq_1 _))
    | cons w word =>
      have hw : w.isAlpha = true := letters w List.mem_cons_self
      rw [lowerBehind, endsInDot_cons]
      rcases lowered_cases count c text with ⟨rfl, loud, two⟩ | ⟨quiet, d, one, same⟩
      · have no_letter := not_sameLetter_mark hw dottedCapitalI (by decide)
        rw [two]
        simp only [List.cons_append, List.nil_append, beginsWith, no_letter, Bool.false_and,
          Bool.false_eq_true, false_and, or_false, false_or, Bool.and_eq_true, loud, and_true]
        constructor
        · rintro ⟨hi, begins⟩
          exact ⟨eq_nil_of_beginsWith_mark letters.tail (by decide) begins, hi⟩
        · rintro ⟨rfl, hi⟩
          exact ⟨hi, beginsWith.eq_1 _⟩
      · rw [one, List.singleton_append]
        simp only [beginsWith, Bool.and_eq_true, ih letters.tail, same w (Letter.toNat_lt_of_isAlpha hw)]
        rw [and_or_left]
        refine or_congr_right (or_iff_right ?_).symm
        rintro ⟨-, -, dotted⟩
        exact quiet dotted

theorem occurs_lowerBehind (letters : Lettered word) (hword : word ≠ []) :
    Occurs word (lowerBehind count text) ↔
      Occurs word text ∨ CompletedByDot count word text := by
  induction text generalizing count with
  | nil =>
    refine (or_iff_left ?_).symm
    rintro ⟨before, place, htext, ends⟩
    obtain ⟨rfl, rfl⟩ := List.append_eq_nil_iff.mp htext.symm
    exact not_endsInDot_nil_text ends
  | cons c text ih =>
    have here : beginsWith word (lowerBehind count (c :: text)) = true ↔
        beginsWith word (c :: text) = true ∨ EndsInDot count word (c :: text) :=
      beginsWith_lowerBehind letters
    rw [lowerBehind] at here ⊢
    rw [completedByDot_cons, occurs_cons, or_or_or_comm, ← here, ← ih]
    rcases lowered_cases count c text with ⟨-, -, two⟩ | ⟨-, d, one, -⟩
    · rw [two, List.cons_append, occurs_cons, List.singleton_append,
        occurs_mark_cons letters hword (by decide)]
    · rw [one, List.singleton_append, occurs_cons]

theorem lettered_of_mem_wordList {configured : List String}
    (letters : ∀ w ∈ configured, Lettered w.toList) (listed : word ∈ wordList configured) :
    Lettered word := by
  obtain ⟨-, w, hw, rfl⟩ := mem_wordList_iff_configured.mp listed
  exact fun c hc => letters w hw c (mem_of_mem_trim hc)

/-- For every list of banned words made of ASCII letters, every placeholder in brackets in which
none of them occurs, and every message: a banned word occurs in the filtered text exactly where
lowering completes it. -/
theorem occurs_content_iff (bannedWords whitelist : List String) (placeholder message : String)
    (letters : ∀ w ∈ bannedWords, Lettered w.toList)
    (bracketed : ∀ word ∈ wordList bannedWords, Bracketed word placeholder.toList) :
    let filter := Filter.configure bannedWords whitelist placeholder
    ∀ word ∈ filter.words, (Occurs word (filter.apply message).content.toList ↔
      CompletedByDot 0 word (filter.collapsedText message.toList)) := by
  intro filter word listed
  have hletters : Lettered word := lettered_of_mem_wordList letters listed
  have hword : word ≠ [] := (mem_wordList_iff_configured.mp listed).1
  have masked : ¬ Occurs word (filter.maskedText message.toList) :=
    not_occurs_maskWords (fun c hc => not_sameLetter_mark (hletters c hc) '*' (by decide)) hword
      listed
  have delinked : ¬ Occurs word (filter.delinkedText message.toList) := by
    have kept : Keeps word (filter.delinkedText message.toList ++ [])
        (filter.maskedText message.toList ++ []) :=
      keeps_stripFrom hletters hword (bracketed word listed) (Keeps.refl word [])
    simp only [List.append_nil] at kept
    exact fun occurs => masked (kept.occurring occurs)
  have collapsed : ¬ Occurs word (filter.collapsedText message.toList) := fun occurs =>
    delinked ((keeps_collapseRuns hletters hword _).occurring occurs)
  rw [apply_content, lowerShouts_eq_lowerBehind, occurs_lowerBehind hletters hword]
  exact or_iff_right collapsed

/-- Lowering completes the word `ski` with the first character of a small dotted I. -/
theorem occurs_content_of_dotted_capital :
    (∀ w ∈ ["ski"], Lettered w.toList) ∧
      (∀ word ∈ wordList ["ski"], Bracketed word "[link removed]".toList) ∧
      ∃ word ∈ wordList ["ski"], Occurs word
        ((Filter.configure ["ski"] [] "[link removed]").apply "ABCDEFGSK\u0130").content.toList := by
  decide +kernel

theorem occurs_content_iff_ski :
    let filter := Filter.configure ["ski"] [] "[link removed]"
    (∀ w ∈ ["ski"], Lettered w.toList) ∧
      (∀ word ∈ wordList ["ski"], Bracketed word "[link removed]".toList) ∧
      ∀ word ∈ filter.words, (Occurs word (filter.apply "ABCDEFGSK\u0130").content.toList ↔
        CompletedByDot 0 word (filter.collapsedText "ABCDEFGSK\u0130".toList)) := by
  have letters : ∀ w ∈ ["ski"], Lettered w.toList := by decide
  have bracketed : ∀ word ∈ wordList ["ski"], Bracketed word "[link removed]".toList := by
    decide +kernel
  exact ⟨letters, bracketed, occurs_content_iff _ [] _ _ letters bracketed⟩

end Parley.Filter
