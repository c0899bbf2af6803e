import Parley.Proofs.Filter.Escaping
import Parley.Proofs.Filter.Leftover

/-!
# Banned words and entities

Banned words are looked for in the escaped message, not in the message as it was typed. Without
the five characters that escaping replaces, the two are the same. Otherwise a word may stand in
the name of an entity that nobody typed, or be torn apart by one. A word without the characters
that begin and end an entity lies either within a name or outside of all entities, so it is found
exactly where it was typed or where a name holds it.

Each escaped text reads back as the text that was typed, whatever entities were typed in it: an
escaped text has an ampersand only where an entity begins, so the reading never goes out of step.
Messages that are no violation are passed on escaped and otherwise as they were. So they can be
read back too, and no two of them look the same.
-/

namespace Parley

namespace Markup

variable {text entity : List Char} {c : Char}

theorem entity?_eq_none_iff : entity? c = none ↔ c ∉ '&' :: delimiters := by
  constructor
  · intro h listed
    rcases List.mem_cons.mp listed with rfl | listed
    · exact absurd h (by decide)
    · exact entity?_eq_none h listed
  · intro unlisted
    simp only [delimiters, List.mem_cons, List.not_mem_nil, or_false, not_or] at unlisted
    obtain ⟨ampersand, less, greater, quote, apostrophe⟩ := unlisted
    unfold entity?
    split <;> first | rfl | contradiction

/-- An entity is a name between an ampersand and a semicolon. -/
theorem exists_name (h : entity? c = some entity) : ∃ name, entity = '&' :: (name ++ [';']) := by
  unfold entity? at h
  split at h
  case h_1 => exact ⟨"amp".toList, (Option.some.inj h).symm⟩
  case h_2 => exact ⟨"lt".toList, (Option.some.inj h).symm⟩
  case h_3 => exact ⟨"gt".toList, (Option.some.inj h).symm⟩
  case h_4 => exact ⟨"quot".toList, (Option.some.inj h).symm⟩
  case h_5 => exact ⟨"#39".toList, (Option.some.inj h).symm⟩
  case h_6 => exact absurd h (Option.some_ne_none entity).symm

theorem escape_cons_of_none (h : entity? c = none) (text : List Char) :
    escape (c :: text) = c :: escape text := by
  rw [escape, h]
  rfl

theorem escape_cons_of_some {name : List Char} (h : entity? c = some ('&' :: (name ++ [';'])))
    (text : List Char) : escape (c :: text) = '&' :: (name ++ ';' :: escape text) := by
  rw [escape, h, Option.getD_some, List.cons_append, List.append_assoc]
  rfl

/-- A text without the characters that escaping replaces stays as it is. -/
theorem escape_eq_self (plain : ∀ c ∈ text, c ∉ '&' :: delimiters) : escape text = text := by
  induction text with
  | nil => rfl
  | cons c text ih =>
    obtain ⟨hc, plain⟩ := List.forall_mem_cons.mp plain
    rw [escape_cons_of_none (entity?_eq_none_iff.mpr hc), ih plain]

/-- Without an ampersand no entity begins. -/
theorem unescape_cons (h : c ≠ '&') (text : List Char) :
    unescape (c :: text) = c :: unescape text := by
  rw [unescape]
  all_goals
    intro rest ampersand
    exact absurd ampersand h

/-- The entity that is written for a character reads as that character, whatever is behind it. -/
theorem unescape_append (h : entity? c = some entity) (text : List Char) :
    unescape (entity ++ text) = c :: unescape text := by
  unfold entity? at h
  split at h
  case h_6 => exact absurd h (Option.some_ne_none entity).symm
  all_goals
    obtain rfl := Option.some.inj h
    rfl

theorem unescape_escape (text : List Char) : unescape (escape text) = text := by
  induction text with
  | nil => rfl
  | cons c text ih =>
    cases written : entity? c with
    | some entity => rw [escape, written, Option.getD_some, unescape_append written, ih]
    | none =>
      have plain : c ≠ '&' := by
        intro ampersand
        exact entity?_eq_none_iff.mp written (List.mem_cons.mpr (.inl ampersand))
      rw [escape_cons_of_none written, unescape_cons plain, ih]

theorem escape_injective : Function.Injective escape :=
  Function.LeftInverse.injective unescape_escape

end Markup

namespace Filter

open Letter (sameLetter)

variable {word text name : List Char} {c d w : Char}

/-- The characters that begin or end an entity, and those that do not stand in an escaped text. -/
def brackets : List Char := '&' :: ';' :: Markup.delimiters

theorem eq_of_sameLetter_bracket (hd : d ∈ brackets) (h : sameLetter c d = true) : c = d := by
  have signs : ∀ d ∈ brackets, d.toNat < 128 ∧ d.isAlpha = false := by decide
  exact Letter.eq_of_sameLetter_of_not_isAlpha (signs d hd).1 (signs d hd).2 h

theorem apart_of_mem_brackets (plain : ∀ w ∈ word, w ∉ brackets) (hd : d ∈ brackets) :
    ∀ w ∈ word, sameLetter w d = false := by
  intro w hw
  cases same : sameLetter w d with
  | false => rfl
  | true =>
    obtain rfl := eq_of_sameLetter_bracket hd same
    exact absurd hd (plain w hw)

theorem mem_brackets_of_entity {entity : List Char} (h : Markup.entity? c = some entity) :
    c ∈ brackets := by
  by_contra outside
  have none_here : Markup.entity? c = none :=
    Markup.entity?_eq_none_iff.mpr fun listed => outside (by
      rcases List.mem_cons.mp listed with rfl | listed
      · exact List.mem_cons_self
      · exact List.mem_cons_of_mem _ (List.mem_cons_of_mem _ listed))
  exact absurd (none_here.symm.trans h) (Option.some_ne_none entity).symm

/-- A word without brackets begins an escaped text when it begins the text. -/
theorem beginsWith_escape (plain : ∀ w ∈ word, w ∉ brackets) (text : List Char) :
    beginsWith word (Markup.escape text) = beginsWith word text := by
  induction word generalizing text with
  | nil => rw [beginsWith.eq_1, beginsWith.eq_1]
  | cons w word ih =>
    have apart : ∀ d ∈ brackets, sameLetter w d = false := fun d hd =>
      apart_of_mem_brackets plain hd w List.mem_cons_self
    cases text with
    | nil => rfl
    | cons c text =>
      cases entity : Markup.entity? c with
      | none =>
        rw [Markup.escape_cons_of_none entity, beginsWith, beginsWith,
          ih (fun v hv => plain v (List.mem_cons_of_mem w hv))]
      | some written =>
        obtain ⟨name, rfl⟩ := Markup.exists_name entity
        rw [Markup.escape_cons_of_some entity, beginsWith, beginsWith, apart '&' (by decide),
          apart c (mem_brackets_of_entity entity), Bool.false_and, Bool.false_and]

/-- The word stands in the name of the entity that is written for the character. -/
def NamesEntity (word : List Char) (c : Char) : Prop :=
  ∃ name, Markup.entity? c = some ('&' :: (name ++ [';'])) ∧ Occurs word name

theorem namesEntity_iff (h : Markup.entity? c = some ('&' :: (name ++ [';']))) :
    NamesEntity word c ↔ Occurs word name := by
  constructor
  · rintro ⟨other, same, occurs⟩
    have equal := Option.some.inj (h.symm.trans same)
    rw [List.cons.injEq, List.append_cancel_right_eq] at equal
    exact equal.2 ▸ occurs
  · exact fun occurs => ⟨name, h, occurs⟩

theorem not_namesEntity (h : Markup.entity? c = none) : ¬ NamesEntity word c := by
  rintro ⟨name, written, -⟩
  exact absurd (h.symm.trans written) (Option.some_ne_none _).symm

theorem occurs_escape_iff (hword : word ≠ []) (plain : ∀ w ∈ word, w ∉ brackets) :
    Occurs word (Markup.escape text) ↔ Occurs word text ∨ ∃ c ∈ text, NamesEntity word c := by
  induction text with
  | nil => simp [Markup.escape, not_occurs_nil hword]
  | cons c text ih =>
    rw [List.exists_mem_cons_iff]
    cases entity : Markup.entity? c with
    | none =>
      have begins := beginsWith_escape plain (c :: text)
      rw [Markup.escape_cons_of_none entity] at begins ⊢
      rw [occurs_cons, occurs_cons, begins, ih, or_iff_right (not_namesEntity entity), or_assoc]
    | some written =>
      obtain ⟨name, rfl⟩ := Markup.exists_name entity
      have apart : ∀ d ∈ brackets, ∀ w ∈ word, sameLetter w d = false := fun d hd =>
        apart_of_mem_brackets plain hd
      rw [Markup.escape_cons_of_some entity, occurs_cons_of_apart hword (apart '&' (by decide)),
        occurs_append_cons hword (apart ';' (by decide)), ih, namesEntity_iff entity,
        occurs_cons_of_apart hword (apart c (mem_brackets_of_entity entity)), or_left_comm]

/-- No word with a delimiter of markup occurs in an escaped text. -/
theorem not_occurs_escape (hd : d ∈ word) (delimiter : d ∈ Markup.delimiters) :
    ¬ Occurs word (Markup.escape text) := by
  intro occurs
  obtain ⟨c, hc, same⟩ := exists_mem_of_occurs occurs hd
  have swapped : sameLetter c d = true :=
    Letter.sameLetter_iff.mpr (Letter.sameLetter_iff.mp same).symm
  have bracket : d ∈ brackets := List.mem_cons_of_mem _ (List.mem_cons_of_mem _ delimiter)
  obtain rfl := eq_of_sameLetter_bracket bracket swapped
  exact Markup.not_mem_delimiters_of_mem_escape hc delimiter

/-- Whether the first step of the filter finds a banned word in a message. -/
def findsWord (filter : Filter) (message : List Char) : Bool :=
  (maskWords filter.words (Markup.escape message)).2

theorem violation_of_findsWord {filter : Filter} {message : String}
    (found : filter.findsWord message.toList = true) : (filter.apply message).violation = true := by
  have word : (maskWords filter.words (Markup.escape message.toList)).2 = true := found
  have violation : (filter.apply message).violation = (filter.applyChars message.toList).2 := rfl
  rw [violation]
  simp only [applyChars, word, Bool.true_or]

/-- For every configuration and message: the first step of the filter finds a banned word exactly
when a configured word occurs in the escaped message, and then the message is a violation. The
escaped message is the message itself if it holds no ampersand and no delimiter of markup. In
general a word without those and without a semicolon occurs in the escaped message exactly when
it occurs in the message, or in the name of an entity that is written for one of its characters,
and a word with a delimiter occurs in no escaped message. -/
theorem findsWord_iff (bannedWords whitelist : List String) (placeholder message : String) :
    let filter := Filter.configure bannedWords whitelist placeholder
    let typed := message.toList
    let escaped := Markup.escape typed
    (filter.findsWord typed = true ↔ ∃ word, Configured bannedWords word ∧ Occurs word escaped) ∧
    (filter.findsWord typed = true → (filter.apply message).violation = true) ∧
    ((∀ c ∈ typed, c ∉ '&' :: Markup.delimiters) → escaped = typed) ∧
    (∀ word, Configured bannedWords word → (∀ c ∈ word, c ∉ '&' :: ';' :: Markup.delimiters) →
      (Occurs word escaped ↔ Occurs word typed ∨ ∃ c ∈ typed, NamesEntity word c)) ∧
    ∀ word, (∃ c ∈ word, c ∈ Markup.delimiters) → ¬ Occurs word escaped := by
  intro filter typed escaped
  refine ⟨?_, violation_of_findsWord, Markup.escape_eq_self, ?_, ?_⟩
  · have nonempty : ∀ word ∈ filter.words, word ≠ [] := fun word listed =>
      (mem_wordList_iff_configured.mp listed).1
    rw [findsWord, maskWords_hit_iff nonempty]
    exact exists_congr fun word => and_congr_left' mem_wordList_iff_configured
  · exact fun word configured plain => occurs_escape_iff configured.1 plain
  · exact fun word ⟨d, hd, delimiter⟩ => not_occurs_escape hd delimiter

/-- The name of an entity that nobody typed holds a banned word, and a word that was typed is torn
apart by an entity. -/
theorem findsWord_of_entity :
    let banned := ["amp", "<3"]
    let filter := Filter.configure banned [] "[link removed]"
    (filter.findsWord "a & b".toList = true ∧
      ¬ ∃ word, Configured banned word ∧ Occurs word "a & b".toList) ∧
    filter.findsWord "I <3 u".toList = false ∧
      ∃ word, Configured banned word ∧ Occurs word "I <3 u".toList := by
  intro banned filter
  have listed : wordList banned = ["amp".toList, "<3".toList] :=
    List.mergeSort_of_pairwise (by decide)
  have absent : ∀ word ∈ trimmed banned, ¬ Occurs word "a & b".toList := by decide
  have typed : ∃ word ∈ trimmed banned, Occurs word "I <3 u".toList := by decide
  simp only [mem_trimmed_iff_configured] at absent typed
  refine ⟨⟨?_, ?_⟩, ?_, typed⟩
  · simp only [findsWord, filter, configure, listed]
    decide
  · rintro ⟨word, configured, occurs⟩
    exact absent word configured occurs
  · simp only [findsWord, filter, configure, listed]
    decide

theorem content_of_no_violation {filter : Filter} {message : String}
    (clean : (filter.apply message).violation = false) :
    (filter.apply message).content.toList = Markup.escape message.toList := by
  have kept := applyChars_of_silent (applyChars_violation_iff.mp clean)
  rw [apply, String.toList_ofList]
  exact kept

/-- Every escaped text reads back as the text, so different texts are escaped differently. For all
filters and messages that are no violation: what is passed on reads back as the message, and
different messages are passed on as different texts. -/
theorem unescape_content :
    (∀ text, Markup.unescape (Markup.escape text) = text) ∧
    Function.Injective Markup.escape ∧
    ∀ (filter : Filter) (message : String), (filter.apply message).violation = false →
      Markup.unescape (filter.apply message).content.toList = message.toList ∧
      ∀ (another : Filter) (other : String), (another.apply other).violation = false →
        message ≠ other → (filter.apply message).content ≠ (another.apply other).content := by
  refine ⟨Markup.unescape_escape, Markup.escape_injective, ?_⟩
  intro filter message clean
  refine ⟨?_, ?_⟩
  · rw [content_of_no_violation clean, Markup.unescape_escape]
  · intro another other cleanToo different same
    have escaped : Markup.escape message.toList = Markup.escape other.toList := by
      rw [← content_of_no_violation clean, same, content_of_no_violation cleanToo]
    exact different (String.toList_injective (Markup.escape_injective escaped))

/-- A bracket and the entity of a bracket, both as they are typed. -/
theorem unescape_content_typed_entity :
    let filter := Filter.configure ["spam"] [] defaultPlaceholder
    (filter.apply "a<b").violation = false ∧ (filter.apply "a&lt;b").violation = false ∧
      Markup.unescape (filter.apply "a&lt;b").content.toList = "a&lt;b".toList ∧
      (filter.apply "a&lt;b").content ≠ (filter.apply "a<b").content := by
  intro filter
  have listed : wordList ["spam"] = ["spam".toList] := List.mergeSort_of_pairwise (by decide)
  have clean : ∀ message ∈ ["a<b", "a&lt;b"], (filter.apply message).violation = false := by
    simp only [filter, configure, listed]
    decide +kernel
  have bracket : (filter.apply "a<b").violation = false := clean _ List.mem_cons_self
  have entity : (filter.apply "a&lt;b").violation = false :=
    clean _ (List.mem_cons_of_mem _ List.mem_cons_self)
  obtain ⟨-, -, passedOn⟩ := unescape_content
  obtain ⟨readBack, apart⟩ := passedOn filter "a&lt;b" entity
  exact ⟨bracket, entity, readBack, apart filter "a<b" bracket (by decide)⟩

end Filter

end Parley
