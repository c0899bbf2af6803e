import Mathlib.Tactic.SplitIfs
import Parley.Json.Parser
import Parley.Json.Printer

/-!
# Reading what was printed

A text in quotes reads as itself. A whole number reads as itself when it fits 64 bits, and how any
of them reads does not depend on what follows it. So a flat object, whose members are texts and
whole numbers, reads as its members, put in order one by one.
-/

namespace Parley.Json

open Text (isDigit natOfDigits hexDigit)

theorem text?_escape {c e : Char} (h : simpleEscape? c = some e) (done rest : List Char) :
    text? done ('\\' :: c :: rest) = text? (e :: done) rest := by
  rw [text?]
  · rw [h]
  · rintro _ _ _ _ _ rfl
    cases h

theorem text?_control {code : Nat} (below : code < 32) (done rest : List Char) :
    text? done ('\\' :: 'u' :: '0' :: '0' :: hexDigit (code / 16) :: hexDigit (code % 16) :: rest) =
      text? (Char.ofNat code :: done) rest := by
  have unit : hexUnit? '0' '0' (hexDigit (code / 16)) (hexDigit (code % 16)) = some code := by
    revert code
    decide
  have small : code < 0xD800 ∨ 0xDFFF < code := .inl (Nat.lt_trans below (by decide))
  rw [text?, unit]
  simp only [if_pos small]

theorem text?_plain {c : Char} (quote : c ≠ '"') (slash : c ≠ '\\') (high : ¬ c.toNat < 32)
    (done rest : List Char) : text? done (c :: rest) = text? (c :: done) rest := by
  rw [text?]
  · rw [if_neg (not_or.mpr ⟨high, slash⟩)]
  · exact quote
  · exact fun _ _ _ _ _ same => absurd same slash
  · exact fun _ _ same => absurd same slash

/-- A character in quotes reads as itself. -/
theorem text?_quoteChar (c : Char) (done rest : List Char) :
    text? done (quoteChar c ++ rest) = text? (c :: done) rest := by
  rw [quoteChar]
  split_ifs with _ _ _ _ _ _ _ low
  any_goals
    subst c
    exact text?_escape rfl done rest
  · exact (text?_control low done rest).trans (by rw [Char.ofNat_toNat])
  · exact text?_plain ‹_› ‹_› low done rest

theorem text?_quoted (text : List Char) (done rest : List Char) :
    text? done (text.flatMap quoteChar ++ '"' :: rest) =
      some (String.ofList (done.reverse ++ text), rest) := by
  induction text generalizing done with
  | nil => rw [List.flatMap_nil, List.nil_append, text?, List.append_nil]
  | cons c text ih =>
    rw [List.flatMap_cons, List.append_assoc, text?_quoteChar, ih, List.reverse_cons,
      List.append_assoc, List.singleton_append]

theorem text?_quote (text : String) (rest : List Char) :
    text? [] ((quote text).tail ++ rest) = some (text, rest) := by
  rw [quote, List.tail_cons, List.append_assoc, List.singleton_append, text?_quoted,
    List.reverse_nil, List.nil_append, String.ofList_toList]

/-- What ends a number: nothing follows, or a comma or a bracket does. -/
def Stops (rest : List Char) : Prop := ∀ c ∈ rest.head?, c = ',' ∨ c = ']' ∨ c = '\x7d'

/-- The number that digits read as, whatever follows them. -/
def ofDigits? (negative : Bool) (whole : List Char) : Option Number :=
  if whole.head? = some '0' ∧ 1 < whole.length then none
  else if (if negative then 0 < natOfDigits whole ∧ Word.isInt64 (-natOfDigits whole)
      else natOfDigits whole < Word.size64) then
    some (.integer (if negative then -(natOfDigits whole : Int) else natOfDigits whole))
  else (fractionNumber? negative whole [] 0)

theorem isDigit_of_stops {rest : List Char} (stops : Stops rest) :
    (rest.head?.map isDigit).getD false = false := by
  cases rest with
  | nil => rfl
  | cons c rest =>
    rcases stops c rfl with rfl | rfl | rfl <;> rfl

theorem digits_append {whole rest : List Char} (all : ∀ c ∈ whole, isDigit c) (stops : Stops rest) :
    digits (whole ++ rest) = (whole, rest) := by
  have ends : rest.takeWhile isDigit = [] ∧ rest.dropWhile isDigit = rest := by
    cases rest with
    | nil => exact ⟨rfl, rfl⟩
    | cons c rest =>
      have other := isDigit_of_stops stops
      exact ⟨List.takeWhile_cons_of_neg (by simpa using other),
        List.dropWhile_cons_of_neg (by simpa using other)⟩
  rw [digits, List.takeWhile_append_of_pos all, List.dropWhile_append_of_pos all, ends.1, ends.2,
    List.append_nil]

/-- How a text that stops goes on. -/
theorem Stops.cases {rest : List Char} (stops : Stops rest) :
    rest = [] ∨ ∃ c after, rest = c :: after ∧ (c = ',' ∨ c = ']' ∨ c = '\x7d') := by
  cases rest with
  | nil => exact .inl rfl
  | cons c after => exact .inr ⟨c, after, rfl, stops c rfl⟩

theorem map_ite_eq {c : Prop} [Decidable c] (value : Number) (other : Option Number)
    (rest : List Char) :
    (if c then some (value, rest) else other.bind fun n => some (n, rest)) =
      (if c then some value else other).map (·, rest) := by
  split
  · rfl
  · cases other <;> rfl

theorem number?_append (negative : Bool) {whole rest : List Char} (some_digit : whole ≠ [])
    (all : ∀ c ∈ whole, isDigit c) (stops : Stops rest) :
    number? negative (whole ++ rest) = (ofDigits? negative whole).map (·, rest) := by
  obtain ⟨d, ds, rfl⟩ := List.exists_cons_of_ne_nil some_digit
  by_cases zero : d = '0'
  · subst zero
    cases ds with
    | nil =>
      rw [List.singleton_append, number?, isDigit_of_stops stops]
      rcases stops.cases with rfl | ⟨c, after, rfl, rfl | rfl | rfl⟩ <;>
        simpa [ofDigits?] using map_ite_eq _ _ _
    | cons e ds =>
      have digit : isDigit e := all e (by simp)
      simp [number?, digit, ofDigits?]
  · have lead : ∀ after, d :: ds ++ rest ≠ '0' :: after :=
      fun after same => zero (List.cons.inj same).1
    rw [number?]
    · rw [digits_append all stops]
      rcases stops.cases with rfl | ⟨c, after, rfl, rfl | rfl | rfl⟩ <;>
        simpa [ofDigits?, zero] using map_ite_eq _ _ _
    · exact lead

/-- The number that the decimal digits of an integer read as. -/
def numberOf? (i : Int) : Option Number := ofDigits? (i < 0) (Nat.toDigits 10 i.natAbs)

theorem isDigit_of_mem_toDigits {n : Nat} : ∀ c ∈ Nat.toDigits 10 n, isDigit c := by
  intro c listed
  have digit := Nat.isDigit_of_mem_toDigits (by decide) (by decide) listed
  rw [Char.isDigit, Bool.and_eq_true, decide_eq_true_eq, decide_eq_true_eq] at digit
  exact Bool.and_eq_true_iff.mpr ⟨decide_eq_true digit.1, decide_eq_true digit.2⟩

theorem natOfDigits_toDigits (n : Nat) : natOfDigits (Nat.toDigits 10 n) = n :=
  Nat.ofDigitChars_ten_toDigits

/-- Only zero is written with a zero in front. -/
theorem head?_toDigits {n : Nat} (positive : 0 < n) : (Nat.toDigits 10 n).head? ≠ some '0' := by
  induction n using Nat.strongRecOn with
  | ind n ih =>
    rw [Nat.toDigits_eq_if (by decide)]
    split
    · next below =>
      rw [List.head?_cons, ne_eq, Option.some.injEq, Nat.digitChar_eq_zero]
      omega
    · next above =>
      have shorter := ih (n / 10) (by omega) (by omega)
      obtain ⟨d, ds, same⟩ := List.exists_cons_of_ne_nil
        (Nat.toDigits_ne_nil (n := n / 10) (b := 10))
      rw [same] at shorter ⊢
      exact shorter

/-- An integer of 64 bits, signed or unsigned, reads as itself. -/
theorem numberOf?_of_word {i : Int} (fits : Word.isInt64 i ∨ Word.isNat64 i) :
    numberOf? i = some (.integer i) := by
  have single : ¬((Nat.toDigits 10 i.natAbs).head? = some '0' ∧
      1 < (Nat.toDigits 10 i.natAbs).length) := by
    rintro ⟨zero, long⟩
    rcases Nat.eq_zero_or_pos i.natAbs with none | positive
    · rw [none] at long
      exact absurd long (by decide)
    · exact head?_toDigits positive zero
  have value : (if (decide (i < 0)) then -(i.natAbs : Int) else i.natAbs) = i := by
    rcases Int.lt_or_le i 0 with negative | positive
    · rw [decide_eq_true negative, if_pos rfl]
      omega
    · rw [decide_eq_false (Int.not_lt.mpr positive), if_neg Bool.false_ne_true]
      omega
  rw [numberOf?, ofDigits?, if_neg single, natOfDigits_toDigits, if_pos]
  · exact congrArg (some ∘ Number.integer) value
  · simp only [Word.isInt64, Word.isNat64, Bool.and_eq_true, decide_eq_true_eq, Word.size64] at fits ⊢
    split <;> omega

theorem print_ofInt (i : Int) : print (ofInt i) =
    if i < 0 then '-' :: Nat.toDigits 10 i.natAbs else Nat.toDigits 10 i.natAbs := by
  rw [ofInt, print, printNumber, Int.toString_eq_repr, Int.repr_eq_if]
  rcases Int.lt_or_le i 0 with negative | positive
  · rw [if_neg (Int.not_le.mpr negative), if_pos negative, String.toList_append, Nat.toList_repr,
      show (-i).toNat = i.natAbs by omega]
    rfl
  · rw [if_pos positive, if_neg (Int.not_lt.mpr positive), Nat.toList_repr,
      show i.toNat = i.natAbs by omega]

theorem value?_digit {c : Char} (digit : isDigit c) (depth : Nat) (text : List Char) :
    value? depth (c :: text) = (number? false (c :: text)).map fun (n, r) => (.number n, r) := by
  have other : ∀ sign rest, isDigit sign = false → c :: text ≠ sign :: rest := by
    rintro sign rest none same
    obtain rfl := (List.cons.inj same).1
    exact absurd digit (by rw [none]; exact Bool.false_ne_true)
  rw [value?] <;> exact fun _ => other _ _ rfl

theorem value?_ofInt (i : Int) (depth : Nat) {rest : List Char} (stops : Stops rest) :
    value? depth (print (ofInt i) ++ rest) = (numberOf? i).map fun n => (.number n, rest) := by
  have read := fun negative => number?_append negative (Nat.toDigits_ne_nil (n := i.natAbs))
    isDigit_of_mem_toDigits stops
  rw [print_ofInt, numberOf?]
  split
  · next negative =>
    rw [decide_eq_true negative, List.cons_append, value?, read, Option.map_map]
    rfl
  · next positive =>
    obtain ⟨d, ds, same⟩ := List.exists_cons_of_ne_nil
      (Nat.toDigits_ne_nil (n := i.natAbs) (b := 10))
    have digit : isDigit d := isDigit_of_mem_toDigits (n := i.natAbs) d (by rw [same]; simp)
    have lead := value?_digit digit depth (ds ++ rest)
    rw [← List.cons_append, ← same, read, Option.map_map] at lead
    rw [decide_eq_false positive, lead]
    rfl

/-- A text or a whole number. -/
def IsFlat : Json → Prop
  | .string _ | .number (.integer _) => True
  | _ => False

/-- What a text or a whole number reads as. -/
def reread? : Json → Option Json
  | .string s => some (.string s)
  | .number (.integer i) => (numberOf? i).map .number
  | _ => none

theorem value?_print {value : Json} (flat : value.IsFlat) (depth : Nat) {rest : List Char}
    (stops : Stops rest) :
    value? depth (print value ++ rest) = (reread? value).map (·, rest) := by
  match value, flat with
  | .string s, _ =>
    have read := text?_quote s rest
    rw [quote, List.tail_cons] at read
    rw [print, quote, List.cons_append, value?, read]
    rfl
  | .number (.integer i), _ =>
    refine (value?_ofInt i depth stops).trans ?_
    rw [reread?, Option.map_map]
    rfl

/-- The members that flat members read as, put in order one by one. -/
def rereadMembers? (done : Members) : Members → Option Members
  | [] => some done
  | (name, value) :: rest => do rereadMembers? (done.insert name (← reread? value)) rest

theorem skipSpace_of_head {c : Char} (other : isSpace c = false) (text : List Char) :
    skipSpace (c :: text) = c :: text :=
  List.dropWhile_cons_of_neg (by rw [other]; exact Bool.false_ne_true)

theorem isSpace_of_isDigit {c : Char} (digit : isDigit c) : isSpace c = false := by
  rw [isDigit, Bool.and_eq_true, decide_eq_true_eq, decide_eq_true_eq] at digit
  simp only [isSpace, Bool.or_eq_false_iff, beq_eq_false_iff_ne, ne_eq]
  refine ⟨⟨⟨?_, ?_⟩, ?_⟩, ?_⟩ <;> rintro rfl <;> exact absurd digit.1 (by decide)

/-- A whole number begins with a sign or a digit. -/
theorem print_ofInt_eq_cons (i : Int) :
    ∃ c text, print (ofInt i) = c :: text ∧ (c = '-' ∨ isDigit c = true) := by
  rw [print_ofInt]
  split
  · exact ⟨_, _, rfl, .inl rfl⟩
  · obtain ⟨d, ds, same⟩ := List.exists_cons_of_ne_nil
      (Nat.toDigits_ne_nil (n := i.natAbs) (b := 10))
    exact ⟨d, ds, same, .inr (isDigit_of_mem_toDigits (n := i.natAbs) d (by rw [same]; simp))⟩

theorem skipSpace_print {value : Json} (flat : value.IsFlat) (rest : List Char) :
    skipSpace (print value ++ rest) = print value ++ rest := by
  match value, flat with
  | .string s, _ => exact skipSpace_of_head rfl _
  | .number (.integer i), _ =>
    obtain ⟨c, text, same, start⟩ := print_ofInt_eq_cons i
    have other : isSpace c = false := by
      rcases start with rfl | digit
      · rfl
      · exact isSpace_of_isDigit digit
    rw [show print (.number (.integer i)) = c :: text from same]
    exact skipSpace_of_head other _

/-- A member reads as its name and what its value reads as, and then comes what follows it. -/
theorem members?_member (name : String) {value : Json} {read? : Option Json}
    {item? : List Char → Option (Json × List Char)} {rest : List Char}
    (skips : skipSpace (print value ++ rest) = print value ++ rest)
    (reads : item? (print value ++ rest) = read?.map (·, rest)) (bound : Nat) (done : Members) :
    members? item? done (bound + 1) (quote name ++ ':' :: (print value ++ rest)) =
      read?.bind fun read =>
        match skipSpace rest with
        | ',' :: rest => members? item? (done.insert name read) bound rest
        | '\x7d' :: rest => some (done.insert name read, rest)
        | _ => none := by
  have opens : skipSpace (quote name ++ ':' :: (print value ++ rest)) =
      '"' :: ((quote name).tail ++ ':' :: (print value ++ rest)) := skipSpace_of_head rfl _
  have parts : skipSpace (':' :: (print value ++ rest)) = ':' :: (print value ++ rest) :=
    skipSpace_of_head rfl _
  rw [members?, opens]
  simp only [bind, text?_quote, Option.bind_some, parts, skips, reads]
  cases read? <;> rfl

theorem members?_print {members : Members} (some_member : members ≠ [])
    (flat : ∀ m ∈ members, m.2.IsFlat) (depth : Nat) (rest : List Char) {bound : Nat}
    (within : members.length ≤ bound) (done : Members) :
    members? (value? depth) done bound (printMembers members ++ '\x7d' :: rest) =
      (rereadMembers? done members).map (·, rest) := by
  induction members generalizing bound done with
  | nil => exact absurd rfl some_member
  | cons m members ih =>
    obtain ⟨name, value⟩ := m
    obtain ⟨here, later⟩ := List.forall_mem_cons.mp flat
    rw [List.length_cons] at within
    obtain ⟨bound, rfl⟩ : ∃ n, bound = n + 1 := ⟨bound - 1, by omega⟩
    rw [rereadMembers?]
    cases members with
    | nil =>
      have stops : Stops ('\x7d' :: rest) := fun c same => .inr (.inr (Option.some.inj same).symm)
      rw [printMembers, List.append_assoc, List.cons_append,
        members?_member name (skipSpace_print here _) (value?_print here depth stops)]
      cases reread? value <;> rfl
    | cons next members =>
      have stops : Stops (',' :: (printMembers (next :: members) ++ '\x7d' :: rest)) :=
        fun c same => .inl (Option.some.inj same).symm
      have goes := ih (List.cons_ne_nil _ _) later (Nat.le_of_succ_le_succ within)
      rw [printMembers, List.append_assoc, List.cons_append, List.append_assoc, List.cons_append,
        members?_member name (skipSpace_print here _) (value?_print here depth stops)]
      · cases reread? value with
        | none => rfl
        | some read => exact goes (done.insert name read)
      · exact List.cons_ne_nil _ _

theorem length_le_printMembers (members : Members) :
    members.length ≤ (printMembers members).length := by
  induction members with
  | nil => exact Nat.zero_le _
  | cons m members ih =>
    obtain ⟨name, value⟩ := m
    cases members with
    | nil => simp [printMembers, quote]
    | cons next members =>
      simp only [printMembers, List.length_append, List.length_cons] at ih ⊢
      omega

/-- A printed flat object reads as its members, put in order one by one. -/
theorem parse?_render {members : Members} (some_member : members ≠ [])
    (flat : ∀ m ∈ members, m.2.IsFlat) :
    parse? (object members).render = (rereadMembers? [] members).map .object := by
  obtain ⟨⟨name, value⟩, rest, rfl⟩ := List.exists_cons_of_ne_nil some_member
  have printed : ∃ text, printMembers ((name, value) :: rest) ++ ['\x7d'] = '"' :: text := by
    cases rest <;> exact ⟨_, rfl⟩
  obtain ⟨text, same⟩ := printed
  have opens : skipSpace ('\x7b' :: '"' :: text) = '\x7b' :: '"' :: text :=
    skipSpace_of_head rfl _
  have inner : skipSpace ('"' :: text) = '"' :: text := skipSpace_of_head rfl _
  have long : ((name, value) :: rest).length ≤ ('"' :: text).length := by
    rw [← same, List.length_append]
    exact Nat.le_trans (length_le_printMembers _) (Nat.le_add_right _ _)
  have read := members?_print some_member flat 126 [] long []
  rw [same] at read
  have opened : value? (126 + 1) ('\x7b' :: '"' :: text) =
      (members? (value? 126) [] ('"' :: text).length ('"' :: text)).map
        fun read => (.object read.1, read.2) := by
    rw [value?]
    simp only [inner]
    rfl
  rw [parse?, render, print, String.toList_ofList, same, parseWithin?, opens, maxDepth, opened, read]
  cases rereadMembers? [] ((name, value) :: rest) <;> rfl

theorem Members.find?_insert (members : Members) (name key : String) (value : Json) :
    (members.insert name value).find? key = if name = key then some value else members.find? key := by
  induction members with
  | nil => rfl
  | cons m members ih =>
    obtain ⟨first, old⟩ := m
    rw [insert]
    split
    · next same =>
      subst same
      rw [find?, find?]
      split <;> rfl
    · next other =>
      split
      · rw [find?]
      · rw [find?, find?, ih]
        by_cases here : first = key
        · have apart : name ≠ key := fun same => other (same.trans here.symm)
          rw [if_pos here, if_neg apart, if_pos here]
        · rw [if_neg here, if_neg here]

/-- What reads back has no other members. -/
theorem find?_rereadMembers? {done members read : Members}
    (h : rereadMembers? done members = some read) {key : String} (before : done.find? key = none)
    (absent : key ∉ members.names) : read.find? key = none := by
  induction members generalizing done with
  | nil =>
    obtain rfl := Option.some.inj h
    exact before
  | cons m members ih =>
    obtain ⟨name, value⟩ := m
    rw [Members.names, List.map_cons, List.mem_cons, not_or] at absent
    obtain ⟨value, -, goes⟩ := Option.bind_eq_some_iff.mp h
    refine ih goes ?_ absent.2
    rw [Members.find?_insert, if_neg fun same => absent.1 same.symm]
    exact before

end Parley.Json
