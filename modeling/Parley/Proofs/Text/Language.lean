import Mathlib.Data.List.Forall2
import Parley.Event.Announcement
import Parley.Proofs.Uuid
import Parley.Text.Glob

/-!
# The language of a pattern

A comparison is a loop over cursors. With each turn it comes closer to its end: either the latest
star has swallowed more, or less is left of the pattern. So it answers after a number of turns that
grows with the product of the two lengths.

Only the latest star is kept, and that is enough. What stands between two stars of a pattern matches
a part of the text of its own length; so whatever the earlier star could still swallow, the later
one can swallow instead. This needs a text without stars, since a star of the text is taken
literally.
-/

namespace Parley

/-- What the system itself announces has a topic without stars. -/
theorem Announcement.star_notMem_topic (a : Announcement) : '*' ∉ a.topic.toList := by
  have start : '*' ∉ "events:".toList := by decide
  have behind : '*' ∉ a.suffix.toList := by
    cases a with
    | noticePushed notice data =>
      have pushed : '*' ∉ "notification:websocket:".toList := by decide
      change '*' ∉ ("notification:websocket:" ++ toString notice.accountId).toList
      rw [String.toList_append, List.mem_append, not_or]
      refine ⟨pushed, fun listed => ?_⟩
      rcases Uuid.exists_of_mem_toString listed with hyphen | ⟨digit, below, same⟩
      · exact absurd hyphen (by decide)
      · have digits : ∀ digit < 16, Text.hexDigit digit ≠ '*' := by decide
        exact digits digit below same
    | _ =>
      dsimp only [suffix]
      decide
  rw [topic, topicFor, String.toList_append, List.mem_append, not_or]
  exact ⟨start, behind⟩

namespace Glob

variable {p c : Char} {pattern text done read later : List Char}

theorem matches_nil_iff : Matches [] text ↔ text = [] := by
  constructor
  · rintro ⟨⟩
    rfl
  · rintro rfl
    exact .nil

/-- A character that is no star matches one character. -/
theorem matches_cons_iff (other : p ≠ '*') :
    Matches (p :: pattern) (c :: text) ↔ (p = '?' ∨ p = c) ∧ Matches pattern text := by
  constructor
  · intro whole
    cases whole with
    | char star one rest => exact ⟨.inr rfl, rest⟩
    | one rest => exact ⟨.inl rfl, rest⟩
    | skip | more => exact absurd rfl other
  · rintro ⟨fits, rest⟩
    by_cases one : p = '?'
    · exact one ▸ .one rest
    · obtain rfl := fits.resolve_left one
      exact .char other one rest

theorem not_matches_cons_nil (other : p ≠ '*') : ¬ Matches (p :: pattern) [] := by
  rintro ⟨⟩
  exact other rfl

/-- A star swallows what stands before some end of the text. -/
theorem matches_star_iff :
    Matches ('*' :: pattern) text ↔ ∃ later, later <:+ text ∧ Matches pattern later := by
  constructor
  · intro whole
    induction text with
    | nil =>
      cases whole with
      | skip rest => exact ⟨[], List.suffix_rfl, rest⟩
    | cons c text ih =>
      cases whole with
      | char star => exact absurd rfl star
      | skip rest => exact ⟨c :: text, List.suffix_rfl, rest⟩
      | more rest =>
        obtain ⟨later, ends, rest⟩ := ih rest
        exact ⟨later, ends.trans (List.suffix_cons c text), rest⟩
  · rintro ⟨later, ⟨swallowed, rfl⟩, rest⟩
    induction swallowed with
    | nil => exact .skip rest
    | cons c swallowed ih => exact .more ih

/-- A star that matches an end of the text matches the whole of it. -/
theorem Matches.of_suffix (rest : Matches ('*' :: pattern) later) (ends : later <:+ text) :
    Matches ('*' :: pattern) text := by
  obtain ⟨last, within, rest⟩ := matches_star_iff.mp rest
  exact matches_star_iff.mpr ⟨last, within.trans ends, rest⟩

/-- Only stars match nothing. -/
theorem matches_nil_text_iff : Matches pattern [] ↔ pattern.all (· == '*') = true := by
  induction pattern with
  | nil => exact iff_of_true .nil rfl
  | cons p pattern ih =>
    rw [List.all_cons, Bool.and_eq_true, beq_iff_eq, ← ih]
    constructor
    · rintro ⟨⟩
      exact ⟨rfl, ‹_›⟩
    · rintro ⟨rfl, rest⟩
      exact .skip rest

/-- The characters of a part of a pattern and of a part of a text fit one by one. -/
def Fits (done read : List Char) : Prop :=
  List.Forall₂ (fun p c => p = '?' ∨ p = c) done read

theorem Fits.concat (fits : Fits done read) (last : p = '?' ∨ p = c) :
    Fits (done ++ [p]) (read ++ [c]) :=
  List.rel_append fits (.cons last .nil)

theorem Fits.notMem_star (fits : Fits done read) (plain : '*' ∉ read) : '*' ∉ done := by
  induction fits with
  | nil => exact List.not_mem_nil
  | @cons p c done read here fits ih =>
    rw [List.mem_cons, not_or] at plain ⊢
    refine ⟨?_, ih plain.2⟩
    rintro rfl
    exact here.elim nofun plain.1

theorem Fits.matches_append (fits : Fits done read) (plain : '*' ∉ read) :
    Matches (done ++ pattern) (read ++ text) ↔ Matches pattern text := by
  have starless := fits.notMem_star plain
  induction fits with
  | nil => exact Iff.rfl
  | @cons p c done read here fits ih =>
    rw [List.mem_cons, not_or] at plain starless
    rw [List.cons_append, List.cons_append, matches_cons_iff (Ne.symm starless.1),
      and_iff_right here]
    exact ih plain.2 starless.2

/-- A part without stars matches as many characters as it has. -/
theorem exists_of_matches_append (starless : '*' ∉ done) (whole : Matches (done ++ pattern) text) :
    ∃ read later, text = read ++ later ∧ read.length = done.length ∧ Matches pattern later := by
  induction done generalizing text with
  | nil => exact ⟨[], text, rfl, rfl, whole⟩
  | cons p done ih =>
    rw [List.mem_cons, not_or] at starless
    cases text with
    | nil => exact absurd whole (not_matches_cons_nil (Ne.symm starless.1))
    | cons c text =>
      obtain ⟨-, rest⟩ := (matches_cons_iff (Ne.symm starless.1)).mp whole
      obtain ⟨read, later, rfl, same, rest⟩ := ih starless.2 rest
      exact ⟨c :: read, later, rfl, congrArg (· + 1) same, rest⟩

/-- A star that was read up to here may swallow more, but what is left then is an end of the
text. -/
theorem Fits.exists_suffix (fits : Fits done read) (plain : '*' ∉ read)
    (whole : Matches ('*' :: (done ++ pattern)) (read ++ text)) :
    ∃ later, later <:+ text ∧ Matches pattern later := by
  obtain ⟨last, ends, rest⟩ := matches_star_iff.mp whole
  obtain ⟨other, later, rfl, same, rest⟩ := exists_of_matches_append (fits.notMem_star plain) rest
  have within : later <:+ read ++ text := (List.suffix_append other later).trans ends
  have short := ends.length_le
  rw [List.length_append, List.length_append, same, fits.length_eq] at short
  exact ⟨later, List.suffix_of_suffix_length_le within (List.suffix_append read text)
    (Nat.le_of_add_le_add_left short), rest⟩

theorem Fits.star_matches (fits : Fits done read) (plain : '*' ∉ read)
    (rest : Matches pattern text) : Matches ('*' :: (done ++ pattern)) (read ++ text) :=
  .skip ((fits.matches_append plain).mpr rest)

/-- Where a comparison stands: what is left of the pattern and of the text, and what the latest star
falls back to. -/
structure Cursor where
  pattern : List Char
  text : List Char
  mark : Option Mark

namespace Cursor

/-- After a mismatch the latest star swallows one more character. -/
def fallBack : Option Mark → Bool ⊕ Cursor
  | some ⟨again, _ :: later⟩ => .inr ⟨again, later, some ⟨again, later⟩⟩
  | _ => .inl false

/-- One turn of the loop: its answer, or the cursor with which it goes on. -/
def turn : Cursor → Bool ⊕ Cursor
  | ⟨pattern, [], _⟩ => .inl (pattern.all (· == '*'))
  | ⟨[], _ :: _, mark⟩ => fallBack mark
  | ⟨p :: pattern, c :: text, mark⟩ =>
    if p = '?' ∨ p = c then .inr ⟨pattern, text, mark⟩
    else if p = '*' then .inr ⟨pattern, c :: text, some ⟨pattern, c :: text⟩⟩
    else fallBack mark

/-- The answer of the loop, if it comes to one within so many turns. -/
def answer? : Nat → Cursor → Option Bool
  | 0, _ => none
  | turns + 1, here =>
    match here.turn with
    | .inl answer => some answer
    | .inr next => answer? turns next

/-- The cursor at the beginning of a pattern and of a text. -/
def start (pattern text : String) : Cursor := ⟨pattern.toList, text.toList, none⟩

variable {here next : Cursor} {answer : Bool} {length : Nat}

/-- The pattern has come to its end, or to a character that the text does not have here. -/
def Differs (pattern : List Char) (c : Char) : Prop :=
  ∀ p ∈ pattern.head?, p ≠ '*' ∧ ¬ (p = '?' ∨ p = c)

/-- The turns after which the loop goes on. -/
inductive Moves : Cursor → Cursor → Prop
  | fits {p c : Char} {pattern text : List Char} {mark : Option Mark} (same : p = '?' ∨ p = c) :
    Moves ⟨p :: pattern, c :: text, mark⟩ ⟨pattern, text, mark⟩
  | star {c : Char} {pattern text : List Char} {mark : Option Mark} (other : '*' ≠ c) :
    Moves ⟨'*' :: pattern, c :: text, mark⟩ ⟨pattern, c :: text, some ⟨pattern, c :: text⟩⟩
  | back {c d : Char} {pattern text again later : List Char} (differs : Differs pattern c) :
    Moves ⟨pattern, c :: text, some ⟨again, d :: later⟩⟩ ⟨again, later, some ⟨again, later⟩⟩

/-- The turns with which it ends. -/
inductive Stops : Cursor → Bool → Prop
  | read {pattern : List Char} {mark : Option Mark} :
    Stops ⟨pattern, [], mark⟩ (pattern.all (· == '*'))
  | spent {c : Char} {pattern text : List Char} {mark : Option Mark} (differs : Differs pattern c)
    (nothing : ∀ m ∈ mark, m.text = []) : Stops ⟨pattern, c :: text, mark⟩ false

/-- A mismatch ends the loop, or leads back to the latest star. -/
theorem cases_of_fallBack {mark : Option Mark} (differs : Differs pattern c)
    (falls : turn ⟨pattern, c :: text, mark⟩ = fallBack mark) :
    (∃ answer, turn ⟨pattern, c :: text, mark⟩ = .inl answer ∧
      Stops ⟨pattern, c :: text, mark⟩ answer) ∨
    ∃ next, turn ⟨pattern, c :: text, mark⟩ = .inr next ∧ Moves ⟨pattern, c :: text, mark⟩ next := by
  match mark with
  | none => exact .inl ⟨false, falls, .spent differs nofun⟩
  | some ⟨again, []⟩ =>
    exact .inl ⟨false, falls, .spent differs fun m same => Option.some.inj same ▸ rfl⟩
  | some ⟨again, d :: later⟩ => exact .inr ⟨_, falls, .back differs⟩

/-- Each turn answers or goes on. -/
theorem turn_cases (here : Cursor) : (∃ answer, here.turn = .inl answer ∧ Stops here answer) ∨
    ∃ next, here.turn = .inr next ∧ Moves here next := by
  match here with
  | ⟨pattern, [], mark⟩ => exact .inl ⟨_, rfl, .read⟩
  | ⟨[], c :: text, mark⟩ => exact cases_of_fallBack nofun rfl
  | ⟨p :: pattern, c :: text, mark⟩ =>
    by_cases same : p = '?' ∨ p = c
    · exact .inr ⟨_, if_pos same, .fits same⟩
    · by_cases star : p = '*'
      · subst star
        refine .inr ⟨_, (if_neg same).trans (if_pos rfl), .star ?_⟩
        rintro rfl
        exact same (.inr rfl)
      · refine cases_of_fallBack ?_ ((if_neg same).trans (if_neg star))
        rintro q listed
        obtain rfl := Option.some.inj listed
        exact ⟨star, same⟩

/-- The text that is still in question: from the latest star on, if there was one. -/
def pending (here : Cursor) : List Char := here.mark.elim here.text (·.text)

/-- In a pattern of this length, what was compared since the latest star lies between what the star
falls back to and what is left. -/
structure Follows (length : Nat) (here : Cursor) : Prop where
  short : here.pattern.length ≤ length
  marked : ∀ m ∈ here.mark, m.pattern.length ≤ length ∧ ∃ done read,
    m.pattern = done ++ here.pattern ∧ m.text = read ++ here.text ∧ Fits done read

namespace Follows

theorem within (follows : here.Follows length) : Within here.pattern here.mark := by
  intro m marked
  obtain ⟨-, done, read, same, -, -⟩ := follows.marked m marked
  rw [same, List.length_append]
  exact Nat.le_add_left _ _

theorem suffix_pending (follows : here.Follows length) : here.text <:+ here.pending := by
  cases marked : here.mark with
  | none =>
    have same : here.pending = here.text := by rw [pending, marked, Option.elim_none]
    exact same ▸ List.suffix_rfl
  | some m =>
    obtain ⟨-, done, read, -, same, -⟩ := follows.marked m marked
    rw [pending, marked, Option.elim_some, same]
    exact List.suffix_append read here.text

theorem begin (pattern text : String) :
    (Cursor.start pattern text).Follows pattern.length :=
  ⟨Nat.le_of_eq String.length_toList, nofun⟩

theorem moved (follows : here.Follows length) (moves : Moves here next) :
    next.Follows length := by
  cases moves with
  | @fits p c pattern text mark same =>
    refine ⟨Nat.le_of_succ_le follows.short, fun m marked => ?_⟩
    obtain ⟨short, done, read, samePattern, sameText, fits⟩ := follows.marked m marked
    refine ⟨short, done ++ [p], read ++ [c], ?_, ?_, fits.concat same⟩
    · rw [samePattern, List.append_assoc, List.singleton_append]
    · rw [sameText, List.append_assoc, List.singleton_append]
  | star other =>
    have short := Nat.le_of_succ_le follows.short
    refine ⟨short, fun m marked => ?_⟩
    obtain rfl := Option.some.inj marked
    exact ⟨short, [], [], rfl, rfl, .nil⟩
  | back differs =>
    have short := (follows.marked _ rfl).1
    refine ⟨short, fun m marked => ?_⟩
    obtain rfl := Option.some.inj marked
    exact ⟨short, [], [], rfl, rfl, .nil⟩

end Follows

/-- The turns that are left at most: the star may swallow each character that is pending, and each
time the pattern is gone through once more. -/
def patience (length : Nat) (here : Cursor) : Nat :=
  here.pending.length * (length + 1) + here.pattern.length

theorem patience_lt (follows : here.Follows length) (moves : Moves here next) :
    next.patience length < here.patience length := by
  cases moves with
  | @fits p c pattern text mark same =>
    have less : (pending ⟨pattern, text, mark⟩).length ≤
        (pending ⟨p :: pattern, c :: text, mark⟩).length := by
      cases mark with
      | none => exact Nat.le_succ _
      | some m => exact Nat.le_refl _
    exact Nat.add_lt_add_of_le_of_lt (Nat.mul_le_mul_right _ less) (Nat.lt_succ_self _)
  | star other =>
    exact Nat.add_lt_add_of_le_of_lt (Nat.mul_le_mul_right _ follows.suffix_pending.length_le)
      (Nat.lt_succ_self _)
  | @back c d pattern text again later differs =>
    have short := (follows.marked _ rfl).1
    change later.length * (length + 1) + again.length <
      (later.length + 1) * (length + 1) + pattern.length
    rw [Nat.succ_mul]
    change again.length ≤ length at short
    omega

theorem run_of_stops (stops : Stops here answer) (within : Within here.pattern here.mark) :
    run here.pattern here.text here.mark within = answer := by
  cases stops with
  | read => exact run.eq_1 _ _ _
  | @spent c pattern text mark differs nothing =>
    have exhausted : ∀ again d later, mark ≠ some ⟨again, d :: later⟩ := by
      rintro again d later rfl
      exact List.cons_ne_nil d later (nothing _ rfl)
    cases pattern with
    | nil => exact run.eq_5 _ _ _ _ fun again d later _ same _ => exhausted again d later same
    | cons p pattern =>
      obtain ⟨star, apart⟩ := differs p rfl
      rw [run.eq_3 _ _ _ _ _ _ fun again d later _ same _ => exhausted again d later same,
        if_neg apart, if_neg star]

theorem run_of_moves (moves : Moves here next) (within : Within here.pattern here.mark)
    (later : Within next.pattern next.mark) :
    run here.pattern here.text here.mark within = run next.pattern next.text next.mark later := by
  cases moves with
  | @fits p c pattern text mark same =>
    by_cases swallows : ∃ again d behind, mark = some ⟨again, d :: behind⟩
    · obtain ⟨again, d, behind, rfl⟩ := swallows
      rw [run.eq_2, if_pos same]
    · rw [run.eq_3 _ _ _ _ _ _ fun _ _ _ _ marked _ => swallows ⟨_, _, _, marked⟩, if_pos same]
  | @star c pattern text mark other =>
    have apart : ¬ ('*' = '?' ∨ '*' = c) := not_or.mpr ⟨by decide, other⟩
    by_cases swallows : ∃ again d behind, mark = some ⟨again, d :: behind⟩
    · obtain ⟨again, d, behind, rfl⟩ := swallows
      rw [run.eq_2, if_neg apart, if_pos rfl]
    · rw [run.eq_3 _ _ _ _ _ _ fun _ _ _ _ marked _ => swallows ⟨_, _, _, marked⟩,
        if_neg apart, if_pos rfl]
  | @back c d pattern text again behind differs =>
    cases pattern with
    | nil => exact run.eq_4 _ _ _ _ _ _
    | cons p pattern =>
      obtain ⟨star, apart⟩ := differs p rfl
      rw [run.eq_2, if_neg apart, if_neg star]

/-- As long as it has the turns, the loop comes to an answer, and to the same as the comparison. -/
theorem answer?_eq_run {turns : Nat} (follows : here.Follows length)
    (enough : here.patience length < turns) :
    here.answer? turns = some (run here.pattern here.text here.mark follows.within) := by
  induction turns generalizing here with
  | zero => exact absurd enough (Nat.not_lt_zero _)
  | succ turns ih =>
    rw [answer?]
    rcases here.turn_cases with ⟨answer, ends, stops⟩ | ⟨next, goesOn, moves⟩
    · rw [ends, run_of_stops stops follows.within]
    · have later := follows.moved moves
      have less := patience_lt follows moves
      rw [goesOn, run_of_moves moves follows.within later.within]
      exact ih later (by omega)

/-- The text that is pending is one of the pattern behind the latest star, with this star; before
there is a star, what is left of the text is one of what is left of the pattern. -/
def Admits (here : Cursor) : Prop :=
  match here.mark with
  | none => Matches here.pattern here.text
  | some m => Matches ('*' :: m.pattern) m.text

theorem not_matches_of_differs (differs : Differs pattern c) : ¬ Matches pattern (c :: text) := by
  intro whole
  cases pattern with
  | nil => exact List.cons_ne_nil c text (matches_nil_iff.mp whole)
  | cons p pattern =>
    obtain ⟨star, apart⟩ := differs p rfl
    exact apart ((matches_cons_iff star).mp whole).1

theorem admits_of_stops (follows : here.Follows length) (plain : '*' ∉ here.pending)
    (stops : Stops here answer) : answer = true ↔ here.Admits := by
  cases stops with
  | @read pattern mark =>
    rw [← matches_nil_text_iff]
    cases mark with
    | none => exact Iff.rfl
    | some m =>
      obtain ⟨-, done, read, samePattern, sameText, fits⟩ := follows.marked m rfl
      change '*' ∉ m.text at plain
      change Matches pattern [] ↔ Matches ('*' :: m.pattern) m.text
      rw [sameText, List.mem_append, not_or] at plain
      rw [samePattern, sameText]
      refine ⟨fits.star_matches plain.1, fun whole => ?_⟩
      obtain ⟨later, ends, rest⟩ := fits.exists_suffix plain.1 whole
      exact List.suffix_nil.mp ends ▸ rest
  | @spent c pattern text mark differs nothing =>
    refine iff_of_false Bool.false_ne_true ?_
    cases mark with
    | none => exact not_matches_of_differs differs
    | some m =>
      obtain ⟨-, done, read, -, sameText, -⟩ := follows.marked m rfl
      rw [nothing m rfl] at sameText
      exact absurd sameText.symm (List.append_ne_nil_of_right_ne_nil read (List.cons_ne_nil c text))

theorem admits_of_moves (follows : here.Follows length) (plain : '*' ∉ here.pending)
    (moves : Moves here next) : here.Admits ↔ next.Admits := by
  cases moves with
  | @fits p c pattern text mark same =>
    cases mark with
    | none =>
      have other : p ≠ '*' := by
        rintro rfl
        rcases same with ⟨⟨⟩⟩ | rfl
        exact plain List.mem_cons_self
      exact (matches_cons_iff other).trans (and_iff_right same)
    | some m => exact Iff.rfl
  | @star c pattern text mark other =>
    cases mark with
    | none => exact Iff.rfl
    | some m =>
      obtain ⟨-, done, read, samePattern, sameText, fits⟩ := follows.marked m rfl
      change '*' ∉ m.text at plain
      change Matches ('*' :: m.pattern) m.text ↔ Matches ('*' :: pattern) (c :: text)
      rw [sameText, List.mem_append, not_or] at plain
      rw [samePattern, sameText]
      refine ⟨fun whole => ?_, fits.star_matches plain.1⟩
      -- However much the earlier star swallows, the new one gets from here to where it has to be.
      obtain ⟨later, ends, rest⟩ := fits.exists_suffix plain.1 whole
      exact rest.of_suffix ends
  | @back c d pattern text again later differs =>
    obtain ⟨-, done, read, samePattern, sameText, fits⟩ := follows.marked _ rfl
    change '*' ∉ d :: later at plain
    change again = done ++ pattern at samePattern
    change d :: later = read ++ c :: text at sameText
    change Matches ('*' :: again) (d :: later) ↔ Matches ('*' :: again) later
    have failed : ¬ Matches again (d :: later) := by
      rw [sameText, List.mem_append, not_or] at plain
      rw [samePattern, sameText, fits.matches_append plain.1]
      exact not_matches_of_differs differs
    refine ⟨fun whole => ?_, fun rest => rest.of_suffix (List.suffix_cons d later)⟩
    cases whole with
    | char star => exact absurd rfl star
    | skip rest => exact absurd rest failed
    | more rest => exact rest

/-- What is pending later was pending before. -/
theorem pending_subset (follows : here.Follows length) (moves : Moves here next) :
    next.pending ⊆ here.pending := by
  cases moves with
  | @fits p c pattern text mark same =>
    cases mark with
    | none => exact List.subset_cons_self c text
    | some m => exact List.Subset.refl _
  | star other => exact follows.suffix_pending.subset
  | @back c d pattern text again later differs => exact List.subset_cons_self d later

/-- Whenever the loop comes to an answer, it tells whether the text is one of the pattern. -/
theorem answer_iff_admits {turns : Nat} (follows : here.Follows length) (plain : '*' ∉ here.pending)
    (ends : here.answer? turns = some answer) : answer = true ↔ here.Admits := by
  induction turns generalizing here with
  | zero => cases ends
  | succ turns ih =>
    rw [answer?] at ends
    rcases here.turn_cases with ⟨last, stopped, stops⟩ | ⟨next, goesOn, moves⟩
    · rw [stopped] at ends
      obtain rfl := Option.some.inj ends
      exact admits_of_stops follows plain stops
    · rw [goesOn] at ends
      rw [admits_of_moves follows plain moves]
      have still : '*' ∉ next.pending := fun listed => plain (pending_subset follows moves listed)
      exact ih (follows.moved moves) still ends

end Cursor

/-- A comparison ends within as many turns as the product of the two lengths, each taken one larger.
A text without a star, such as the topic of any announcement, is accepted exactly if it is one of
the pattern. -/
theorem accepts_iff_matches (pattern topic : String) (plain : '*' ∉ topic.toList) :
    (Cursor.start pattern topic).answer? ((topic.length + 1) * (pattern.length + 1)) =
        some (accepts pattern topic) ∧
      (accepts pattern topic = true ↔ Matches pattern.toList topic.toList) ∧
      ∀ a : Announcement, '*' ∉ a.topic.toList := by
  have follows := Cursor.Follows.begin pattern topic
  have enough : (Cursor.start pattern topic).patience pattern.length <
      (topic.length + 1) * (pattern.length + 1) := by
    change topic.toList.length * (pattern.length + 1) + pattern.toList.length < _
    rw [String.length_toList, String.length_toList, Nat.succ_mul]
    omega
  have ends := Cursor.answer?_eq_run follows enough
  exact ⟨ends, Cursor.answer_iff_admits follows plain ends, Announcement.star_notMem_topic⟩

/-- The first star has to swallow `guild:` and, once the second has failed behind the first colon,
the second swallows more. -/
theorem accepts_iff_matches_backtracking : '*' ∉ "events:guild:re-created".toList ∧
    accepts "events:*:*?created" "events:guild:re-created" = true ∧
    Matches "events:*:*?created".toList "events:guild:re-created".toList := by
  have plain : '*' ∉ "events:guild:re-created".toList := by decide
  obtain ⟨ends, same, -⟩ := accepts_iff_matches "events:*:*?created" "events:guild:re-created" plain
  have found : (Cursor.start "events:*:*?created" "events:guild:re-created").answer?
      (("events:guild:re-created".length + 1) * ("events:*:*?created".length + 1)) = some true := by
    decide +kernel
  have accepted := Option.some.inj (ends.symm.trans found)
  exact ⟨plain, accepted, same.mp accepted⟩

end Glob

end Parley
