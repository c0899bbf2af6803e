import Parley.Proofs.Filter.Shouting
import Parley.Proofs.Letter.Case

/-!
# Lowering from the left

Whether a capital is written small depends on the capitals right before it and right behind it.
`lowerBehind` lowers a text from the left and carries along only the number of capitals before.
It is the same function as `lowerShouts`, in a form that follows the text character by character.
-/

namespace Parley.Filter

open Letter (isCapital isWordChar lower)

/-- The number of capitals that a text begins with. -/
def leadingCapitals (text : List Char) : Nat := (text.takeWhile isCapital).length

/-- The number of capitals right before the end of a text that `count` capitals precede. -/
def capitalsBehind (count : Nat) : List Char → Nat
  | [] => count
  | c :: text => capitalsBehind (if isCapital c then count + 1 else 0) text

/-- The small form of a shouted capital, given what follows it. -/
def smallForm (c : Char) (rest : List Char) : List Char :=
  if c = 'Σ' ∧ leadingCapitals rest = 0 then ['ς'] else lower c

/-- What a character becomes, given how many capitals stand right before it and what follows. -/
def lowered (count : Nat) (c : Char) (rest : List Char) : List Char :=
  if isCapital c ∧ 10 ≤ count + leadingCapitals (c :: rest) then smallForm c rest else [c]

/-- Writes the shouts of a text small that `count` capitals precede. -/
def lowerBehind (count : Nat) : List Char → List Char
  | [] => []
  | c :: rest => lowered count c rest ++ lowerBehind (if isCapital c then count + 1 else 0) rest

variable {text stretch : List Char} {c d : Char} {capital : Bool} {count : Nat}
  {rest : List (Bool × List Char)}

theorem leadingCapitals_cons_of_capital (h : isCapital c = true) :
    leadingCapitals (c :: text) = leadingCapitals text + 1 := by
  rw [leadingCapitals, List.takeWhile_cons_of_pos h]
  rfl

theorem leadingCapitals_cons_of_other (h : isCapital c = false) :
    leadingCapitals (c :: text) = 0 := by
  rw [leadingCapitals, List.takeWhile_cons_of_neg (by simp [h])]
  rfl

theorem lowered_of_other (h : isCapital c = false) (rest : List Char) :
    lowered count c rest = [c] := by
  rw [lowered, if_neg (by simp [h])]

theorem lowered_of_capital (h : isCapital c = true) : lowered count c text =
    if 10 ≤ count + (leadingCapitals text + 1) then smallForm c text else [c] := by
  simp only [lowered, h, true_and, leadingCapitals_cons_of_capital h]

theorem first_stretch_ne_nil (h : capitalStretches text = (capital, stretch) :: rest) :
    stretch ≠ [] := by
  cases text with
  | nil => exact absurd h (List.cons_ne_nil _ _).symm
  | cons c text =>
    rcases capitalStretches_cons c text with ⟨_, same⟩ | ⟨_, _, _, same⟩ | ⟨_, _, _, same⟩ <;>
    · rw [h] at same
      obtain ⟨_, rfl⟩ := Prod.mk.inj (List.cons.inj same).1
      exact List.cons_ne_nil _ _

/-- A text begins with as many capitals as its first stretch holds, if that is one of capitals. -/
theorem leadingCapitals_eq (h : capitalStretches text = (capital, stretch) :: rest) :
    leadingCapitals text = if capital then stretch.length else 0 := by
  induction text generalizing capital stretch rest with
  | nil => exact absurd h (List.cons_ne_nil _ _).symm
  | cons c text ih =>
    cases hc : isCapital c with
    | false =>
      have other : capital = false := by
        rcases capitalStretches_cons c text with ⟨_, same⟩ | ⟨_, _, _, same⟩ | ⟨_, _, _, same⟩ <;>
        · rw [h, hc] at same
          exact (Prod.mk.inj (List.cons.inj same).1).1
      rw [leadingCapitals_cons_of_other hc, other, if_neg Bool.false_ne_true]
    | true =>
      rw [leadingCapitals_cons_of_capital hc]
      rcases capitalStretches_cons c text with ⟨rfl, same⟩ | ⟨begun, _, hs, same⟩ |
        ⟨begun, _, hs, same⟩ <;>
      · rw [h, hc] at same
        obtain ⟨rfl, rfl⟩ := Prod.mk.inj (List.cons.inj same).1
        first
          | rfl
          | rw [ih hs, hc]; rfl

/-- Stretches as they are after lowering. -/
def lowerStretches (stretches : List (Bool × List Char)) : List Char :=
  stretches.flatMap fun s => if isShout s then lowerStretch s.2 else s.2

theorem lowerStretch_cons (h : stretch ≠ []) :
    lowerStretch (c :: stretch) = lower c ++ lowerStretch stretch := by
  cases stretch with
  | nil => exact absurd rfl h
  | cons d stretch => rw [lowerStretch]; simp

theorem smallForm_of_last (h : leadingCapitals text = 0) :
    smallForm c text = lowerStretch [c] := by
  by_cases hc : c = 'Σ'
  · subst hc
    rw [smallForm, if_pos ⟨rfl, h⟩]
    rfl
  · rw [smallForm, if_neg (fun last => hc last.1), lowerStretch]
    · exact (List.append_nil _).symm
    · rintro rfl -
      exact hc rfl

theorem smallForm_of_inner (h : leadingCapitals text ≠ 0) : smallForm c text = lower c := by
  rw [smallForm, if_neg (fun last => h last.2)]

theorem lowerStretches_cons :
    lowerStretches ((capital, stretch) :: rest) =
      (if capital ∧ 10 ≤ stretch.length then lowerStretch stretch else stretch) ++
        lowerStretches rest := by
  cases capital <;> by_cases long : 10 ≤ stretch.length <;>
    simp [lowerStretches, isShout, shoutLength, long]

/-- The capitals before a text count with its first stretch; all others are as they were. -/
theorem lowerBehind_eq (h : capitalStretches text = (capital, stretch) :: rest) :
    lowerBehind count text =
      (if capital ∧ 10 ≤ count + stretch.length then lowerStretch stretch else stretch) ++
        lowerStretches rest := by
  induction text generalizing capital stretch rest count with
  | nil => exact absurd h (List.cons_ne_nil _ _).symm
  | cons c text ih =>
    rw [lowerBehind]
    have cases_of_text := capitalStretches_cons c text
    cases hc : isCapital c with
    | false =>
      simp only [hc, Bool.not_false] at cases_of_text
      rw [lowered_of_other hc, if_neg Bool.false_ne_true]
      rcases cases_of_text with ⟨rfl, same⟩ | ⟨begun, others, hs, same⟩ | ⟨begun, others, hs, same⟩
      all_goals
        obtain ⟨first, rfl⟩ := List.cons.inj (h.symm.trans same)
        obtain ⟨rfl, rfl⟩ := Prod.mk.inj first
      · rfl
      · rw [ih hs]
        rfl
      · rw [ih hs, Nat.zero_add, ← lowerStretches_cons]
        rfl
    | true =>
      simp only [hc, Bool.not_true] at cases_of_text
      rw [lowered_of_capital hc, if_pos rfl]
      rcases cases_of_text with ⟨rfl, same⟩ | ⟨begun, others, hs, same⟩ | ⟨begun, others, hs, same⟩
      all_goals
        obtain ⟨first, rfl⟩ := List.cons.inj (h.symm.trans same)
        obtain ⟨rfl, rfl⟩ := Prod.mk.inj first
      · simp only [true_and, List.length_singleton]
        rw [smallForm_of_last rfl]
        rfl
      · have many : leadingCapitals text = begun.length := leadingCapitals_eq hs
        have some_more : leadingCapitals text ≠ 0 := by
          rw [many]
          exact fun none_more => first_stretch_ne_nil hs (List.length_eq_zero_iff.mp none_more)
        rw [ih hs, smallForm_of_inner some_more, many, List.length_cons,
          lowerStretch_cons (first_stretch_ne_nil hs), Nat.add_right_comm, Nat.add_assoc]
        by_cases loud : 10 ≤ count + (begun.length + 1) <;> simp [loud]
      · have last : leadingCapitals text = 0 := leadingCapitals_eq hs
        rw [ih hs, smallForm_of_last last, last, lowerStretches_cons]
        simp

theorem lowerShouts_eq_lowerBehind (text : List Char) :
    (lowerShouts text).1 = lowerBehind 0 text := by
  cases h : capitalStretches text with
  | nil =>
    cases text with
    | nil => rfl
    | cons c text =>
      rcases capitalStretches_cons c text with ⟨_, same⟩ | ⟨_, _, _, same⟩ | ⟨_, _, _, same⟩ <;>
      · rw [h] at same
        exact absurd same (List.cons_ne_nil _ _).symm
  | cons first rest =>
    obtain ⟨capital, stretch⟩ := first
    rw [lowerBehind_eq h, Nat.zero_add, ← lowerStretches_cons, ← h]
    rfl

variable {p out u v : List Char} {x : Char}

theorem lowered_ne_nil (count : Nat) (c : Char) (text : List Char) :
    lowered count c text ≠ [] := by
  rw [lowered]
  split
  · rw [smallForm, lower]
    split
    · exact List.cons_ne_nil _ _
    · split <;> exact List.cons_ne_nil _ _
  · exact List.cons_ne_nil _ _

theorem lowerBehind_ne_nil (count : Nat) (h : text ≠ []) : lowerBehind count text ≠ [] := by
  cases text with
  | nil => exact absurd rfl h
  | cons c text =>
    rw [lowerBehind]
    exact List.append_ne_nil_of_left_ne_nil (lowered_ne_nil count c text) _

/-- Shouted or not, a capital becomes word characters. -/
theorem isWordChar_of_mem_lowered (h : isCapital c = true) (hd : d ∈ lowered count c text) :
    isWordChar d = true := by
  rw [lowered] at hd
  split at hd
  · rw [smallForm] at hd
    split at hd
    · rw [List.mem_singleton.mp hd]
      decide
    · exact Letter.isWordChar_of_mem_lower h hd
  · rw [List.mem_singleton.mp hd]
    exact Letter.isWordChar_of_isCapital h

theorem isCapital_of_not_isWordChar (h : isWordChar c = false) : isCapital c = false := by
  cases hc : isCapital c with
  | false => rfl
  | true => exact absurd (h.symm.trans (Letter.isWordChar_of_isCapital hc)) Bool.false_ne_true

theorem leadingCapitals_append (other : ∀ c ∈ v.head?, isCapital c = false) :
    leadingCapitals (u ++ v) = leadingCapitals u := by
  induction u with
  | nil =>
    cases v with
    | nil => rfl
    | cons c v => exact leadingCapitals_cons_of_other (other c rfl)
  | cons c u ih =>
    cases hc : isCapital c with
    | false =>
      rw [List.cons_append, leadingCapitals_cons_of_other hc, leadingCapitals_cons_of_other hc]
    | true =>
      rw [List.cons_append, leadingCapitals_cons_of_capital hc, leadingCapitals_cons_of_capital hc,
        ih]

theorem leadingCapitals_le (text : List Char) : leadingCapitals text ≤ text.length :=
  (List.takeWhile_prefix isCapital).length_le

/-- A text cut before a character that is no capital may be lowered in two parts. -/
theorem lowerBehind_append (other : ∀ c ∈ v.head?, isCapital c = false) :
    lowerBehind count (u ++ v) = lowerBehind count u ++ lowerBehind 0 v := by
  induction u generalizing count with
  | nil =>
    cases v with
    | nil => rfl
    | cons c v =>
      have hc : isCapital c = false := other c rfl
      simp only [List.nil_append, lowerBehind, lowered_of_other hc, hc, Bool.false_eq_true, if_false]
  | cons c u ih =>
    have same : lowered count c (u ++ v) = lowered count c u := by
      have capitals := leadingCapitals_append other (u := c :: u)
      rw [List.cons_append] at capitals
      rw [lowered, lowered, smallForm, smallForm, leadingCapitals_append other, capitals]
    rw [List.cons_append, lowerBehind, lowerBehind, same, ih, List.append_assoc]

theorem lowerBehind_of_others (others : ∀ c ∈ u, isCapital c = false) (v : List Char) :
    lowerBehind 0 (u ++ v) = u ++ lowerBehind 0 v := by
  induction u with
  | nil => rfl
  | cons c u ih =>
    have hc : isCapital c = false := others c List.mem_cons_self
    rw [List.cons_append, lowerBehind, lowered_of_other hc, hc, if_neg Bool.false_ne_true,
      ih fun d hd => others d (List.mem_cons_of_mem c hd)]
    rfl

/-- Fewer than ten characters before one that is no capital are no shout. -/
theorem lowerBehind_append_cons (hx : isCapital x = false) (short : count + p.length < 10) :
    lowerBehind count (p ++ x :: text) = p ++ x :: lowerBehind 0 text := by
  rw [lowerBehind_append (by simpa using hx), lowerBehind, lowered_of_other hx, hx,
    if_neg Bool.false_ne_true]
  have kept : lowerBehind count p = p := by
    clear hx
    induction p generalizing count with
    | nil => rfl
    | cons c p ih =>
      have few := leadingCapitals_le (c :: p)
      rw [List.length_cons] at short few
      have quiet : ¬ (isCapital c = true ∧ 10 ≤ count + leadingCapitals (c :: p)) := by omega
      rw [lowerBehind, lowered, if_neg quiet, ih (by split <;> omega)]
      rfl
  rw [kept]
  rfl

/-- The capitals that a text begins with become at least as many word characters. -/
theorem isWordChar_of_lowerBehind (h : lowerBehind count text = p ++ x :: out)
    (inside : p.length < leadingCapitals text) : isWordChar x = true := by
  induction text generalizing p count with
  | nil => exact absurd inside (Nat.not_lt_zero _)
  | cons c text ih =>
    cases hc : isCapital c with
    | false => exact absurd inside (by rw [leadingCapitals_cons_of_other hc]; exact Nat.not_lt_zero _)
    | true =>
      rw [leadingCapitals_cons_of_capital hc] at inside
      rw [lowerBehind] at h
      have positive := List.length_pos_iff.mpr (lowered_ne_nil count c text)
      rcases List.append_eq_append_iff.mp h with ⟨rest, rfl, hrest⟩ | ⟨rest, hrest, hx⟩
      · refine ih hrest ?_
        rw [List.length_append] at inside
        omega
      · cases rest with
        | nil =>
          refine ih (p := []) hx.symm ?_
          rw [hrest, List.append_nil] at positive
          rw [List.length_nil]
          omega
        | cons y rest =>
          obtain rfl : x = y := (List.cons.inj hx).1
          have written : x ∈ lowered count c text := by
            rw [hrest]
            exact List.mem_append_right p List.mem_cons_self
          exact isWordChar_of_mem_lowered hc written

/-- What is no word character was not written by lowering, and few characters before it were not
lowered. -/
theorem of_lowerBehind_eq (h : lowerBehind count text = p ++ x :: out)
    (hx : isWordChar x = false) (short : count + p.length < 10) :
    ∃ more, text = p ++ x :: more ∧ out = lowerBehind 0 more := by
  induction text generalizing p count with
  | nil => exact absurd h (by simp [lowerBehind])
  | cons c text ih =>
    by_cases loud : isCapital c = true ∧ 10 ≤ count + leadingCapitals (c :: text)
    · have word := isWordChar_of_lowerBehind h (by omega)
      exact absurd (hx.symm.trans word) Bool.false_ne_true
    · rw [lowerBehind, lowered, if_neg loud, List.singleton_append] at h
      cases p with
      | nil =>
        obtain ⟨rfl, rfl⟩ := List.cons.inj h
        rw [isCapital_of_not_isWordChar hx, if_neg Bool.false_ne_true]
        exact ⟨text, rfl, rfl⟩
      | cons d p =>
        obtain ⟨rfl, behind⟩ := List.cons.inj h
        rw [List.length_cons] at short
        obtain ⟨more, rfl, hout⟩ := ih behind (by split <;> omega)
        exact ⟨more, rfl, hout⟩

/-- Wherever a lowered text has a character that is no word character, the text has it. -/
theorem exists_of_lowerBehind_eq (h : lowerBehind count text = p ++ x :: out)
    (hx : isWordChar x = false) : ∃ q more, text = q ++ x :: more ∧ out = lowerBehind 0 more := by
  induction text generalizing p count with
  | nil => exact absurd h (by simp [lowerBehind])
  | cons c text ih =>
    rw [lowerBehind] at h
    have behind : ∀ r, lowerBehind (if isCapital c then count + 1 else 0) text = r ++ x :: out →
        ∃ q more, c :: text = q ++ x :: more ∧ out = lowerBehind 0 more := by
      intro r hr
      obtain ⟨q, more, rfl, hout⟩ := ih hr
      exact ⟨c :: q, more, rfl, hout⟩
    rcases List.append_eq_append_iff.mp h with ⟨rest, -, hrest⟩ | ⟨rest, hrest, hout⟩
    · exact behind rest hrest
    · cases rest with
      | nil => exact behind [] hout.symm
      | cons y rest =>
        obtain ⟨rfl, rfl⟩ := List.cons.inj hout
        have written : x ∈ lowered count c text := by
          rw [hrest]
          exact List.mem_append_right p List.mem_cons_self
        cases hc : isCapital c with
        | true =>
          have word := isWordChar_of_mem_lowered hc written
          exact absurd (hx.symm.trans word) Bool.false_ne_true
        | false =>
          rw [lowered_of_other hc] at hrest
          obtain ⟨rfl, hrest⟩ : p = [] ∧ [c] = x :: rest := by
            cases p with
            | nil => exact ⟨rfl, hrest⟩
            | cons d p => exact absurd hrest (by simp)
          obtain ⟨rfl, rfl⟩ := List.cons.inj hrest
          rw [if_neg Bool.false_ne_true]
          exact ⟨[], text, rfl, rfl⟩

end Parley.Filter
