import Mathlib.Data.List.TakeWhile
import Parley.Proofs.Filter.Lowering
import Parley.Proofs.Filter.Runs
import Parley.Proofs.Letter.Case

/-!
# Lowering twice

What lowering writes for a capital is that capital or holds none. So ten capitals that stand in a
row in a lowered text stood in a row before, in a shout, and they are still there because none of
them has a small form. Lowering once more keeps them again: the second pass changes nothing, but it
finds them.
-/

namespace Parley.Filter

open Letter (isCapital lower)

variable {text row stretch : List Char} {c d : Char} {count : Nat}

/-- A capital without a small form, such as those of the mathematical alphabets. -/
def Unlowerable (c : Char) : Prop := isCapital c = true ∧ lower c = [c]

/-- A capital that lowering writes is the one that stood there. -/
theorem kept_of_mem_lowered (written : d ∈ lowered count c text) (hd : isCapital d = true) :
    isCapital c = true ∧ lowered count c text = [c] := by
  cases hc : isCapital c with
  | false =>
    rw [lowered_of_other hc] at written
    rw [List.mem_singleton.mp written, hc] at hd
    exact absurd hd Bool.false_ne_true
  | true =>
    refine ⟨rfl, ?_⟩
    rw [lowered_of_capital hc] at written ⊢
    split at written
    · next loud =>
      rw [if_pos loud]
      rw [smallForm] at written ⊢
      split at written
      · rw [List.mem_singleton.mp written] at hd
        exact absurd hd (by decide)
      · next inner =>
        rw [if_neg inner]
        rcases Letter.lower_eq_or_not_isCapital hc with kept | small
        · exact kept
        · exact absurd ((small d written).symm.trans hd) Bool.false_ne_true
    · next quiet => rw [if_neg quiet]

theorem length_le_leadingCapitals (capitals : ∀ c ∈ row, isCapital c = true) (h : row <+: text) :
    row.length ≤ leadingCapitals text := by
  obtain ⟨after, rfl⟩ := h
  rw [leadingCapitals, List.takeWhile_append_of_pos capitals, List.length_append]
  exact Nat.le_add_right _ _

/-- A shouted capital that is kept has no small form. -/
theorem lower_eq_of_lowered (hc : isCapital c = true)
    (loud : 10 ≤ count + (leadingCapitals text + 1)) (kept : lowered count c text = [c]) :
    lower c = [c] := by
  rw [lowered_of_capital hc, if_pos loud, smallForm] at kept
  split at kept
  · next last =>
    rw [last.1] at kept
    exact absurd kept (by decide)
  · exact kept

/-- A capital that a lowered text begins with is the one that the text begins with. -/
theorem leading_of_lowerBehind (hd : isCapital d = true) (h : d :: row <+: lowerBehind count text) :
    ∃ after, text = d :: after ∧ lowered count d after = [d] ∧
      row <+: lowerBehind (count + 1) after := by
  cases text with
  | nil => exact absurd (List.prefix_nil.mp h) (List.cons_ne_nil d row)
  | cons c text =>
    rw [lowerBehind] at h
    have inLowered : d ∈ lowered count c text := by
      obtain ⟨x, more, written⟩ := List.exists_cons_of_ne_nil (lowered_ne_nil count c text)
      rw [written, List.cons_append] at h
      rw [written, (List.cons_prefix_cons.mp h).1]
      exact List.mem_cons_self
    have kept := (kept_of_mem_lowered inLowered hd).2
    obtain rfl : d = c := by
      rw [kept] at inLowered
      exact List.mem_singleton.mp inLowered
    rw [kept, hd, if_pos rfl, List.singleton_append] at h
    exact ⟨text, rfl, kept, (List.cons_prefix_cons.mp h).2⟩

theorem unlowerable_of_leading (capitals : ∀ c ∈ row, isCapital c = true)
    (long : 10 ≤ count + row.length) (h : row <+: lowerBehind count text) :
    row <+: text ∧ ∀ c ∈ row, Unlowerable c := by
  induction row generalizing count text with
  | nil => exact ⟨List.nil_prefix, fun c hc => absurd hc List.not_mem_nil⟩
  | cons d row ih =>
    obtain ⟨hd, capitals⟩ := List.forall_mem_cons.mp capitals
    obtain ⟨text, rfl, kept, behind⟩ := leading_of_lowerBehind hd h
    rw [List.length_cons] at long
    obtain ⟨before, unlowerable⟩ := ih capitals (by omega) behind
    -- The capitals of the row count towards the shout that its first one stands in.
    have loud : 10 ≤ count + (leadingCapitals text + 1) := by
      have atLeast := length_le_leadingCapitals capitals before
      omega
    refine ⟨List.cons_prefix_cons.mpr ⟨rfl, before⟩, List.forall_mem_cons.mpr ⟨?_, unlowerable⟩⟩
    exact ⟨hd, lower_eq_of_lowered hd loud kept⟩

/-- Ten capitals or more in a row of a lowered text stood in the text, and have no small form. -/
theorem unlowerable_of_row (capitals : ∀ c ∈ row, isCapital c = true) (long : 10 ≤ row.length)
    (h : row <:+: lowerBehind count text) : row <:+: text ∧ ∀ c ∈ row, Unlowerable c := by
  induction text generalizing count with
  | nil =>
    rw [lowerBehind, List.infix_nil] at h
    rw [h] at long
    exact absurd long (by decide)
  | cons c text ih =>
    have behind : row <:+: lowerBehind (if isCapital c then count + 1 else 0) text →
        row <:+: c :: text ∧ ∀ c ∈ row, Unlowerable c := by
      intro inside
      obtain ⟨inText, unlowerable⟩ := ih inside
      exact ⟨List.infix_cons inText, unlowerable⟩
    by_cases kept : isCapital c = true ∧ lowered count c text = [c]
    · rw [lowerBehind, kept.2, List.singleton_append] at h
      rcases List.infix_cons_iff.mp h with here | inside
      · have begins : row <+: lowerBehind count (c :: text) := by
          rw [lowerBehind, kept.2, List.singleton_append]
          exact here
        obtain ⟨inText, unlowerable⟩ := unlowerable_of_leading capitals (by omega) begins
        exact ⟨inText.isInfix, unlowerable⟩
      · exact behind inside
    · have apart : ∀ d ∈ lowered count c text, d ∉ row := fun d written inRow =>
        kept (kept_of_mem_lowered written (capitals d inRow))
      have alone : ¬ row <:+: lowered count c text := by
        intro inside
        obtain ⟨d, hd⟩ := List.exists_mem_of_length_pos (by omega : 0 < row.length)
        exact apart d (inside.subset hd) hd
      exact behind (infix_of_append alone (.inl apart) h)

theorem smallForm_of_unlowerable (h : Unlowerable c) (text : List Char) :
    smallForm c text = [c] := by
  rw [smallForm]
  split
  · next last =>
    have kept := h.2
    rw [last.1] at kept
    exact absurd kept (by decide)
  · exact h.2

theorem lowered_of_unlowerable (h : Unlowerable c) (count : Nat) (text : List Char) :
    lowered count c text = [c] := by
  rw [lowered, smallForm_of_unlowerable h, ite_self]

theorem prefix_lowerBehind (unlowerable : ∀ c ∈ row, Unlowerable c) (h : row <+: text) :
    row <+: lowerBehind count text := by
  induction row generalizing count text with
  | nil => exact List.nil_prefix
  | cons d row ih =>
    obtain ⟨hd, unlowerable⟩ := List.forall_mem_cons.mp unlowerable
    obtain ⟨after, rfl⟩ := h
    rw [List.cons_append, lowerBehind, lowered_of_unlowerable hd, List.singleton_append]
    exact List.cons_prefix_cons.mpr ⟨rfl, ih unlowerable (List.prefix_append row after)⟩

theorem infix_lowerBehind (unlowerable : ∀ c ∈ row, Unlowerable c) (h : row <:+: text) :
    row <:+: lowerBehind count text := by
  induction text generalizing count with
  | nil =>
    rw [List.infix_nil.mp h]
    exact List.nil_infix
  | cons c text ih =>
    rcases List.infix_cons_iff.mp h with here | inside
    · exact (prefix_lowerBehind unlowerable here).isInfix
    · rw [lowerBehind]
      exact List.infix_append_of_infix_right (ih inside)

theorem lowerStretch_of_unlowerable (unlowerable : ∀ c ∈ stretch, Unlowerable c) :
    lowerStretch stretch = stretch := by
  induction stretch with
  | nil => rfl
  | cons c stretch ih =>
    obtain ⟨hc, unlowerable⟩ := List.forall_mem_cons.mp unlowerable
    cases stretch with
    | nil =>
      have last : smallForm c [] = lowerStretch [c] := smallForm_of_last rfl
      exact last.symm.trans (smallForm_of_unlowerable hc [])
    | cons d stretch =>
      rw [lowerStretch_cons (List.cons_ne_nil d stretch), hc.2, ih unlowerable]
      rfl

/-- Lowering changes nothing when the capitals that it would lower have no small form. -/
theorem lowerShouts_eq_self (kept : ∀ row, row <:+: text → (∀ c ∈ row, isCapital c = true) →
    10 ≤ row.length → ∀ c ∈ row, Unlowerable c) : (lowerShouts text).1 = text := by
  calc (lowerShouts text).1
      = (capitalStretches text).flatMap Prod.snd := by
        refine List.flatMap_congr fun ⟨capital, stretch⟩ listed => ?_
        split
        · next loud =>
          simp only [isShout, Bool.and_eq_true, decide_eq_true_eq] at loud
          obtain ⟨rfl, long⟩ := loud
          refine lowerStretch_of_unlowerable ?_
          exact kept stretch (infix_of_mem_capitalStretches listed)
            (isCapital_of_mem_stretch listed) long
        · rfl
    _ = text := flatMap_capitalStretches text

/-- Ten capitals without small forms in a row. -/
def ShoutsUnlowerably (text : List Char) : Prop :=
  ∃ row, row <:+: text ∧ row.length = 10 ∧ ∀ c ∈ row, Unlowerable c

theorem shouts_lowerShouts_iff : Shouts (lowerShouts text).1 ↔ ShoutsUnlowerably text := by
  rw [lowerShouts_eq_lowerBehind]
  constructor
  · rintro ⟨row, inside, length, capitals⟩
    obtain ⟨inText, unlowerable⟩ := unlowerable_of_row capitals (Nat.le_of_eq length.symm) inside
    exact ⟨row, inText, length, unlowerable⟩
  · rintro ⟨row, inside, length, unlowerable⟩
    exact ⟨row, infix_lowerBehind unlowerable inside, length, fun c hc => (unlowerable c hc).1⟩

/-- For every text: lowering a lowered text changes nothing. There are no ten capitals in a row in
it, and lowering it finds none, exactly when no ten capitals without small forms stand in a row in
the text. -/
theorem lowerShouts_again_iff (text : List Char) :
    let out := (lowerShouts text).1
    (lowerShouts out).1 = out ∧
      (¬ Shouts out ∧ lowerShouts out = (out, false) ↔ ¬ ShoutsUnlowerably text) := by
  intro out
  have same : (lowerShouts out).1 = out := by
    refine lowerShouts_eq_self fun row inside capitals long => ?_
    have lowered : row <:+: lowerBehind 0 text := lowerShouts_eq_lowerBehind text ▸ inside
    exact (unlowerable_of_row capitals long lowered).2
  refine ⟨same, ?_⟩
  rw [← shouts_lowerShouts_iff]
  constructor
  · exact And.left
  · intro quiet
    refine ⟨quiet, Prod.ext same ?_⟩
    rw [← Bool.not_eq_true, lowerShouts_hit_iff]
    exact quiet

/-- Ten bold letters of the mathematical alphabets are capitals, and there are no small ones that
they would become. -/
theorem shouts_of_bold_capitals :
    let text := "𝐀𝐁𝐂𝐃𝐄𝐅𝐆𝐇𝐈𝐉".toList
    let out := (lowerShouts text).1
    Shouts out ∧ lowerShouts out = (out, true) := by
  intro text out
  have found : lowerShouts out = (out, true) := by decide +kernel
  exact ⟨lowerShouts_hit_iff.mp (congrArg Prod.snd found), found⟩

end Parley.Filter
