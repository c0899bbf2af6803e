import Mathlib.Data.List.Basic
import Parley.Filter.Runs

/-!
# Shouted stretches

The stretches of a text joined are the text, and capitals in a row lie within one stretch. So
lowering finds a shout exactly when ten capitals stand in a row, and is the identity when none do.
-/

namespace Parley.Filter

open Letter (isCapital)

variable {text stretch : List Char} {c : Char} {capital : Bool}
  {rest : List (Bool × List Char)}

/-- A character put before a text opens its first stretch, joins the first stretch of the text, or
stands alone before it. -/
theorem capitalStretches_cons (c : Char) (text : List Char) :
    (text = [] ∧ capitalStretches (c :: text) = [(isCapital c, [c])]) ∨
    (∃ stretch rest, capitalStretches text = (isCapital c, stretch) :: rest ∧
      capitalStretches (c :: text) = (isCapital c, c :: stretch) :: rest) ∨
    (∃ stretch rest, capitalStretches text = (!isCapital c, stretch) :: rest ∧
      capitalStretches (c :: text) = (isCapital c, [c]) :: (!isCapital c, stretch) :: rest) := by
  cases hs : capitalStretches text with
  | nil =>
    refine .inl ⟨?_, by simp only [capitalStretches, hs]⟩
    cases text with
    | nil => rfl
    | cons d text =>
      rw [capitalStretches] at hs
      split at hs
      · exact absurd hs (by simp)
      · split at hs <;> exact absurd hs (by simp)
  | cons first rest =>
    obtain ⟨sort, stretch⟩ := first
    by_cases hc : isCapital c = sort
    · subst hc
      exact .inr (.inl ⟨stretch, rest, rfl, by simp only [capitalStretches, hs, if_pos]⟩)
    · obtain rfl : sort = !isCapital c := Bool.eq_not.mpr (Ne.symm hc)
      exact .inr (.inr ⟨stretch, rest, rfl, by simp only [capitalStretches, hs, if_neg hc]⟩)

theorem flatMap_capitalStretches (text : List Char) :
    (capitalStretches text).flatMap Prod.snd = text := by
  induction text with
  | nil => rfl
  | cons c text ih =>
    rcases capitalStretches_cons c text with ⟨rfl, same⟩ | ⟨stretch, rest, hs, same⟩ |
      ⟨stretch, rest, hs, same⟩
    · rw [same]
      rfl
    · rw [hs, List.flatMap_cons] at ih
      rw [same, List.flatMap_cons, List.cons_append, ih]
    · rw [hs] at ih
      rw [same, List.flatMap_cons, ih]
      rfl

theorem infix_of_mem_capitalStretches (h : (capital, stretch) ∈ capitalStretches text) :
    stretch <:+: text := by
  have joined := flatMap_capitalStretches text
  rw [List.flatMap_def] at joined
  exact joined ▸ List.infix_of_mem_flatten (List.mem_map_of_mem (f := Prod.snd) h)

/-- A stretch holds characters of one sort. -/
theorem isCapital_of_mem_stretch (h : (capital, stretch) ∈ capitalStretches text) :
    ∀ c ∈ stretch, isCapital c = capital := by
  induction text generalizing capital stretch with
  | nil => exact absurd h List.not_mem_nil
  | cons d text ih =>
    rcases capitalStretches_cons d text with ⟨rfl, same⟩ | ⟨begun, rest, hs, same⟩ |
      ⟨begun, rest, hs, same⟩
    · rw [same, List.mem_singleton] at h
      obtain ⟨rfl, rfl⟩ := Prod.mk.inj h
      exact fun c hc => by rw [List.mem_singleton.mp hc]
    · rw [hs] at ih
      rw [same] at h
      rcases List.mem_cons.mp h with h | h
      · obtain ⟨rfl, rfl⟩ := Prod.mk.inj h
        intro c hc
        rcases List.mem_cons.mp hc with rfl | hc
        · rfl
        · exact ih List.mem_cons_self c hc
      · exact ih (List.mem_cons_of_mem _ h)
    · rw [hs] at ih
      rw [same] at h
      rcases List.mem_cons.mp h with h | h
      · obtain ⟨rfl, rfl⟩ := Prod.mk.inj h
        exact fun c hc => by rw [List.mem_singleton.mp hc]
      · exact ih h

/-- Ten capitals in a row. -/
def Shouts (text : List Char) : Prop :=
  ∃ row, row <:+: text ∧ row.length = 10 ∧ ∀ c ∈ row, isCapital c = true

theorem first_stretch_of_prefix {row : List Char} (hrow : row ≠ [])
    (capitals : ∀ c ∈ row, isCapital c = true) (h : row <+: text) :
    ∃ stretch rest, capitalStretches text = (true, stretch) :: rest ∧
      row.length ≤ stretch.length := by
  induction row generalizing text with
  | nil => exact absurd rfl hrow
  | cons c row ih =>
    obtain ⟨after, rfl⟩ := h
    have hc : isCapital c = true := capitals c List.mem_cons_self
    rw [List.cons_append]
    cases row with
    | nil =>
      rcases capitalStretches_cons c ([] ++ after) with ⟨_, same⟩ | ⟨stretch, rest, _, same⟩ |
        ⟨stretch, rest, _, same⟩
      · exact ⟨[c], [], hc ▸ same, Nat.le_refl 1⟩
      · exact ⟨c :: stretch, rest, hc ▸ same, Nat.succ_le_succ (Nat.zero_le _)⟩
      · exact ⟨[c], _, hc ▸ same, Nat.le_refl 1⟩
    | cons d row =>
      obtain ⟨stretch, rest, hs, hle⟩ := ih (List.cons_ne_nil d row)
        (fun e he => capitals e (List.mem_cons_of_mem c he)) (List.prefix_append (d :: row) after)
      rcases capitalStretches_cons c (d :: row ++ after) with ⟨hnil, _⟩ | ⟨_, _, hs', same⟩ |
        ⟨_, _, hs', _⟩
      · exact absurd hnil (List.cons_ne_nil _ _)
      · obtain ⟨same_stretch, rfl⟩ := List.cons.inj (hs.symm.trans hs')
        obtain ⟨_, rfl⟩ := Prod.mk.inj same_stretch
        exact ⟨c :: stretch, rest, hc ▸ same, Nat.succ_le_succ hle⟩
      · rw [hs, hc] at hs'
        exact absurd hs' (by simp)

/-- A stretch stays, or becomes longer, when a character is put before the text. -/
theorem mem_capitalStretches_cons (h : (capital, stretch) ∈ capitalStretches text) :
    ∃ longer, (capital, longer) ∈ capitalStretches (c :: text) ∧
      stretch.length ≤ longer.length := by
  rcases capitalStretches_cons c text with ⟨rfl, _⟩ | ⟨begun, rest, hs, same⟩ |
    ⟨begun, rest, hs, same⟩
  · exact absurd h List.not_mem_nil
  · rw [hs, List.mem_cons] at h
    rw [same]
    rcases h with h | h
    · obtain ⟨rfl, rfl⟩ := Prod.mk.inj h
      exact ⟨c :: stretch, List.mem_cons_self, Nat.le_succ _⟩
    · exact ⟨stretch, List.mem_cons_of_mem _ h, Nat.le_refl _⟩
  · rw [hs] at h
    rw [same]
    exact ⟨stretch, List.mem_cons_of_mem _ h, Nat.le_refl _⟩

theorem exists_stretch_of_infix {row : List Char} (hrow : row ≠ [])
    (capitals : ∀ c ∈ row, isCapital c = true) (h : row <:+: text) :
    ∃ stretch, (true, stretch) ∈ capitalStretches text ∧ row.length ≤ stretch.length := by
  induction text with
  | nil => exact absurd (List.infix_nil.mp h) hrow
  | cons c text ih =>
    rcases List.infix_cons_iff.mp h with h | h
    · obtain ⟨stretch, rest, hs, hle⟩ := first_stretch_of_prefix hrow capitals h
      exact ⟨stretch, by rw [hs]; exact List.mem_cons_self, hle⟩
    · obtain ⟨stretch, listed, hle⟩ := ih h
      obtain ⟨longer, listed, hlonger⟩ := mem_capitalStretches_cons (c := c) listed
      exact ⟨longer, listed, Nat.le_trans hle hlonger⟩

theorem lowerShouts_hit_iff : (lowerShouts text).2 = true ↔ Shouts text := by
  simp only [lowerShouts, List.any_eq_true, isShout, Bool.and_eq_true, decide_eq_true_eq]
  constructor
  · rintro ⟨⟨capital, stretch⟩, listed, rfl, (long : 10 ≤ stretch.length)⟩
    have inside := infix_of_mem_capitalStretches listed
    refine ⟨stretch.take 10, (List.take_prefix 10 stretch).isInfix.trans inside, ?_, ?_⟩
    · exact List.length_take_of_le long
    · exact fun c hc => isCapital_of_mem_stretch listed c (List.mem_of_mem_take hc)
  · rintro ⟨row, inside, hlength, capitals⟩
    have hrow : row ≠ [] := by
      rintro rfl
      exact absurd hlength (by decide)
    obtain ⟨stretch, listed, hle⟩ := exists_stretch_of_infix hrow capitals inside
    exact ⟨(true, stretch), listed, rfl, Nat.le_trans (Nat.le_of_eq hlength.symm) hle⟩

theorem lowerShouts_eq_of_no_hit (h : (lowerShouts text).2 = false) :
    (lowerShouts text).1 = text := by
  simp only [lowerShouts, List.any_eq_false] at h ⊢
  calc (capitalStretches text).flatMap (fun s => if isShout s then lowerStretch s.2 else s.2)
      = (capitalStretches text).flatMap Prod.snd :=
        List.flatMap_congr fun s listed => if_neg (h s listed)
    _ = text := flatMap_capitalStretches text

end Parley.Filter
