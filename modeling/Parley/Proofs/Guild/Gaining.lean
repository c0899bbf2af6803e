import Mathlib.Algebra.BigOperators.Group.List.Basic
import Mathlib.Algebra.Ring.Int.Parity
import Mathlib.Tactic.Linarith
import Mathlib.Tactic.Ring
import Parley.Guild.Progression

/-!
# The order of gains

One gain raises a guild by one level at most, so a large gain leaves more experience behind than the
new level takes. Gains of up to two levels' worth do not: the experience stays below the threshold of
its level. Then level and experience can be told from all the experience that was ever gained, and
the order of the gains does not matter.
-/

namespace Parley

namespace Progression

variable {level experience amount perLevel : Int}

theorem oldLevel_gain : (gain level experience amount perLevel).oldLevel = level := by
  rw [gain]
  split <;> rfl

/-- A gain raises by one level, or not at all. -/
theorem newLevel_gain (level experience amount perLevel : Int) :
    (gain level experience amount perLevel).newLevel = level +
      if (gain level experience amount perLevel).leveledUp then 1 else 0 := by
  rw [gain]
  split
  · rw [leveledUp, if_pos (decide_eq_true (Int.lt_succ level))]
  · rw [leveledUp, if_neg (by simp)]
    exact (Int.add_zero level).symm

end Progression

/-- How far a guild has come. -/
structure Rank where
  level : Int
  experience : Int
  deriving DecidableEq, Repr

namespace Rank

/-- The rank after a gain of experience. -/
def gain (perLevel : Int) (rank : Rank) (amount : Int) : Rank :=
  let p := Progression.gain rank.level rank.experience amount perLevel
  ⟨p.newLevel, p.experience⟩

/-- The rank after one gain and the next. -/
def gainAll (perLevel : Int) (rank : Rank) (amounts : List Int) : Rank :=
  amounts.foldl (gain perLevel) rank

/-- All the experience that leads to a rank from the first level. -/
def total (perLevel : Int) (rank : Rank) : Int :=
  perLevel * rank.level * (rank.level - 1) / 2 + rank.experience

/-- There is less experience than leads out of the level. -/
structure Settled (perLevel : Int) (rank : Rank) : Prop where
  level : 1 ≤ rank.level
  nonneg : 0 ≤ rank.experience
  below : rank.experience < Progression.threshold rank.level perLevel

variable {perLevel amount : Int} {amounts : List Int} {rank other : Rank}

theorem threshold_of_one_le {level : Int} (h : 1 ≤ level) :
    Progression.threshold level perLevel = level * perLevel := by
  rw [Progression.threshold, max_eq_left h]

/-- A gain adds to the experience, or it raises the level and the threshold is paid. -/
theorem gain_cases (perLevel : Int) (rank : Rank) (amount : Int) :
    let needed := Progression.threshold rank.level perLevel
    (0 < needed ∧ needed ≤ rank.experience + amount ∧
      rank.gain perLevel amount = ⟨rank.level + 1, rank.experience + amount - needed⟩) ∨
    (¬ (0 < needed ∧ needed ≤ rank.experience + amount) ∧
      rank.gain perLevel amount = ⟨rank.level, rank.experience + amount⟩) := by
  intro needed
  by_cases enough : 0 < needed ∧ needed ≤ rank.experience + amount
  · refine .inl ⟨enough.1, enough.2, ?_⟩
    rw [gain, Progression.gain, if_pos enough]
  · refine .inr ⟨enough, ?_⟩
    rw [gain, Progression.gain, if_neg enough]

theorem two_mul_total (perLevel : Int) (rank : Rank) :
    2 * rank.total perLevel =
      perLevel * (rank.level * (rank.level - 1)) + 2 * rank.experience := by
  have even : Even (perLevel * rank.level * (rank.level - 1)) := by
    rw [mul_assoc]
    exact (Int.even_mul_pred_self rank.level).mul_left perLevel
  rw [total, mul_add, Int.two_mul_ediv_two_of_even even, mul_assoc]

/-- A gain is never lost, and nothing is gained besides. -/
theorem total_gain (started : 1 ≤ rank.level) (amount : Int) :
    (rank.gain perLevel amount).total perLevel = rank.total perLevel + amount := by
  have before := two_mul_total perLevel rank
  have after := two_mul_total perLevel (rank.gain perLevel amount)
  rcases gain_cases perLevel rank amount with ⟨-, -, same⟩ | ⟨-, same⟩
  · rw [threshold_of_one_le started] at same
    rw [same] at after ⊢
    have paid : perLevel * ((rank.level + 1) * (rank.level + 1 - 1)) =
        perLevel * (rank.level * (rank.level - 1)) + 2 * (rank.level * perLevel) := by ring
    dsimp only at after
    rw [paid] at after
    omega
  · rw [same] at after ⊢
    dsimp only at after
    omega

/-- A settled rank is the only one with its total. -/
theorem Settled.eq_of_total_eq (positive : 1 ≤ perLevel) (settled : rank.Settled perLevel)
    (settledToo : other.Settled perLevel) (same : rank.total perLevel = other.total perLevel) :
    rank = other := by
  -- A rank of a lower level has a lower total, even with all but the last of its experience.
  have not_lower : ∀ {a b : Rank}, a.Settled perLevel → b.Settled perLevel →
      a.total perLevel = b.total perLevel → ¬ a.level < b.level := by
    intro a b ha hb equal lower
    have below := ha.below
    rw [threshold_of_one_le ha.level] at below
    have step : (a.level + 1) * a.level ≤ b.level * (b.level - 1) :=
      mul_le_mul (by omega) (by omega) (by linarith [ha.level]) (by linarith [hb.level])
    have scaled := mul_le_mul_of_nonneg_left step (show 0 ≤ perLevel by omega)
    have left := two_mul_total perLevel a
    have right := two_mul_total perLevel b
    have expand : perLevel * ((a.level + 1) * a.level) =
        perLevel * (a.level * (a.level - 1)) + 2 * (a.level * perLevel) := by ring
    linarith [hb.nonneg]
  have level : rank.level = other.level := by
    have := not_lower settled settledToo same
    have := not_lower settledToo settled same.symm
    omega
  have experience : rank.experience = other.experience := by
    rw [total, total, level] at same
    omega
  cases rank
  cases other
  exact congrArg₂ Rank.mk level experience

/-- A gain of up to two levels' worth leaves the rank settled. -/
theorem Settled.gain (settled : rank.Settled perLevel) (positive : 1 ≤ perLevel)
    (nonneg : 0 ≤ amount) (small : amount ≤ 2 * perLevel) :
    (rank.gain perLevel amount).Settled perLevel := by
  have level := settled.level
  have experience := settled.nonneg
  have below := settled.below
  rcases gain_cases perLevel rank amount with ⟨-, enough, same⟩ | ⟨short, same⟩
  · -- What is left is less than the gain, and the next level takes two levels' worth or more.
    have next : 2 * perLevel ≤ Progression.threshold (rank.level + 1) perLevel := by
      rw [threshold_of_one_le (by omega)]
      exact mul_le_mul_of_nonneg_right (by omega) (by omega)
    have left : 0 ≤ rank.experience + amount - Progression.threshold rank.level perLevel ∧
        rank.experience + amount - Progression.threshold rank.level perLevel <
          Progression.threshold (rank.level + 1) perLevel := by omega
    rw [same]
    exact ⟨Int.le_add_one level, left.1, left.2⟩
  · have reached : 0 ≤ rank.experience + amount ∧
        rank.experience + amount < Progression.threshold rank.level perLevel := by omega
    rw [same]
    exact ⟨level, reached.1, reached.2⟩

theorem Settled.gainAll (settled : rank.Settled perLevel) (positive : 1 ≤ perLevel)
    (small : ∀ amount ∈ amounts, 1 ≤ amount ∧ amount ≤ 2 * perLevel) :
    (rank.gainAll perLevel amounts).Settled perLevel := by
  induction amounts generalizing rank with
  | nil => exact settled
  | cons amount rest ih =>
    obtain ⟨here, later⟩ := List.forall_mem_cons.mp small
    exact ih (settled.gain positive (by omega) here.2) later

theorem Settled.total_gainAll (settled : rank.Settled perLevel) (positive : 1 ≤ perLevel)
    (small : ∀ amount ∈ amounts, 1 ≤ amount ∧ amount ≤ 2 * perLevel) :
    (rank.gainAll perLevel amounts).total perLevel = rank.total perLevel + amounts.sum := by
  induction amounts generalizing rank with
  | nil => exact (add_zero _).symm
  | cons amount rest ih =>
    obtain ⟨here, later⟩ := List.forall_mem_cons.mp small
    have next := ih (settled.gain positive (by omega) here.2) later
    rw [total_gain settled.level, add_assoc, ← List.sum_cons] at next
    exact next

/-- Gains of up to two levels' worth lead to the same rank in any order. It is settled, and all of
what was gained is in it. -/
theorem gainAll_eq_of_perm (positive : 1 ≤ perLevel) (settled : rank.Settled perLevel)
    (small : ∀ amount ∈ amounts, 1 ≤ amount ∧ amount ≤ 2 * perLevel) {reordered : List Int}
    (perm : reordered.Perm amounts) :
    rank.gainAll perLevel reordered = rank.gainAll perLevel amounts ∧
      (rank.gainAll perLevel amounts).total perLevel = rank.total perLevel + amounts.sum ∧
      (rank.gainAll perLevel amounts).Settled perLevel := by
  have smallToo : ∀ amount ∈ reordered, 1 ≤ amount ∧ amount ≤ 2 * perLevel :=
    fun amount listed => small amount (perm.mem_iff.mp listed)
  have settledThen := settled.gainAll positive small
  have summed := settled.total_gainAll positive small
  refine ⟨?_, summed, settledThen⟩
  refine (settled.gainAll positive smallToo).eq_of_total_eq positive settledThen ?_
  rw [settled.total_gainAll positive smallToo, summed, perm.sum_eq]

/-- Three gains, one of them as large as it may be, in two orders. -/
theorem gainAll_eq_of_perm_three :
    gainAll 1000 ⟨1, 950⟩ [2000, 50, 100] = gainAll 1000 ⟨1, 950⟩ [100, 2000, 50] ∧
      (gainAll 1000 ⟨1, 950⟩ [100, 2000, 50]).total 1000 = total 1000 ⟨1, 950⟩ + 2150 ∧
      gainAll 1000 ⟨1, 950⟩ [100, 2000, 50] = ⟨3, 100⟩ := by
  have settled : Settled 1000 ⟨1, 950⟩ := ⟨by decide, by decide, by decide⟩
  have small : ∀ amount ∈ [100, 2000, 50], 1 ≤ amount ∧ amount ≤ 2 * (1000 : Int) := by decide
  have perm : ([2000, 50, 100] : List Int).Perm [100, 2000, 50] := by decide
  obtain ⟨same, summed, -⟩ := gainAll_eq_of_perm (by decide) settled small perm
  exact ⟨same, summed, by decide⟩

/-- Where a gain is larger, the order matters. -/
example : gainAll 1000 ⟨1, 0⟩ [5000, 1] ≠ gainAll 1000 ⟨1, 0⟩ [1, 5000] := by decide

end Rank

end Parley
