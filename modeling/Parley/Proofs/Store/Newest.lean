import Parley.Store.Basic

/-!
# Newest rows

Instants are ordered as their seconds are, and then as their parts of a second. The newest of some
rows is one of them, and none of them is newer.
-/

namespace Parley

namespace Calendar.Instant

theorem lt_def {a b : Instant} :
    a < b ↔ a.seconds < b.seconds ∨ (a.seconds = b.seconds ∧ a.nanos < b.nanos) := Iff.rfl

theorem le_def {a b : Instant} :
    a ≤ b ↔ a.seconds < b.seconds ∨ (a.seconds = b.seconds ∧ a.nanos ≤ b.nanos) := Iff.rfl

theorem le_refl (a : Instant) : a ≤ a := .inr ⟨rfl, Nat.le_refl _⟩

theorem lt_irrefl (a : Instant) : ¬ a < a := by
  rw [lt_def]
  omega

theorem le_trans {a b c : Instant} (first : a ≤ b) (second : b ≤ c) : a ≤ c := by
  rw [le_def] at *
  omega

theorem le_of_lt {a b : Instant} (h : a < b) : a ≤ b := by
  rw [lt_def] at h
  rw [le_def]
  omega

theorem le_of_not_lt {a b : Instant} (h : ¬ a < b) : b ≤ a := by
  rw [lt_def] at h
  rw [le_def]
  omega

theorem not_le {a b : Instant} : ¬ a ≤ b ↔ b < a := by
  rw [le_def, lt_def]
  omega

theorem lt_of_le_of_lt {a b c : Instant} (first : a ≤ b) (second : b < c) : a < c := by
  rw [le_def] at first
  rw [lt_def] at *
  omega

theorem lt_or_eq_of_le {a b : Instant} (h : a ≤ b) : a < b ∨ a = b := by
  obtain ⟨seconds, nanos⟩ := a
  obtain ⟨seconds', nanos'⟩ := b
  rw [le_def] at h
  rw [lt_def, mk.injEq]
  dsimp only at *
  omega

theorem ofMillis_le {first second : Nat} (h : first ≤ second) :
    ofMillis first ≤ ofMillis second := by
  rw [le_def, ofMillis, ofMillis]
  dsimp only
  omega

end Calendar.Instant

namespace Store

open Calendar (Instant)

variable {α : Type} {createdAt : α → Instant} {rows : List α} {best : α}

theorem newest?_eq_none_iff : newest? createdAt rows = none ↔ rows = [] := by
  cases rows with
  | nil => simp [newest?]
  | cons row rows =>
    rw [newest?]
    cases newest? createdAt rows with
    | none => simp
    | some best => simp; split <;> simp

theorem mem_of_newest? (h : newest? createdAt rows = some best) : best ∈ rows := by
  induction rows generalizing best with
  | nil => exact absurd h (by simp [newest?])
  | cons row rows ih =>
    rw [newest?] at h
    cases later : newest? createdAt rows with
    | none =>
      rw [later] at h
      exact Option.some.inj h ▸ List.mem_cons_self
    | some other =>
      simp only [later] at h
      split at h
      · exact Option.some.inj h ▸ List.mem_cons_self
      · exact List.mem_cons_of_mem _ (ih (later.trans h))

/-- No row is newer than the newest. -/
theorem le_newest? (h : newest? createdAt rows = some best) :
    ∀ row ∈ rows, createdAt row ≤ createdAt best := by
  induction rows generalizing best with
  | nil => exact fun row listed => absurd listed List.not_mem_nil
  | cons row rows ih =>
    rw [newest?] at h
    cases later : newest? createdAt rows with
    | none =>
      rw [later] at h
      obtain rfl : row = best := Option.some.inj h
      rw [newest?_eq_none_iff.mp later]
      intro other listed
      rw [List.mem_singleton.mp listed]
      exact Instant.le_refl _
    | some other =>
      simp only [later] at h
      have bound := ih later
      split at h
      · next newer =>
        obtain rfl : row = best := Option.some.inj h
        intro next listed
        rcases List.mem_cons.mp listed with rfl | listed
        · exact Instant.le_refl _
        · exact Instant.le_trans (bound next listed) (Instant.le_of_lt newer)
      · next notNewer =>
        obtain rfl : other = best := Option.some.inj h
        intro next listed
        rcases List.mem_cons.mp listed with rfl | listed
        · exact Instant.le_of_not_lt notNewer
        · exact bound next listed

end Store

end Parley
