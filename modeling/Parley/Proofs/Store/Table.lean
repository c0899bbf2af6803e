import Mathlib.Data.List.Nodup
import Parley.Store.Table

/-!
# Laws of tables

Writing a row changes what is found under its key and nothing else. Keys stay distinct, and then
dropping rows drops exactly what was found under their keys.
-/

namespace Parley.Table

variable {α κ : Type} [DecidableEq κ] {key : α → κ} {k : κ} {row found : α} {rows : List α}

theorem find?_cons (key : α → κ) (k : κ) (row : α) (rows : List α) :
    find? key k (row :: rows) = if key row = k then some row else find? key k rows := by
  by_cases h : key row = k
  · rw [if_pos h, find?, List.find?_cons_of_pos (by simpa using h)]
  · rw [if_neg h, find?, List.find?_cons_of_neg (by simpa using h), find?]

theorem key_of_find? (h : find? key k rows = some found) : key found = k := by
  simpa using List.find?_some h

theorem find?_eq_none_iff : find? key k rows = none ↔ k ∉ rows.map key := by
  rw [find?, List.find?_eq_none]
  simp only [beq_iff_eq, List.mem_map, not_exists, not_and]

theorem mem_of_find? (h : find? key k rows = some found) : found ∈ rows :=
  List.mem_of_find?_eq_some h

/-- Where keys are distinct, a row is what is found under its key. -/
theorem mem_iff_find?_eq_some (distinct : (rows.map key).Nodup) :
    row ∈ rows ↔ find? key (key row) rows = some row := by
  refine ⟨fun listed => ?_, mem_of_find?⟩
  induction rows with
  | nil => exact absurd listed List.not_mem_nil
  | cons other rows ih =>
    rw [List.map_cons, List.nodup_cons] at distinct
    rw [find?_cons]
    rcases List.mem_cons.mp listed with rfl | listed
    · rw [if_pos rfl]
    · have apart : key other ≠ key row := by
        intro same
        exact distinct.1 (same ▸ List.mem_map_of_mem listed)
      rw [if_neg apart, ih distinct.2 listed]

theorem find?_put_self (row : α) (rows : List α) :
    find? key (key row) (put key row rows) = some row := by
  induction rows with
  | nil => rw [put, find?_cons, if_pos rfl]
  | cons other rows ih =>
    rw [put]
    split
    · rw [find?_cons, if_pos rfl]
    · next h => rw [find?_cons, if_neg h, ih]

theorem find?_put_of_ne (h : key row ≠ k) :
    find? key k (put key row rows) = find? key k rows := by
  induction rows with
  | nil => rw [put, find?_cons, if_neg h]
  | cons other rows ih =>
    rw [put]
    split
    · next same => rw [find?_cons, find?_cons, if_neg h, if_neg (same ▸ h)]
    · rw [find?_cons, find?_cons, ih]

theorem mem_put (h : found ∈ put key row rows) : found = row ∨ found ∈ rows := by
  induction rows with
  | nil => exact .inl (List.mem_singleton.mp h)
  | cons other rows ih =>
    rw [put] at h
    split at h
    · exact (List.mem_cons.mp h).imp_right (List.mem_cons_of_mem other)
    · rcases List.mem_cons.mp h with rfl | h
      · exact .inr List.mem_cons_self
      · exact (ih h).imp_right (List.mem_cons_of_mem other)

/-- A row of a new key comes last. -/
theorem put_of_notMem (h : key row ∉ rows.map key) : put key row rows = rows ++ [row] := by
  induction rows with
  | nil => rfl
  | cons other rows ih =>
    rw [List.map_cons, List.mem_cons, not_or] at h
    rw [put, if_neg (Ne.symm h.1), ih h.2]
    rfl

theorem map_put_of_mem (h : key row ∈ rows.map key) :
    (put key row rows).map key = rows.map key := by
  induction rows with
  | nil => exact absurd h List.not_mem_nil
  | cons other rows ih =>
    rw [put]
    split
    · next same => rw [List.map_cons, List.map_cons, same]
    · next other_key =>
      rw [List.map_cons, List.map_cons, ih]
      exact (List.mem_cons.mp h).resolve_left (Ne.symm other_key)

theorem nodup_put (h : (rows.map key).Nodup) : ((put key row rows).map key).Nodup := by
  by_cases listed : key row ∈ rows.map key
  · rwa [map_put_of_mem listed]
  · rw [put_of_notMem listed, List.map_append, List.map_singleton, ← List.concat_eq_append]
    exact h.concat listed

/-- Writing a row adds at most the row to those of a kind. -/
theorem countP_put_le (row : α) (rows : List α) (p : α → Bool) :
    (put key row rows).countP p ≤ rows.countP p + if p row then 1 else 0 := by
  induction rows with
  | nil => simp [put]
  | cons other rows ih =>
    rw [put]
    split
    · rw [List.countP_cons, List.countP_cons]
      omega
    · rw [List.countP_cons, List.countP_cons]
      omega

variable {change : α → α}

/-- A row that is not there is not changed. -/
theorem modify_of_none (missing : (modify key k change rows).1 = none) :
    (modify key k change rows).2 = rows := by
  rw [modify] at missing ⊢
  cases found : find? key k rows with
  | none => rfl
  | some row => simp [found] at missing

theorem find?_modify_self (kept : ∀ row, key (change row) = key row) :
    find? key k (modify key k change rows).2 = (find? key k rows).map change := by
  rw [modify]
  cases h : find? key k rows with
  | none => exact h
  | some row =>
    have same : key (change row) = k := (kept row).trans (key_of_find? h)
    rw [← same]
    exact find?_put_self (change row) rows

theorem find?_modify_of_ne (kept : ∀ row, key (change row) = key row) {other : κ} (h : k ≠ other) :
    find? key other (modify key k change rows).2 = find? key other rows := by
  rw [modify]
  cases found : find? key k rows with
  | none => rfl
  | some row =>
    have same : key (change row) = k := (kept row).trans (key_of_find? found)
    exact find?_put_of_ne (same.symm ▸ h)

theorem mem_modify (h : found ∈ (modify key k change rows).2) :
    found ∈ rows ∨ ∃ row ∈ rows, found = change row := by
  rw [modify] at h
  cases listed : find? key k rows with
  | none =>
    rw [listed] at h
    exact .inl h
  | some row =>
    rw [listed] at h
    rcases mem_put h with rfl | kept
    · exact .inr ⟨row, mem_of_find? listed, rfl⟩
    · exact .inl kept

/-- A change to something of another kind adds nothing to those of a kind. -/
theorem countP_modify_le {p : α → Bool} (other : ∀ row, p (change row) = false) :
    (modify key k change rows).2.countP p ≤ rows.countP p := by
  rw [modify]
  cases find? key k rows with
  | none => exact Nat.le_refl _
  | some row =>
    have written : (put key (change row) rows).countP p ≤
        rows.countP p + if p (change row) then 1 else 0 := countP_put_le (change row) rows p
    rw [other row] at written
    exact written

theorem nodup_modify (h : (rows.map key).Nodup) :
    ((modify key k change rows).2.map key).Nodup := by
  rw [modify]
  cases find? key k rows with
  | none => exact h
  | some row => exact nodup_put h

/-- Where keys are distinct, one row is changed. -/
theorem modify_eq_map (kept : ∀ row, key (change row) = key row) (distinct : (rows.map key).Nodup) :
    (modify key k change rows).2 = rows.map fun row => if key row = k then change row else row := by
  induction rows with
  | nil => rfl
  | cons row rows ih =>
    rw [List.map_cons, List.nodup_cons] at distinct
    rw [List.map_cons]
    by_cases same : key row = k
    · have others : rows.map (fun row => if key row = k then change row else row) = rows.map id :=
        List.map_congr_left fun other listed => if_neg fun equal : key other = k => by
          rw [same, ← equal] at distinct
          exact distinct.1 (List.mem_map_of_mem listed)
      rw [modify, find?_cons, if_pos same, if_pos same, others, List.map_id]
      exact if_pos (kept row).symm
    · rw [if_neg same, ← ih distinct.2, modify, modify, find?_cons, if_neg same]
      cases listed : find? key k rows with
      | none => rfl
      | some found =>
        have other : key row ≠ key (change found) := by
          rw [kept, key_of_find? listed]
          exact same
        exact if_neg other

section Map

variable {β : Type} {f : α → β} {other : β → κ}

theorem find?_map (same : ∀ row, other (f row) = key row) :
    find? other k (rows.map f) = (find? key k rows).map f := by
  rw [find?, find?, List.find?_map]
  refine congrArg (Option.map f) (congrArg (List.find? · rows) (funext fun row => ?_))
  exact congrArg (· == k) (same row)

theorem map_put (same : ∀ row, other (f row) = key row) :
    (put key row rows).map f = put other (f row) (rows.map f) := by
  induction rows with
  | nil => rfl
  | cons first rows ih =>
    rw [put, List.map_cons, put, same, same]
    split
    · rfl
    · rw [List.map_cons, ih]

theorem map_modify (f : α → β) (same : ∀ row, other (f row) = key row) {changeToo : β → β}
    (alike : ∀ row, f (change row) = changeToo (f row)) :
    (modify key k change rows).2.map f = (modify other k changeToo (rows.map f)).2 := by
  rw [modify, modify, find?_map same]
  cases find? key k rows with
  | none => rfl
  | some row => exact (map_put same).trans (by rw [alike]; rfl)

end Map

theorem find?_filter (distinct : (rows.map key).Nodup) (p : α → Bool) :
    find? key k (rows.filter p) = (find? key k rows).filter p := by
  induction rows with
  | nil => rfl
  | cons row rows ih =>
    rw [List.map_cons, List.nodup_cons] at distinct
    rw [find?_cons]
    cases hp : p row with
    | true =>
      rw [List.filter_cons_of_pos hp, find?_cons, ih distinct.2]
      split
      · rw [Option.filter_some, if_pos hp]
      · rfl
    | false =>
      rw [List.filter_cons_of_neg (by simp [hp]), ih distinct.2]
      split
      · next same =>
        have none_found : find? key k rows = none :=
          find?_eq_none_iff.mpr (same ▸ distinct.1)
        rw [none_found, Option.filter_some, if_neg (by simp [hp])]
        rfl
      · rfl

omit [DecidableEq κ] in
theorem nodup_filter (distinct : (rows.map key).Nodup) (p : α → Bool) :
    ((rows.filter p).map key).Nodup :=
  distinct.sublist (List.filter_sublist.map key)

end Parley.Table
