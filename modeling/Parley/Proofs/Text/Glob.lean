import Parley.Text.Glob

/-!
# What patterns begin with

Up to its first star a pattern stands for itself, so each text that it accepts begins as it does. If
it ends with its only star, it accepts every text that begins so and goes on without a star. Behind a
star of the text nothing more may follow.
-/

namespace Parley.Glob

/-- A character that stands for itself in a pattern. -/
def IsPlain (c : Char) : Prop := c ≠ '*' ∧ c ≠ '?'

instance (c : Char) : Decidable (IsPlain c) := inferInstanceAs (Decidable (_ ∧ _))

variable {plain rest text : List Char}

theorem prefix_of_run {within : Within (plain ++ rest) none} (all : ∀ c ∈ plain, IsPlain c)
    (h : run (plain ++ rest) text none within) : plain <+: text := by
  induction plain generalizing text with
  | nil => exact List.nil_prefix
  | cons p plain ih =>
    obtain ⟨here, later⟩ := List.forall_mem_cons.mp all
    change run (p :: (plain ++ rest)) text none within = true at h
    cases text with
    | nil =>
      rw [run, List.all_cons, Bool.and_eq_true, beq_iff_eq] at h
      exact absurd h.1 here.1
    | cons c text =>
      rw [run] at h
      · by_cases same : p = c
        · rw [if_pos (.inr same)] at h
          exact same ▸ List.cons_prefix_cons.mpr ⟨rfl, ih later h⟩
        · rw [if_neg (not_or.mpr ⟨here.2, same⟩), if_neg here.1] at h
          exact absurd h Bool.false_ne_true
      · rintro _ _ _ _ ⟨⟩

theorem prefix_of_accepts {pattern topic : String} (split : pattern.toList = plain ++ rest)
    (all : ∀ c ∈ plain, IsPlain c) (h : accepts pattern topic) : plain <+: topic.toList := by
  rw [accepts] at h
  simp only [split] at h
  exact prefix_of_run all h

/-- A pattern that begins as the text does is compared from there on. -/
theorem run_append_append {pattern : List Char} (plain : List Char)
    (within : Within (plain ++ pattern) none) :
    run (plain ++ pattern) (plain ++ text) none within = run pattern text none nofun := by
  induction plain with
  | nil => rfl
  | cons c plain ih =>
    change run (c :: (plain ++ pattern)) (c :: (plain ++ text)) none within = _
    rw [run]
    · rw [if_pos (.inr rfl)]
      exact ih _
    · rintro _ _ _ _ ⟨⟩

/-- A star at the end swallows everything. -/
theorem run_nil (text : List Char) (within : Within [] (some ⟨[], text⟩)) :
    run [] text (some ⟨[], text⟩) within = true := by
  induction text with
  | nil => rw [run]; rfl
  | cons c text ih =>
    rw [run]
    exact ih _

/-- A star at the end swallows everything that does not begin with a star itself. -/
theorem run_star {text : List Char} (plain : text.head? ≠ some '*')
    (within : Within ['*'] none) : run ['*'] text none within = true := by
  cases text with
  | nil => rw [run.eq_1]; rfl
  | cons c text =>
    have other : ¬ ('*' = '?' ∨ '*' = c) := by
      rintro (⟨⟨⟩⟩ | rfl)
      exact plain rfl
    rw [run.eq_3, if_neg other, if_pos rfl]
    · exact run_nil _ _
    · rintro _ _ _ _ ⟨⟩

/-- A star of the text is taken literally, and then nothing more may follow. -/
theorem run_star_iff {text : List Char} {within : Within ['*'] none} :
    run ['*'] text none within = true ↔ text.head? ≠ some '*' ∨ text = ['*'] := by
  by_cases plain : text.head? = some '*'
  · obtain ⟨rest, rfl⟩ : ∃ rest, text = '*' :: rest := List.head?_eq_some_iff.mp plain
    rw [or_iff_right fun apart => apart plain, List.cons.injEq, and_iff_right rfl, run.eq_3,
      if_pos (.inr rfl)]
    · cases rest with
      | nil => exact iff_of_true (run.eq_1 _ _ _) rfl
      | cons c rest =>
        refine iff_of_false (ne_true_of_eq_false ?_) (List.cons_ne_nil c rest)
        refine run.eq_5 _ _ _ _ ?_
        rintro _ _ _ _ ⟨⟩
    · rintro _ _ _ _ ⟨⟩
  · exact iff_of_true (run_star plain within) (.inl plain)

/-- What a pattern with its only star at the end accepts. -/
theorem accepts_iff_of_last_star {pattern topic : String} (split : pattern.toList = plain ++ ['*'])
    (all : ∀ c ∈ plain, IsPlain c) : accepts pattern topic = true ↔
      ∃ rest, topic.toList = plain ++ rest ∧ (rest.head? ≠ some '*' ∨ rest = ['*']) := by
  have behind : ∀ rest, topic.toList = plain ++ rest → (accepts pattern topic = true ↔
      rest.head? ≠ some '*' ∨ rest = ['*']) := by
    intro rest same
    rw [accepts]
    simp only [split, same]
    rw [run_append_append]
    exact run_star_iff
  constructor
  · intro accepted
    obtain ⟨rest, same⟩ := prefix_of_accepts split all accepted
    exact ⟨rest, same.symm, (behind rest same.symm).mp accepted⟩
  · rintro ⟨rest, same, plainly⟩
    exact (behind rest same).mpr plainly

theorem accepts_append_star (start : String) {rest : String}
    (plain : rest.toList.head? ≠ some '*') : accepts (start ++ "*") (start ++ rest) = true := by
  rw [accepts]
  simp only [String.toList_append]
  rw [run_append_append]
  exact run_star plain _

end Parley.Glob
