import Mathlib.Data.List.Basic
import Mathlib.Data.List.Chain
import Parley.Filter.Runs

/-!
# Long runs

The runs of a text written out one after the other are the text, and equal characters in a row lie
within one run. So shrinking finds a run exactly when five equal characters stand in a row, and is
the identity when none do.

A text is cut into maximal runs in one way only. What shrinking writes for a run has at most four
characters and begins with the character of the run, so a long run can only arise where the dots
behind a character meet dots that stood in the text. Shrinking once more cuts these to four, and
then no long run is left.
-/

namespace Parley.Filter

variable {text u v row : List Char} {c d : Char} {n : Nat} {run : Char × Nat}
  {rs rest : List (Char × Nat)}

/-- Runs written out in full. -/
def spellRuns (runs : List (Char × Nat)) : List Char :=
  runs.flatMap fun run => List.replicate run.2 run.1

theorem spellRuns_cons (c : Char) (n : Nat) (rest : List (Char × Nat)) :
    spellRuns ((c, n) :: rest) = List.replicate n c ++ spellRuns rest := rfl

theorem runs_cons_of_eq (h : runs text = (c, n) :: rest) :
    runs (c :: text) = (c, n + 1) :: rest := by
  simp only [runs, h, if_pos]

theorem runs_cons_of_ne (h : runs text = (d, n) :: rest) (other : c ≠ d) :
    runs (c :: text) = (c, 1) :: (d, n) :: rest := by
  simp only [runs, h, if_neg other]

/-- A character put before a text makes the first run longer, or is a run of its own. -/
theorem runs_cons (c : Char) (text : List Char) :
    (∃ n rest, runs text = (c, n) :: rest ∧ runs (c :: text) = (c, n + 1) :: rest) ∨
      runs (c :: text) = (c, 1) :: runs text := by
  cases h : runs text with
  | nil => exact .inr (by simp only [runs, h])
  | cons run rest =>
    obtain ⟨d, n⟩ := run
    by_cases hcd : c = d
    · subst hcd
      exact .inl ⟨n, rest, rfl, runs_cons_of_eq h⟩
    · exact .inr (runs_cons_of_ne h hcd)

theorem spellRuns_runs (text : List Char) : spellRuns (runs text) = text := by
  induction text with
  | nil => rfl
  | cons c text ih =>
    rcases runs_cons c text with ⟨n, rest, before, after⟩ | after
    · rw [before, spellRuns_cons] at ih
      rw [after, spellRuns_cons, List.replicate_succ, List.cons_append, ih]
    · rw [after, spellRuns_cons, ih]
      rfl

theorem pos_of_mem_runs (h : run ∈ runs text) : 0 < run.2 := by
  induction text with
  | nil => exact absurd h List.not_mem_nil
  | cons c text ih =>
    rcases runs_cons c text with ⟨n, rest, before, after⟩ | after
    · rw [after] at h
      rcases List.mem_cons.mp h with rfl | h
      · exact Nat.succ_pos n
      · exact ih (before ▸ List.mem_cons_of_mem _ h)
    · rw [after] at h
      rcases List.mem_cons.mp h with rfl | h
      · exact Nat.one_pos
      · exact ih h

/-- A row that neither fits into the first part of a text nor lies across the cut is in the
second. -/
theorem infix_of_append (alone : ¬ row <:+: u)
    (cut : (∀ d ∈ u, d ∉ row) ∨ ∀ d ∈ v.head?, d ∉ row) (h : row <:+: u ++ v) : row <:+: v := by
  rcases List.infix_append_iff_ne_nil.mp h with inside | inside | across
  · exact absurd inside alone
  · exact inside
  · obtain ⟨first, last, hfirst, hlast, rfl, ending, beginning⟩ := across
    rcases cut with before | behind
    · obtain ⟨d, hd⟩ := List.exists_mem_of_ne_nil first hfirst
      exact absurd (List.mem_append_left last hd) (before d (ending.subset hd))
    · obtain ⟨d, last, rfl⟩ := List.exists_cons_of_ne_nil hlast
      obtain ⟨after, rfl⟩ := beginning
      exact absurd (List.mem_append_right first List.mem_cons_self) (behind d rfl)

/-- A text begins with the first of its runs. -/
theorem exists_runs_cons (c : Char) (text : List Char) :
    ∃ n rest, runs (c :: text) = (c, n + 1) :: rest := by
  rcases runs_cons c text with ⟨n, rest, -, after⟩ | after
  · exact ⟨n, rest, after⟩
  · exact ⟨0, runs text, after⟩

theorem first_run_of_replicate (h : List.replicate (n + 1) c <+: text) :
    ∃ m rest, runs text = (c, m + 1) :: rest ∧ n ≤ m := by
  induction n generalizing text with
  | zero =>
    obtain ⟨after, rfl⟩ := h
    obtain ⟨m, rest, hruns⟩ := exists_runs_cons c after
    exact ⟨m, rest, hruns, Nat.zero_le m⟩
  | succ n ih =>
    obtain ⟨after, rfl⟩ := h
    obtain ⟨m, rest, hruns, hle⟩ := ih (List.prefix_append (List.replicate (n + 1) c) after)
    exact ⟨m + 1, rest, runs_cons_of_eq hruns, Nat.succ_le_succ hle⟩

/-- A run stays, or becomes longer, when a character is put before the text. -/
theorem mem_runs_cons {m : Nat} (h : (c, m) ∈ runs text) :
    ∃ k, (c, k) ∈ runs (d :: text) ∧ m ≤ k := by
  rcases runs_cons d text with ⟨n, rest, before, after⟩ | after
  · rw [before, List.mem_cons] at h
    rw [after]
    rcases h with h | h
    · obtain ⟨rfl, rfl⟩ := Prod.mk.inj h
      exact ⟨m + 1, List.mem_cons_self, Nat.le_succ m⟩
    · exact ⟨m, List.mem_cons_of_mem _ h, Nat.le_refl m⟩
  · rw [after]
    exact ⟨m, List.mem_cons_of_mem _ h, Nat.le_refl m⟩

theorem exists_run_of_replicate (h : List.replicate (n + 1) c <:+: text) :
    ∃ m, (c, m) ∈ runs text ∧ n + 1 ≤ m := by
  induction text with
  | nil => simp at h
  | cons d text ih =>
    rcases List.infix_cons_iff.mp h with h | h
    · obtain ⟨m, rest, hruns, hle⟩ := first_run_of_replicate h
      exact ⟨m + 1, by rw [hruns]; exact List.mem_cons_self, Nat.succ_le_succ hle⟩
    · obtain ⟨m, listed, hle⟩ := ih h
      obtain ⟨k, listed, hmk⟩ := mem_runs_cons (d := d) listed
      exact ⟨k, listed, Nat.le_trans hle hmk⟩

theorem replicate_of_mem_runs {m : Nat} (h : (c, m) ∈ runs text) :
    List.replicate m c <:+: text := by
  obtain ⟨before, after, hruns⟩ := List.append_of_mem h
  refine ⟨spellRuns before, spellRuns after, ?_⟩
  calc spellRuns before ++ List.replicate m c ++ spellRuns after
      = spellRuns (before ++ (c, m) :: after) := by
        simp only [spellRuns, List.flatMap_append, List.flatMap_cons, List.append_assoc]
    _ = text := by rw [← hruns, spellRuns_runs]

theorem collapseRun_of_long (h : 5 ≤ n) : collapseRun (c, n) = c :: "...".toList :=
  if_pos h

theorem collapseRun_of_short (h : n < 5) : collapseRun (c, n) = List.replicate n c :=
  if_neg (Nat.not_le.mpr h)

theorem eq_of_mem_collapseRun (h : d ∈ collapseRun (c, n)) : d = c ∨ d = '.' ∧ 5 ≤ n := by
  rcases Nat.lt_or_ge n 5 with short | long
  · rw [collapseRun_of_short short] at h
    exact .inl (List.eq_of_mem_replicate h)
  · rw [collapseRun_of_long long] at h
    rcases List.mem_cons.mp h with same | dot
    · exact .inl same
    · exact .inr ⟨by simpa using dot, long⟩

theorem collapseRuns_hit_iff_run :
    (collapseRuns text).2 = true ↔ ∃ run ∈ runs text, 5 ≤ run.2 := by
  simp only [collapseRuns, List.any_eq_true, decide_eq_true_eq]
  rfl

theorem collapseRuns_hit_iff :
    (collapseRuns text).2 = true ↔ ∃ c, List.replicate 5 c <:+: text := by
  rw [collapseRuns_hit_iff_run]
  constructor
  · rintro ⟨⟨c, m⟩, listed, (long : 5 ≤ m)⟩
    have shorter : List.replicate 5 c <+: List.replicate m c :=
      ⟨List.replicate (m - 5) c, by rw [List.replicate_append_replicate, Nat.add_sub_cancel' long]⟩
    exact ⟨c, shorter.isInfix.trans (replicate_of_mem_runs listed)⟩
  · rintro ⟨c, h⟩
    obtain ⟨m, listed, long⟩ := exists_run_of_replicate h
    exact ⟨(c, m), listed, long⟩

theorem collapseRuns_eq_of_no_hit (h : (collapseRuns text).2 = false) :
    (collapseRuns text).1 = text := by
  simp only [collapseRuns, List.any_eq_false, decide_eq_true_eq] at h ⊢
  calc (runs text).flatMap collapseRun
      = spellRuns (runs text) :=
        List.flatMap_congr fun run listed => if_neg (h run listed)
    _ = text := spellRuns_runs text

/-- A text cut into runs of equal characters, none of which can be made longer. -/
structure MaximalRuns (rs : List (Char × Nat)) (text : List Char) : Prop where
  spells : spellRuns rs = text
  positive : ∀ run ∈ rs, 0 < run.2
  apart : rs.IsChain fun run next => run.1 ≠ next.1

namespace MaximalRuns

theorem tail (h : MaximalRuns (run :: rest) text) : MaximalRuns rest (spellRuns rest) :=
  ⟨rfl, fun next listed => h.positive next (List.mem_cons_of_mem run listed),
    h.apart.tail⟩

/-- Whatever is written for the runs behind the first one, if it begins with the character of the
run each time, it does not begin with the character of the first. -/
theorem head?_ne (h : MaximalRuns ((c, n) :: rest) text) {write : Char × Nat → List Char}
    (begins : ∀ run, 0 < run.2 → (write run).head? = some run.1) :
    ∀ d ∈ (rest.flatMap write).head?, d ≠ c := by
  intro d hd
  cases rest with
  | nil => exact absurd hd (by simp)
  | cons next rest =>
    have positive : 0 < next.2 := h.positive next (List.mem_cons_of_mem _ List.mem_cons_self)
    have apart : c ≠ next.1 := (List.isChain_cons_cons.mp h.apart).1
    rw [List.flatMap_cons, List.head?_append, begins next positive] at hd
    rw [← Option.some.inj hd]
    exact apart.symm

end MaximalRuns

theorem head?_replicate_of_pos (h : 0 < n) : (List.replicate n c).head? = some c := by
  rw [List.head?_replicate, if_neg (Nat.ne_of_gt h)]

theorem isChain_runs (text : List Char) :
    (runs text).IsChain fun run next => run.1 ≠ next.1 := by
  induction text with
  | nil => exact .nil
  | cons c text ih =>
    cases first : runs text with
    | nil =>
      rw [runs, first]
      exact .singleton _
    | cons run rest =>
      obtain ⟨d, n⟩ := run
      rw [first] at ih
      by_cases same : c = d
      · subst same
        rw [runs_cons_of_eq first]
        exact List.isChain_cons.mpr (List.isChain_cons.mp ih)
      · rw [runs_cons_of_ne first same]
        exact .cons_cons same ih

theorem maximalRuns_runs (text : List Char) : MaximalRuns (runs text) text :=
  ⟨spellRuns_runs text, fun _ listed => pos_of_mem_runs listed, isChain_runs text⟩

theorem runs_replicate_append (other : ∀ d ∈ v.head?, d ≠ c) :
    runs (List.replicate (n + 1) c ++ v) = (c, n + 1) :: runs v := by
  induction n with
  | zero =>
    cases v with
    | nil => rfl
    | cons d v =>
      obtain ⟨m, rest, first⟩ := exists_runs_cons d v
      have apart : c ≠ d := (other d rfl).symm
      rw [List.replicate_one, List.singleton_append, runs_cons_of_ne first apart, first]
  | succ n ih => exact runs_cons_of_eq ih

/-- There is one way only to cut a text into maximal runs. -/
theorem MaximalRuns.eq_runs (h : MaximalRuns rs text) : rs = runs text := by
  rw [← h.spells]
  induction rs generalizing text with
  | nil => rfl
  | cons run rest ih =>
    obtain ⟨c, n⟩ := run
    have positive : 0 < n := h.positive _ List.mem_cons_self
    have behind : ∀ d ∈ (spellRuns rest).head?, d ≠ c :=
      h.head?_ne fun run => head?_replicate_of_pos
    obtain ⟨m, rfl⟩ : ∃ m, n = m + 1 := ⟨n - 1, by omega⟩
    rw [spellRuns_cons, runs_replicate_append behind, ← ih h.tail]

theorem collapseRun_eq (run : Char × Nat) : collapseRun run =
    if run.2 < 5 then List.replicate run.2 run.1 else run.1 :: "...".toList := by
  obtain ⟨c, n⟩ := run
  rcases Nat.lt_or_ge n 5 with short | long
  · rw [collapseRun_of_short short, if_pos short]
  · rw [collapseRun_of_long long, if_neg (Nat.not_lt.mpr long)]

theorem head?_collapseRun (positive : 0 < run.2) : (collapseRun run).head? = some run.1 := by
  obtain ⟨c, n⟩ := run
  rcases Nat.lt_or_ge n 5 with short | long
  · rw [collapseRun_of_short short]
    exact head?_replicate_of_pos positive
  · rw [collapseRun_of_long long]
    rfl

theorem length_collapseRun_lt (run : Char × Nat) : (collapseRun run).length < 5 := by
  obtain ⟨c, n⟩ := run
  rcases Nat.lt_or_ge n 5 with short | long
  · rw [collapseRun_of_short short, List.length_replicate]
    exact short
  · rw [collapseRun_of_long long]
    exact Nat.lt_succ_self 4

/-- Shrunk runs hold no five equal characters in a row, unless they are dots and dots may meet dots
that were written behind another character. -/
theorem not_row_of_collapseRun (h : MaximalRuns rs text)
    (dots : c = '.' → ∀ run ∈ rs, 5 ≤ run.2 → run.1 = '.') :
    ¬ List.replicate 5 c <:+: rs.flatMap collapseRun := by
  induction rs generalizing text with
  | nil => exact fun row => absurd (List.infix_nil.mp row) (by simp)
  | cons run rest ih =>
    obtain ⟨d, n⟩ := run
    have alone : ¬ List.replicate 5 c <:+: collapseRun (d, n) := by
      intro inside
      have fits := inside.length_le
      rw [List.length_replicate] at fits
      exact absurd (length_collapseRun_lt (d, n)) (Nat.not_lt.mpr fits)
    have cut : (∀ e ∈ collapseRun (d, n), e ∉ List.replicate 5 c) ∨
        ∀ e ∈ (rest.flatMap collapseRun).head?, e ∉ List.replicate 5 c := by
      by_cases same : d = c
      · subst same
        refine .inr fun e behind inRow => ?_
        exact h.head?_ne (fun run => head?_collapseRun) e behind (List.eq_of_mem_replicate inRow)
      · refine .inl fun e written inRow => ?_
        obtain rfl := List.eq_of_mem_replicate inRow
        rcases eq_of_mem_collapseRun written with rfl | ⟨rfl, long⟩
        · exact same rfl
        · exact same (dots rfl (d, n) List.mem_cons_self long)
    intro row
    rw [List.flatMap_cons] at row
    refine ih h.tail (fun dot next listed => ?_) (infix_of_append alone cut row)
    exact dots dot next (List.mem_cons_of_mem _ listed)

/-- Shrinking leaves rows of dots only. -/
theorem eq_dot_of_row_collapseRuns (row : List.replicate 5 c <:+: (collapseRuns text).1) :
    c = '.' := by
  by_contra other
  exact not_row_of_collapseRun (maximalRuns_runs text) (fun dot => absurd dot other) row

/-- Where only dots stand in a row, shrinking leaves no row. -/
theorem not_row_of_dots (dots : ∀ d, List.replicate 5 d <:+: text → d = '.') :
    ¬ List.replicate 5 c <:+: (collapseRuns text).1 := by
  refine not_row_of_collapseRun (maximalRuns_runs text) fun _ run listed long => ?_
  have shorter : List.replicate 5 run.1 <+: List.replicate run.2 run.1 :=
    List.prefix_replicate_iff.mpr ⟨by rwa [List.length_replicate], by rw [List.length_replicate]⟩
  exact dots run.1 (shorter.isInfix.trans (replicate_of_mem_runs listed))

/-- Two passes leave nothing to a third. -/
theorem collapseRuns_thrice (text : List Char) :
    let twice := (collapseRuns (collapseRuns text).1).1
    collapseRuns twice = (twice, false) := by
  intro twice
  have noHit : (collapseRuns twice).2 = false := by
    rw [← Bool.not_eq_true, collapseRuns_hit_iff]
    rintro ⟨c, row⟩
    exact not_row_of_dots (fun d => eq_dot_of_row_collapseRuns) row
  exact Prod.ext (collapseRuns_eq_of_no_hit noHit) noHit

/-- For every text: there is one way to cut it into maximal runs. Shrinking writes each of them
as it is if it is shorter than five, and otherwise as its character and three dots, and tells
whether there is such a run. It leaves no five equal characters in a row other than dots, and
after a second pass a third one changes nothing and finds nothing. -/
theorem collapseRuns_settles (text : List Char) :
    let once := collapseRuns text
    let twice := collapseRuns once.1
    (∃ rs, MaximalRuns rs text ∧ (∀ other, MaximalRuns other text → other = rs) ∧
      once.1 = rs.flatMap (fun run =>
        if run.2 < 5 then List.replicate run.2 run.1 else run.1 :: "...".toList) ∧
      (once.2 = true ↔ ∃ run ∈ rs, 5 ≤ run.2)) ∧
    (∀ c, c ≠ '.' → ¬ List.replicate 5 c <:+: once.1) ∧
    collapseRuns twice.1 = (twice.1, false) := by
  intro once twice
  refine ⟨⟨runs text, maximalRuns_runs text, fun other h => h.eq_runs, ?_, ?_⟩, ?_, ?_⟩
  · exact List.flatMap_congr fun run _ => collapseRun_eq run
  · exact collapseRuns_hit_iff_run
  · exact fun c other row => other (eq_dot_of_row_collapseRuns row)
  · exact collapseRuns_thrice text

/-- The first pass writes three dots in front of two. -/
example : collapseRuns "aaaaa..!".toList = ("a.....!".toList, true) ∧
    collapseRuns "a.....!".toList = ("a....!".toList, true) := by
  decide

end Parley.Filter
