/-!
# Topic patterns

A pattern is a text in which `*` stands for any run of characters and `?` for exactly one.
`Glob.Matches` says so by its rules; `Glob.accepts` decides it in one pass, keeping only the
latest star to fall back to.
-/

namespace Parley.Glob

/-- The texts of a pattern. -/
inductive Matches : List Char → List Char → Prop
  | nil : Matches [] []
  | char {c : Char} {pattern text : List Char} (star : c ≠ '*') (one : c ≠ '?')
      (rest : Matches pattern text) : Matches (c :: pattern) (c :: text)
  | one {c : Char} {pattern text : List Char} (rest : Matches pattern text) :
      Matches ('?' :: pattern) (c :: text)
  | skip {pattern text : List Char} (rest : Matches pattern text) :
      Matches ('*' :: pattern) text
  | more {c : Char} {pattern text : List Char} (rest : Matches ('*' :: pattern) text) :
      Matches ('*' :: pattern) (c :: text)

/-- What to try again after a mismatch: the pattern after the latest star, and the text that
this star has not swallowed yet. -/
structure Mark where
  pattern : List Char
  text : List Char

/-- The pattern at hand is part of what the latest star falls back to. -/
def Within (pattern : List Char) (mark : Option Mark) : Prop :=
  ∀ m, mark = some m → pattern.length ≤ m.pattern.length

/-- Compares from the left. A literal match is taken first, even of a star with a star; then a
star is opened, swallowing nothing; then the latest star swallows one more character. -/
def run (pattern text : List Char) (mark : Option Mark) (within : Within pattern mark) : Bool :=
  match pattern, text, mark with
  | pattern, [], _ => pattern.all (· == '*')
  | p :: pattern', c :: text', mark =>
    if p = '?' ∨ p = c then
      run pattern' text' mark fun m h => Nat.le_of_succ_le (within m h)
    else if p = '*' then
      run pattern' (c :: text') (some ⟨pattern', c :: text'⟩) fun _ h => by cases h; simp
    else match mark with
      | some ⟨again, _ :: later⟩ =>
        run again later (some ⟨again, later⟩) fun _ h => by cases h; simp
      | _ => false
  | [], _ :: _, some ⟨again, _ :: later⟩ =>
    run again later (some ⟨again, later⟩) fun _ h => by cases h; simp
  | [], _ :: _, _ => false
termination_by
  ((mark.map (·.pattern.length)).getD (pattern.length + 1),
    (mark.map (·.text.length)).getD 0, pattern.length)
decreasing_by
  all_goals simp_wf
  · cases mark <;> simp [Prod.lex_def]
  · cases mark with
    | none => exact Prod.Lex.left _ _ (Nat.lt_succ_of_lt (Nat.lt_succ_self _))
    | some m =>
      have := within m rfl
      simp [Prod.lex_def] at this ⊢
      omega
  · simp [Prod.lex_def]
  · simp [Prod.lex_def]

def accepts (pattern text : String) : Bool :=
  run pattern.toList text.toList none fun _ h => by cases h

end Parley.Glob
