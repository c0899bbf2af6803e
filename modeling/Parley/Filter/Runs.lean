import Parley.Text.Letter.Case

/-!
# Runs of characters

Five or more of one character in a row shrink to that character and three dots. Ten or more
capital letters in a row are written small.
-/

namespace Parley.Filter

/-- The maximal runs of equal characters with their lengths. -/
def runs : List Char → List (Char × Nat)
  | [] => []
  | c :: text =>
    match runs text with
    | [] => [(c, 1)]
    | (d, n) :: rest => if c = d then (d, n + 1) :: rest else (c, 1) :: (d, n) :: rest

/-- The length from which a run shrinks. -/
def longRun : Nat := 5

def collapseRun (run : Char × Nat) : List Char :=
  if longRun ≤ run.2 then [run.1, '.', '.', '.'] else List.replicate run.2 run.1

/-- Shrinks the long runs of a text. Also tells whether there was one. -/
def collapseRuns (text : List Char) : List Char × Bool :=
  ((runs text).flatMap collapseRun, (runs text).any (longRun ≤ ·.2))

/-- A text cut into maximal stretches of capitals and of other characters. -/
def capitalStretches : List Char → List (Bool × List Char)
  | [] => []
  | c :: text =>
    match capitalStretches text with
    | [] => [(Letter.isCapital c, [c])]
    | (capital, stretch) :: rest =>
      if Letter.isCapital c = capital then (capital, c :: stretch) :: rest
      else (Letter.isCapital c, [c]) :: (capital, stretch) :: rest

/-- The number of capitals in a row that count as shouting. -/
def shoutLength : Nat := 10

def isShout (stretch : Bool × List Char) : Bool :=
  stretch.1 && shoutLength ≤ stretch.2.length

/-- A stretch of capitals in small letters. A sigma at its end takes its final form. -/
def lowerStretch : List Char → List Char
  | [] => []
  | ['Σ'] => ['ς']
  | c :: rest => Letter.lower c ++ lowerStretch rest

/-- Writes shouted stretches small. Also tells whether there was one. -/
def lowerShouts (text : List Char) : List Char × Bool :=
  let stretches := capitalStretches text
  (stretches.flatMap fun s => if isShout s then lowerStretch s.2 else s.2, stretches.any isShout)

end Parley.Filter
