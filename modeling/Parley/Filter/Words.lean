import Parley.Text.Blank
import Parley.Text.Letter.Case

/-!
# Banned words

Words are compared up to case and may occur inside other words. Going from the left, the longest
word that begins at a place is replaced by as many stars as it has characters.
-/

namespace Parley.Filter

/-- Whether a text begins with a word, up to case. -/
def beginsWith : List Char → List Char → Bool
  | [], _ => true
  | _ :: _, [] => false
  | w :: word, c :: text => Letter.sameLetter w c && beginsWith word text

/-- The words of a list as configured: trimmed, without blank ones, longer ones first. -/
def wordList (configured : List String) : List (List Char) :=
  ((configured.map fun w => Text.trim w.toList).filter fun w => !w.isEmpty).mergeSort
    fun a b => b.length ≤ a.length

/-- The first word of the list that begins a text. -/
def wordAt? (words : List (List Char)) (text : List Char) : Option (List Char) :=
  words.find? (beginsWith · text)

/-- Masks a text of which the first `covered` characters belong to a word already found. Also
tells whether another word was found. -/
def maskFrom (words : List (List Char)) : Nat → List Char → List Char × Bool
  | _, [] => ([], false)
  | covered + 1, _ :: text =>
    let (out, hit) := maskFrom words covered text
    ('*' :: out, hit)
  | 0, c :: text =>
    match wordAt? words (c :: text) with
    | some word => ('*' :: (maskFrom words (word.length - 1) text).1, true)
    | none =>
      let (out, hit) := maskFrom words 0 text
      (c :: out, hit)

def maskWords (words : List (List Char)) (text : List Char) : List Char × Bool :=
  maskFrom words 0 text

end Parley.Filter
