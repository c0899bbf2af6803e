import Parley.Filter.Links
import Parley.Filter.Runs
import Parley.Text.Markup

/-!
# The chat filter

A message is escaped, then its banned words are masked, its links replaced, its long runs shrunk
and its shouting lowered, each step on the outcome of the one before. The message is a violation
when any of the four steps found something.
-/

namespace Parley

/-- What the filter looks for. -/
structure Filter where
  words : List (List Char)
  hosts : List (List Char)
  placeholder : List Char
  deriving Repr

namespace Filter

/-- The filter of a configured word list and whitelist. -/
def configure (bannedWords whitelist : List String) (placeholder : String) : Filter where
  words := wordList bannedWords
  hosts := hostList whitelist
  placeholder := placeholder.toList

/-- The filtered text, and whether the message is a violation. -/
def applyChars (filter : Filter) (message : List Char) : List Char × Bool :=
  let (masked, word) := maskWords filter.words (Markup.escape message)
  let (delinked, link) := stripLinks filter.hosts filter.placeholder masked
  let (collapsed, run) := collapseRuns delinked
  let (lowered, shout) := lowerShouts collapsed
  (lowered, word || link || run || shout)

structure Outcome where
  content : String
  violation : Bool
  deriving DecidableEq, Repr

def apply (filter : Filter) (message : String) : Outcome :=
  let (content, violation) := filter.applyChars message.toList
  ⟨String.ofList content, violation⟩

end Filter

end Parley
