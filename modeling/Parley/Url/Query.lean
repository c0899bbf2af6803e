import Parley.Text.Utf8
import Parley.Url.Basic

/-!
# Queries of names and values

A query lists pairs between ampersands. A name ends at its first equals sign, a plus stands for a
space, and percent codes for bytes. Of several values of one name the last one counts.
-/

namespace Parley.Url

/-- The text that a name or a value of a query stands for. -/
def queryText (text : List Char) : List Char :=
  Text.charsOfBytes (percentDecode (text.map fun c => if c = '+' then ' ' else c))

/-- The pairs of a query; nothing between two ampersands is no pair. -/
def queryPairs (query : List Char) : List (List Char × List Char) :=
  ((Text.splitAt '&' query).filter fun pair => !pair.isEmpty).map fun pair =>
    (queryText (pair.takeWhile (· != '=')), queryText ((pair.dropWhile (· != '=')).drop 1))

/-- The value of a name in a query. -/
def queryValue? (query : List Char) (name : String) : Option (List Char) :=
  ((queryPairs query).reverse.find? fun pair => pair.1 == name.toList).map Prod.snd

end Parley.Url
