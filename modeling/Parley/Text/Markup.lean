/-!
# Escaped markup

The five characters that matter in markup are written as entities. `unescape` is the reading
back: one pass from the left that replaces each of the five entities by its character.
-/

namespace Parley.Markup

/-- The entity that stands for a markup character. -/
def entity? : Char → Option (List Char)
  | '&' => some ['&', 'a', 'm', 'p', ';']
  | '<' => some ['&', 'l', 't', ';']
  | '>' => some ['&', 'g', 't', ';']
  | '"' => some ['&', 'q', 'u', 'o', 't', ';']
  | '\'' => some ['&', '#', '3', '9', ';']
  | _ => none

def escape : List Char → List Char
  | [] => []
  | c :: text => (entity? c).getD [c] ++ escape text

def unescape : List Char → List Char
  | '&' :: 'a' :: 'm' :: 'p' :: ';' :: text => '&' :: unescape text
  | '&' :: 'l' :: 't' :: ';' :: text => '<' :: unescape text
  | '&' :: 'g' :: 't' :: ';' :: text => '>' :: unescape text
  | '&' :: 'q' :: 'u' :: 'o' :: 't' :: ';' :: text => '"' :: unescape text
  | '&' :: '#' :: '3' :: '9' :: ';' :: text => '\'' :: unescape text
  | c :: text => c :: unescape text
  | [] => []

end Parley.Markup
