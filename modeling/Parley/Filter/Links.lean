import Parley.Filter.Words
import Parley.Text.Letter.Word
import Parley.Url.Basic

/-!
# Links

A link begins, where no word character precedes it, with a web scheme or `www.` and extends to
the next blank, quote or angle bracket. An escaped quote or bracket ends it earlier, and
punctuation at its end belongs to the sentence. A link to a host outside the whitelist is replaced
by a placeholder. What was cut off is searched again as a text of its own.
-/

namespace Parley.Filter

def linkHeads : List (List Char) :=
  ["https://".toList, "http://".toList, "www.".toList]

/-- Characters that a link extends over. -/
def isLinkChar (c : Char) : Bool :=
  !(Text.isBlank c || c == '<' || c == '>' || c == '"' || c == '\'')

/-- The length of the link that begins a text: its head and at least one character more. -/
def linkLength? (text : List Char) : Option Nat :=
  match linkHeads.find? (beginsWith · text) with
  | none => none
  | some head =>
    match (text.drop head.length).takeWhile isLinkChar with
    | [] => none
    | more => some (head.length + more.length)

/-- The escaped quotes and brackets. -/
def linkEnds : List (List Char) :=
  ["&quot;".toList, "&#39;".toList, "&lt;".toList, "&gt;".toList]

/-- The text before the first escaped quote or bracket. -/
def beforeLinkEnd : List Char → List Char
  | [] => []
  | c :: text =>
    if linkEnds.any (·.isPrefixOf (c :: text)) then [] else c :: beforeLinkEnd text

/-- Punctuation that ends a sentence and not a link. -/
def isSentenceMark (c : Char) : Bool :=
  c == '.' || c == ',' || c == ';' || c == ':' || c == '!' || c == '?' || c == ')'

/-- The part of a found text that is the link. -/
def linkPart (found : List Char) : List Char :=
  Text.dropEndWhile isSentenceMark (beforeLinkEnd found)

/-- Drops wildcards for subdomains from the front of an entry. -/
def dropWildcards : List Char → List Char
  | '*' :: '.' :: rest => dropWildcards rest
  | entry => entry

/-- The hosts of a whitelist as configured. -/
def hostList (configured : List String) : List (List Char) :=
  (configured.map fun h => Letter.lowerAll (dropWildcards (Text.trim h.toList))).filter
    fun h => !h.isEmpty

/-- The host that a link leads to. -/
def linkHost? (link : List Char) : Option (List Char) :=
  let candidate :=
    if "www.".toList.isPrefixOf (link.map Letter.lowerAscii) then "http://".toList ++ link
    else link
  (Url.parse? candidate).map (·.host.render)

/-- Whether the host of a link is a listed one or lies below a listed one. -/
def isAllowed (hosts : List (List Char)) (link : List Char) : Bool :=
  match linkHost? link with
  | none => false
  | some host => hosts.any fun entry => host == entry || ('.' :: entry).isSuffixOf host

theorem beginsWith_cons {w c : Char} {word text : List Char}
    (h : beginsWith (w :: word) (c :: text) = true) : Letter.sameLetter w c = true := by
  simp only [beginsWith, Bool.and_eq_true] at h
  exact h.1

theorem linkLength?_bounds {text : List Char} {n : Nat} (h : linkLength? text = some n) :
    0 < n ∧ n ≤ text.length := by
  unfold linkLength? at h
  split at h
  · simp at h
  · next head found =>
    have begins := List.find?_some found
    split at h
    · simp at h
    · next more hmore =>
      have size : ((text.drop head.length).takeWhile isLinkChar).length ≤
          (text.drop head.length).length := (List.takeWhile_prefix _).length_le
      have some_more : 0 < ((text.drop head.length).takeWhile isLinkChar).length :=
        List.length_pos_iff.mpr hmore
      rw [List.length_drop] at size
      simp only [Option.some.injEq] at h
      omega

/-- A link begins with a letter. -/
theorem head_of_linkLength? {c : Char} {text : List Char} {n : Nat}
    (h : linkLength? (c :: text) = some n) :
    Letter.sameLetter 'h' c = true ∨ Letter.sameLetter 'w' c = true := by
  unfold linkLength? at h
  split at h
  · simp at h
  · next head found =>
    have begins := List.find?_some found
    have listed := List.mem_of_find?_eq_some found
    simp only [linkHeads, List.mem_cons, List.not_mem_nil, or_false] at listed
    rcases listed with rfl | rfl | rfl
    · exact .inl (beginsWith_cons begins)
    · exact .inl (beginsWith_cons begins)
    · exact .inr (beginsWith_cons begins)

theorem dropWhile_concat_ne_nil {p : Char → Bool} {c : Char} (h : p c = false) :
    ∀ text : List Char, (text ++ [c]).dropWhile p ≠ []
  | [] => by simp [h]
  | d :: text => by
    cases hd : p d
    · simp [hd]
    · simpa [List.dropWhile, hd] using dropWhile_concat_ne_nil h text

theorem dropEndWhile_cons_ne_nil {p : Char → Bool} {c : Char} {text : List Char}
    (h : p c = false) : Text.dropEndWhile p (c :: text) ≠ [] := by
  simpa [Text.dropEndWhile] using dropWhile_concat_ne_nil h text.reverse

/-- What is cut off a link never takes all of it. -/
theorem linkPart_ne_nil {c : Char} {text : List Char}
    (h : Letter.sameLetter 'h' c = true ∨ Letter.sameLetter 'w' c = true) :
    linkPart (c :: text) ≠ [] := by
  have hmark : isSentenceMark c = false := by
    cases hm : isSentenceMark c with
    | false => rfl
    | true =>
      simp only [isSentenceMark, Bool.or_eq_true, beq_iff_eq] at hm
      rcases hm with (((((rfl | rfl) | rfl) | rfl) | rfl) | rfl) | rfl <;> revert h <;> decide
  have hamp : c ≠ '&' := by
    rintro rfl
    revert h
    decide
  have hcut : beforeLinkEnd (c :: text) = c :: beforeLinkEnd text := by
    rw [beforeLinkEnd, if_neg]
    simp [linkEnds, List.isPrefixOf, Ne.symm hamp]
  rw [linkPart, hcut]
  exact dropEndWhile_cons_ne_nil hmark

/-- Replaces the links of a text, given whether a word character precedes it. Also tells whether
there was one to replace. -/
def stripFrom (hosts : List (List Char)) (placeholder : List Char) (afterWord : Bool)
    (text : List Char) : List Char × Bool :=
  match text with
  | [] => ([], false)
  | c :: rest =>
    match _link : if afterWord then none else linkLength? (c :: rest) with
    | none =>
      let (out, hit) := stripFrom hosts placeholder (Letter.isWordChar c) rest
      (c :: out, hit)
    | some n =>
      let found := (c :: rest).take n
      let link := linkPart found
      let allowed := isAllowed hosts link
      let (tail, tailHit) := stripFrom hosts placeholder false (found.drop link.length)
      let (out, hit) := stripFrom hosts placeholder false ((c :: rest).drop n)
      ((if allowed then link else placeholder) ++ tail ++ out, !allowed || tailHit || hit)
termination_by text.length
decreasing_by
  · simp
  · have found : linkLength? (c :: rest) = some n := by
      split at _link
      · simp at _link
      · exact _link
    have bounds := linkLength?_bounds found
    obtain ⟨m, rfl⟩ : ∃ m, n = m + 1 := ⟨n - 1, by omega⟩
    have link : linkPart (c :: rest.take m) ≠ [] := linkPart_ne_nil (head_of_linkLength? found)
    have := List.length_pos_iff.mpr link
    simp only [List.take_succ_cons, List.length_drop, List.length_cons, List.length_take] at *
    omega
  · have found : linkLength? (c :: rest) = some n := by
      split at _link
      · simp at _link
      · exact _link
    have bounds := linkLength?_bounds found
    simp only [List.length_drop, List.length_cons] at *
    omega

def stripLinks (hosts : List (List Char)) (placeholder : List Char) (text : List Char) :
    List Char × Bool :=
  stripFrom hosts placeholder false text

end Parley.Filter
