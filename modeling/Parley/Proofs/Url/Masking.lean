import Parley.Proofs.Net.Address
import Parley.Proofs.Url.Reading

/-!
# Passwords in written addresses

An address of the database names a user, a password and a place. Where the place can be read, the
address is written with stars for the password, and what else is written is the place as it was
read: its host, its port and the parts behind them, encoded. Where the place cannot be read, because
its host or its port is none, the address is written as it is.

So a password of small letters that stands nowhere else in an address is hidden exactly if the place
can be read, unless it comes together only while the place is read: where a tab or a line end within
it is left out, or numbers with dots are read as groups of a version six address.
-/

namespace Parley.Url

open Letter (lowerAscii)

variable {user password rest text word : List Char} {c d : Char} {url : Url} {host : Host}

/-- A word of small ASCII letters. -/
structure IsWord (word : List Char) : Prop where
  nonempty : word ≠ []
  small : ∀ c ∈ word, c.isLower = true

theorem IsWord.not_mem (h : IsWord word) (hd : d.isLower = false) : d ∉ word := by
  intro listed
  exact absurd (hd.symm.trans (h.small d listed)) Bool.false_ne_true

theorem IsWord.not_infix (h : IsWord word) (other : ∀ d ∈ text, d.isLower = false) :
    ¬ word <:+: text := by
  intro inside
  obtain ⟨c, listed⟩ := List.exists_mem_of_ne_nil word h.nonempty
  exact h.not_mem (other c (inside.subset listed)) listed

theorem lowerAscii_of_isLower (h : c.isLower = true) : lowerAscii c = c := by
  delta Char.isLower at h
  rw [Bool.and_eq_true, decide_eq_true_eq, decide_eq_true_eq] at h
  have above : ¬ c ≤ 'Z' := fun below => absurd (Char.le_trans h.1 below) (by decide)
  simp [lowerAscii, above]

theorem isAlphanum_of_isLower (h : c.isLower = true) : c.isAlphanum = true := by
  delta Char.isAlphanum Char.isAlpha
  simp [h]

theorem IsWord.map_lowerAscii (h : IsWord word) : word.map lowerAscii = word := by
  rw [List.map_congr_left fun c listed => lowerAscii_of_isLower (h.small c listed), List.map_id']

theorem IsWord.infix_lowered (h : IsWord word) (inside : word <:+: text) :
    word <:+: text.map lowerAscii := by
  have lowered := inside.map lowerAscii
  rwa [h.map_lowerAscii] at lowered

/-- Encoding writes no small letters, so no word arises from it. -/
theorem IsWord.infix_of_percentEncode (h : IsWord word) {extra : String}
    (inside : word <:+: percentEncode extra text) : word <:+: text := by
  refine Text.infix_of_infix_flatMap ?_ inside
  intro c
  dsimp only
  split
  · refine .inr ⟨bytes_ne_nil c, fun d written => ?_⟩
    obtain ⟨b, -, written⟩ := List.mem_flatMap.mp written
    have digits : ∀ n < 16, (Text.hexDigit n).toUpper.isLower = false := by decide
    have small := b.toNat_lt
    apply h.not_mem
    simp only [percentByte, List.mem_cons, List.not_mem_nil, or_false] at written
    rcases written with rfl | rfl | rfl
    · decide
    · exact digits _ (by omega)
    · exact digits _ (by omega)
  · exact .inl rfl

/-- The texts that a locator is written with behind its user, without the marks between them. -/
def placeParts (url : Url) : List (List Char) :=
  url.host.render :: ((url.port.map fun p => (toString p).toList).toList ++ url.path ++
    url.query.toList ++ url.fragment.toList)

theorem marked_eq (mark : Char) (part : Option (List Char)) :
    (part.map (mark :: ·)).getD [] = part.toList.flatMap (mark :: ·) := by
  cases part <;> simp

/-- A word in a locator with stars for the password stands in the scheme, in the user or in a part
of the place. -/
theorem IsWord.infix_masked_iff (h : IsWord word) (url : Url) (user : List Char) :
    word <:+: ({ url with user, password := some ['*', '*', '*'] } : Url).render ↔
      word <:+: url.scheme ∨ word <:+: user ∨ ∃ part ∈ placeParts url, word <:+: part := by
  have port : (url.port.map fun p => ':' :: (toString p).toList).getD [] =
      (url.port.map fun p => (toString p).toList).toList.flatMap (':' :: ·) := by
    cases url.port <;> simp
  have shape : ({ url with user, password := some ['*', '*', '*'] } : Url).render =
      url.scheme ++ ':' :: ([] ++ '/' :: ([] ++ '/' :: (user ++ ':' :: (['*', '*', '*'] ++ '@' ::
        (url.host.render ++
          (url.port.map fun p => (toString p).toList).toList.flatMap (':' :: ·) ++
          url.path.flatMap ('/' :: ·) ++ url.query.toList.flatMap ('?' :: ·) ++
          url.fragment.toList.flatMap ('#' :: ·)))))) := by
    simp only [render, renderUser, port, marked_eq, List.append_assoc, List.cons_append,
      List.nil_append]
  have no_stars : ¬ word <:+: ['*', '*', '*'] := h.not_infix (by decide)
  have some_word : ¬ word <:+: [] := h.not_infix (by simp)
  have apart : ∀ mark : Char, mark.isLower = false → mark ∉ word := fun _ => h.not_mem
  rw [shape, Text.infix_append_cons_iff (apart ':' rfl), Text.infix_append_cons_iff (apart '/' rfl),
    Text.infix_append_cons_iff (apart '/' rfl), Text.infix_append_cons_iff (apart ':' rfl),
    Text.infix_append_cons_iff (apart '@' rfl), Text.infix_append_flatMap_iff (apart '#' rfl),
    Text.infix_append_flatMap_iff (apart '?' rfl), Text.infix_append_flatMap_iff (apart '/' rfl),
    Text.infix_append_flatMap_iff (apart ':' rfl)]
  simp only [placeParts, List.exists_mem_cons_iff, List.mem_append, or_and_right, exists_or,
    some_word, no_stars, false_or, or_assoc]

theorem isLower_of_mem_toString {n : Nat} (h : d ∈ (toString n).toList) : d.isLower = false := by
  rw [Nat.toString_eq_repr, Nat.toList_repr] at h
  have digit := Nat.isDigit_of_mem_toDigits (by decide) (by decide) h
  rw [Char.isDigit, Bool.and_eq_true, decide_eq_true_eq, decide_eq_true_eq] at digit
  have below : ¬ 'a' ≤ d := fun above => absurd (Char.le_trans above digit.2) (by decide)
  exact Bool.and_eq_false_iff.mpr (.inl (decide_eq_false below))

/-- A word in a part of a place stands in its host or in the text of its tail. -/
theorem IsWord.infix_of_located (h : IsWord word) {who : List Char × Option (List Char)}
    {port : Option Nat} {tail part : List Char}
    (listed : part ∈ placeParts (located who host port tail)) (inside : word <:+: part) :
    word <:+: host.render ∨ word <:+: tail := by
  have tailed : part ∈ pathIn tail ∨ queryIn? tail = some part ∨ fragmentIn? tail = some part →
      word <:+: tail := by
    intro listed
    rcases exists_piece listed with rfl | ⟨extra, piece, ofTail, rfl⟩
    · exact absurd inside (h.not_infix (by simp))
    · exact (h.infix_of_percentEncode inside).trans ofTail
  simp only [placeParts, List.mem_cons, List.mem_append, Option.mem_toList] at listed
  rcases listed with rfl | ((port | path) | query) | fragment
  · exact .inl inside
  · obtain ⟨p, -, rfl⟩ := Option.map_eq_some_iff.mp port
    exact absurd inside (h.not_infix fun d => isLower_of_mem_toString)
  · exact .inr (tailed (.inl path))
  · exact .inr (tailed (.inr (.inl query)))
  · exact .inr (tailed (.inr (.inr fragment)))

/-- A word in a host stands in its text up to case, unless dots are read in brackets. -/
theorem IsWord.infix_of_plainHost? (h : IsWord word)
    (undotted : ∀ inner, text = '[' :: (inner ++ [']']) → '.' ∉ inner)
    (reads : plainHost? text = some host) (inside : word <:+: host.render) :
    word <:+: text.map lowerAscii := by
  rw [plainHost?] at reads
  split at reads
  · obtain ⟨groups, read, rfl⟩ := Option.map_eq_some_iff.mp reads
    obtain ⟨inner, brackets, read⟩ := Option.bind_eq_some_iff.mp read
    have whole := eq_of_bracketed? brackets
    have within : word <:+: Net.Version6.render groups := by
      have shape : Host.render (.version6 groups) =
          [] ++ '[' :: (Net.Version6.render groups ++ ']' :: []) := rfl
      rw [shape, Text.infix_append_cons_iff (h.not_mem rfl),
        Text.infix_append_cons_iff (h.not_mem rfl)] at inside
      have nowhere : ¬ word <:+: [] := h.not_infix (by simp)
      simpa only [nowhere, false_or, or_false] using inside
    have inInner := Net.Version6.infix_of_infix_render h.nonempty (h.not_mem rfl) (h.not_mem rfl)
      (undotted inner whole) read within
    rw [whole]
    exact inInner.trans (List.IsInfix.map lowerAscii ⟨['['], [']'], rfl⟩)
  · split at reads
    · exact absurd reads (Option.some_ne_none host).symm
    · obtain rfl := Option.some.inj reads
      exact h.infix_lowered (h.infix_of_percentEncode inside)

/-- A password of small letters that stands nowhere else in the address of a user, up to case. -/
structure StandsAlone (user password rest : List Char) : Prop where
  letters : ∀ c ∈ user, c.isAlphanum = true
  word : IsWord password
  scheme : ¬ password <:+: databaseScheme
  user : ¬ password <:+: user.map lowerAscii
  rest : ¬ password <:+: rest.map lowerAscii

/-- Texts in which nothing is left out when they are read, and no dots stand in brackets. -/
structure Plain (rest : List Char) : Prop where
  unbroken : ∀ c ∈ rest, c ≠ '\t' ∧ c ≠ '\n' ∧ c ≠ '\r'
  undotted : ∀ inner, '[' :: (inner ++ [']']) <:+: rest → '.' ∉ inner

theorem Plain.cleanBehind_isInfix (plain : Plain rest) : cleanBehind rest <:+: rest := by
  have shorter := Text.dropEndWhile_isPrefix (fun c => c.toNat ≤ 32) rest
  have kept : cleanBehind rest = Text.dropEndWhile (fun c => c.toNat ≤ 32) rest := by
    rw [cleanBehind, List.filter_eq_self]
    intro c listed
    obtain ⟨tab, newline, carriage_return⟩ := plain.unbroken c (shorter.subset listed)
    simp [tab, newline, carriage_return]
  rw [kept]
  exact shorter.isInfix

theorem StandsAlone.not_infix_of_place? (h : StandsAlone user password rest) (plain : Plain rest)
    (found : place? rest = some url) : ∀ part ∈ placeParts url, ¬ password <:+: part := by
  obtain ⟨-, host, reads, port, -, rfl⟩ := (place?_eq_some_iff rfl).mp found
  intro part listed inside
  have hostInRest : hostText (cleanBehind rest) <:+: rest :=
    (hostText_isInfix _).trans plain.cleanBehind_isInfix
  rcases h.word.infix_of_located listed inside with inHost | inTail
  · have undotted : ∀ inner, hostText (cleanBehind rest) = '[' :: (inner ++ [']']) → '.' ∉ inner :=
      fun inner whole => plain.undotted inner (whole ▸ hostInRest)
    have lowered := h.word.infix_of_plainHost? undotted reads inHost
    exact h.rest (lowered.trans (hostInRest.map lowerAscii))
  · have inRest := inTail.trans ((tailText_isInfix _).trans plain.cleanBehind_isInfix)
    exact h.rest (h.word.infix_lowered inRest)

/-- An address without a place is shown as it is, any other with stars for the password. -/
theorem StandsAlone.maskPassword_address (h : StandsAlone user password rest) :
    (maskPassword (String.ofList (address user password rest))).toList =
      (place? rest).elim (address user password rest) fun url =>
        ({ url with user, password := some ['*', '*', '*'] } : Url).render := by
  have plain : ∀ c ∈ password, c.isAlphanum = true :=
    fun c listed => isAlphanum_of_isLower (h.word.small c listed)
  obtain ⟨written, reads⟩ := parse?_address h.letters plain h.word.nonempty rest
  simp only [maskPassword, String.toList_ofList, reads]
  cases place? rest <;> simp

theorem infix_address (user password rest : List Char) :
    password <:+: address user password rest :=
  ⟨opening ++ (user ++ [':']), '@' :: rest, by simp [address]⟩

theorem scheme_of_place? (found : place? rest = some url) : url.scheme = databaseScheme := by
  obtain ⟨-, host, -, port, -, rfl⟩ := (place?_eq_some_iff rfl).mp found
  rfl

/-- For every user of letters and digits, every password of small letters that stands nowhere else
in the address up to case, and every rest: an address whose rest names no place is shown as it is,
any other as its place with stars for the password. So the password is shown exactly if the rest
names no place or one of the parts that its place is written with holds the password. The latter
does not happen to a plain rest. -/
theorem maskPassword_shows_iff (h : StandsAlone user password rest) :
    let text := address user password rest
    let shown := (maskPassword (String.ofList text)).toList
    (place? rest = none → shown = text) ∧
    (∀ url, place? rest = some url →
      shown = ({ url with user, password := some ['*', '*', '*'] } : Url).render) ∧
    (password <:+: shown ↔ place? rest = none ∨
      ∃ url, place? rest = some url ∧ ∃ part ∈ placeParts url, password <:+: part) ∧
    (Plain rest → (password <:+: shown ↔ place? rest = none)) := by
  intro text shown
  have shows : shown = (place? rest).elim text fun url =>
      ({ url with user, password := some ['*', '*', '*'] } : Url).render := h.maskPassword_address
  have exactly : password <:+: shown ↔ place? rest = none ∨
      ∃ url, place? rest = some url ∧ ∃ part ∈ placeParts url, password <:+: part := by
    rw [shows]
    cases found : place? rest with
    | none => simp [text, infix_address]
    | some url =>
      have user : ¬ password <:+: user := fun inside => h.user (h.word.infix_lowered inside)
      rw [Option.elim_some, h.word.infix_masked_iff, scheme_of_place? found]
      simp only [h.scheme, user, false_or, reduceCtorEq, Option.some.injEq, exists_eq_left']
  refine ⟨?_, ?_, exactly, ?_⟩
  · intro nowhere
    rw [shows, nowhere, Option.elim_none]
  · intro url found
    rw [shows, found, Option.elim_some]
  · intro plain
    rw [exactly, or_iff_left]
    rintro ⟨url, found, part, listed, inside⟩
    exact h.not_infix_of_place? plain found part listed inside

/-- The address that the documentation of the program gives. -/
theorem maskPassword_shows_iff_social :
    let rest := "db:5432/social".toList
    StandsAlone "social".toList "secret".toList rest ∧ Plain rest ∧ place? rest ≠ none ∧
      ¬ "secret".toList <:+: (maskPassword "postgres://social:secret@db:5432/social").toList := by
  intro rest
  have alone : StandsAlone "social".toList "secret".toList rest :=
    ⟨by decide, ⟨by decide, by decide⟩, by decide, by decide, by decide⟩
  have plain : Plain rest := by
    refine ⟨by decide, fun inner within => ?_⟩
    have bracket : '[' ∈ rest := within.subset List.mem_cons_self
    exact absurd bracket (by decide)
  have reads : place? rest ≠ none := by decide +kernel
  obtain ⟨-, -, -, exactly⟩ := maskPassword_shows_iff alone
  exact ⟨alone, plain, reads, fun shown => reads ((exactly plain).mp shown)⟩

/-- A port that is too large is none, and the password in front of it is shown. -/
theorem password_shown_of_port :
    let text := "postgres://social:secret@db:543210/social"
    text.toList = address "social".toList "secret".toList "db:543210/social".toList ∧
      StandsAlone "social".toList "secret".toList "db:543210/social".toList ∧
      maskPassword text = text ∧ "secret".toList <:+: text.toList := by
  refine ⟨by decide, ⟨by decide, ⟨by decide, by decide⟩, by decide, by decide, by decide⟩, ?_, ?_⟩
  · decide +kernel
  · decide

/-- A password that comes together without a tab, and one that numbers with dots are read as. -/
example : maskPassword "postgres://u:secret@db/sec\tret" = "postgres://u:***@db/secret" ∧
    maskPassword "postgres://u:b@[::10.11.12.13]/x" = "postgres://u:***@[::a0b:c0d]/x" := by
  decide +kernel

end Parley.Url
