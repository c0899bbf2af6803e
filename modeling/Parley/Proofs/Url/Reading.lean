import Parley.Proofs.Letter.Case
import Parley.Proofs.Text.Parts
import Parley.Text.Utf8
import Parley.Url.Basic

/-!
# Addresses of the database

An address is opened by its scheme and two slashes. The text behind them is cleaned and cut into
pieces: user and password up to the last at-sign of the authority, the host, the port, and the tail
with path, query and fragment. Only a host and a port can make it unreadable.

With a user of letters and digits and a password of such characters an address is read exactly if
the same address without the two is read and has a host, and then both are read as the same place.
-/

namespace Parley.Url

variable {user password rest text behind before inner : List Char} {c d : Char} {url : Url}

/-- The scheme of the addresses of the database. -/
def databaseScheme : List Char := "postgres".toList

/-- What an address of the database begins with. -/
def opening : List Char := databaseScheme ++ "://".toList

/-- A text in front of which there is a visible character, cleaned. -/
def cleanBehind (text : List Char) : List Char :=
  (Text.dropEndWhile (fun c => c.toNat ≤ 32) text).filter fun c =>
    !(c == '\t' || c == '\n' || c == '\r')

/-- The authority at the beginning of a text. -/
def authorityText (behind : List Char) : List Char :=
  behind.takeWhile fun c => !endsAuthority false c

def userText? (behind : List Char) : Option (List Char) := (splitUser (authorityText behind)).1

/-- User and password, encoded. -/
def credentialsIn (behind : List Char) : List Char × Option (List Char) :=
  credentials ((userText? behind).getD [])

def placeText (behind : List Char) : List Char := (splitUser (authorityText behind)).2

def hostText (behind : List Char) : List Char := (splitHost false (placeText behind)).1

def portText (behind : List Char) : List Char :=
  (splitHost false (placeText behind)).2.takeWhile (· != '\\')

/-- Path, query and fragment. -/
def tailText (behind : List Char) : List Char :=
  (splitHost false (placeText behind)).2.dropWhile (· != '\\') ++
    behind.dropWhile fun c => !endsAuthority false c

def beforeFragment (tail : List Char) : List Char := tail.takeWhile (· != '#')

def pathIn (tail : List Char) : List (List Char) :=
  pathSegments false ((beforeFragment tail).takeWhile (· != '?'))

def queryIn? (tail : List Char) : Option (List Char) :=
  if (beforeFragment tail).contains '?' then
    some (percentEncode (queryCharacters false)
      (((beforeFragment tail).dropWhile (· != '?')).drop 1))
  else none

def fragmentIn? (tail : List Char) : Option (List Char) :=
  if tail.contains '#' then
    some (percentEncode fragmentCharacters ((tail.dropWhile (· != '#')).drop 1))
  else none

/-- The locator of a user at a place. -/
def located (who : List Char × Option (List Char)) (host : Host) (port : Option Nat)
    (tail : List Char) : Url where
  scheme := databaseScheme
  user := who.1
  password := who.2
  host := host
  port := port
  path := pathIn tail
  query := queryIn? tail
  fragment := fragmentIn? tail

/-- At the same place with another user. -/
theorem located_with (who : List Char × Option (List Char)) (host : Host) (port : Option Nat)
    (tail user written : List Char) :
    ({ located who host port tail with user, password := some written } : Url) =
      located (user, some written) host port tail := by
  rw [located, located]

theorem clean_opening (text : List Char) :
    clean (opening ++ text) = opening ++ cleanBehind text := by
  have visible : (opening ++ text).dropWhile (fun c => c.toNat ≤ 32) =
      "postgres:/".toList ++ '/' :: text := rfl
  rw [clean, visible, Text.dropEndWhile_append_cons rfl, List.filter_append, cleanBehind]
  rfl

theorem parse?_opening (text : List Char) : parse? (opening ++ text) = (do
    let behind := cleanBehind text
    guard !((hostText behind).isEmpty &&
      (!(portText behind).isEmpty || (userText? behind).any (· != [':'])))
    let host ← plainHost? (hostText behind)
    let port ← port? databaseScheme ((portText behind).drop 1)
    pure (located (credentialsIn behind) host port (tailText behind))) := by
  rw [parse?, clean_opening]
  rfl

theorem guard_bind_eq_some_iff {p : Prop} [Decidable p] {read : Option Url} :
    (guard p >>= fun _ => read) = some url ↔ p ∧ read = some url := by
  by_cases h : p <;> simp [guard, h]

/-- An address needs a host if it has a port or a user. -/
theorem parse?_opening_eq_some_iff (cleaned : cleanBehind text = behind) :
    parse? (opening ++ text) = some url ↔
      (hostText behind = [] → portText behind = [] ∧ ∀ info ∈ userText? behind, info = [':']) ∧
        ∃ host, plainHost? (hostText behind) = some host ∧
          ∃ port, port? databaseScheme ((portText behind).drop 1) = some port ∧
            located (credentialsIn behind) host port (tailText behind) = url := by
  have needs : (!((hostText behind).isEmpty &&
      (!(portText behind).isEmpty || (userText? behind).any (· != [':'])))) = true ↔
      (hostText behind = [] → portText behind = [] ∧ ∀ info ∈ userText? behind, info = [':']) := by
    by_cases nothing : hostText behind = []
    · cases userText? behind <;> simp [nothing]
    · simp [nothing]
  rw [parse?_opening, cleaned, guard_bind_eq_some_iff, needs]
  apply and_congr_right
  intro _
  simp only [Option.bind_eq_bind, Option.bind_eq_some_iff, pure, Option.some.injEq]

theorem cleanBehind_append (visible : ∀ c ∈ before, 32 < c.toNat) (text : List Char) :
    cleanBehind (before ++ '@' :: text) = before ++ '@' :: cleanBehind text := by
  have kept : (before ++ ['@']).filter (fun c => !(c == '\t' || c == '\n' || c == '\r')) =
      before ++ ['@'] := by
    rw [List.filter_eq_self]
    intro c listed
    have above : 32 < c.toNat := by
      rcases List.mem_append.mp listed with inFront | at_sign
      · exact visible c inFront
      · obtain rfl := List.mem_singleton.mp at_sign
        decide
    have other : ∀ d : Char, d.toNat ≤ 32 → (c == d) = false := by
      intro d below
      exact beq_eq_false_iff_ne.mpr fun same => absurd (same ▸ above) (Nat.not_lt.mpr below)
    simp [other]
  have at_sign : ('@' : Char) :: Text.dropEndWhile (fun c => c.toNat ≤ 32) text =
      ['@'] ++ Text.dropEndWhile (fun c => c.toNat ≤ 32) text := rfl
  rw [cleanBehind, Text.dropEndWhile_append_cons (by decide), at_sign, ← List.append_assoc,
    List.filter_append, kept, List.append_assoc]
  rfl

theorem splitUser_of_notMem (h : '@' ∉ text) : splitUser text = (none, text) := by
  rw [splitUser, if_neg fun listed => h (List.contains_iff_mem.mp listed)]

theorem splitUser_of_last (h : '@' ∉ text) :
    splitUser (before ++ '@' :: text) = (some before, text) := by
  have others : ∀ c ∈ text.reverse, (c != '@') = true := by
    intro c listed
    exact bne_iff_ne.mpr fun same => h (same ▸ List.mem_reverse.mp listed)
  have listed : (before ++ '@' :: text).contains '@' = true := by simp
  rw [splitUser, if_pos listed]
  simp only [List.reverse_append, List.reverse_cons, List.append_assoc, List.singleton_append]
  rw [List.takeWhile_append_of_pos others, List.dropWhile_append_of_pos others]
  simp

theorem exists_last (listed : '@' ∈ text) :
    ∃ first last, text = first ++ '@' :: last ∧ '@' ∉ last := by
  obtain ⟨after, first, whole, last⟩ := List.eq_append_cons_of_mem (List.mem_reverse.mpr listed)
  refine ⟨first.reverse, after.reverse, ?_, fun inside => last (List.mem_reverse.mp inside)⟩
  rw [← List.reverse_reverse text, whole]
  simp

theorem exists_splitUser_append (before text : List Char) : ∃ more,
    splitUser (before ++ '@' :: text) = (some (before ++ more), (splitUser text).2) := by
  by_cases listed : '@' ∈ text
  · obtain ⟨first, last, rfl, alone⟩ := exists_last listed
    have regroup : before ++ '@' :: (first ++ '@' :: last) =
        (before ++ '@' :: first) ++ '@' :: last := by
      rw [List.append_assoc, List.cons_append]
    exact ⟨'@' :: first, by rw [regroup, splitUser_of_last alone, splitUser_of_last alone]⟩
  · exact ⟨[], by rw [splitUser_of_last listed, splitUser_of_notMem listed, List.append_nil]⟩

section Front

variable (inside : ∀ c ∈ before, endsAuthority false c = false)
include inside

theorem authorityText_append (text : List Char) :
    authorityText (before ++ '@' :: text) = before ++ '@' :: authorityText text := by
  rw [authorityText, List.takeWhile_append_of_pos fun c listed => by rw [inside c listed]; rfl]
  rfl

theorem placeText_append (text : List Char) :
    placeText (before ++ '@' :: text) = placeText text := by
  obtain ⟨more, split⟩ := exists_splitUser_append before (authorityText text)
  rw [placeText, authorityText_append inside, split]
  rfl

theorem exists_userText?_append (text : List Char) :
    ∃ more, userText? (before ++ '@' :: text) = some (before ++ more) := by
  obtain ⟨more, split⟩ := exists_splitUser_append before (authorityText text)
  exact ⟨more, by rw [userText?, authorityText_append inside, split]⟩

theorem hostText_append (text : List Char) : hostText (before ++ '@' :: text) = hostText text := by
  rw [hostText, placeText_append inside, hostText]

theorem portText_append (text : List Char) : portText (before ++ '@' :: text) = portText text := by
  rw [portText, placeText_append inside, portText]

theorem tailText_append (text : List Char) : tailText (before ++ '@' :: text) = tailText text := by
  rw [tailText, placeText_append inside, tailText,
    List.dropWhile_append_of_pos fun c listed => by rw [inside c listed]; rfl]
  rfl

end Front

/-- The place that the rest of an address names: what it is read as without a user and a password.
A place has a host. -/
def place? (rest : List Char) : Option Url :=
  (parse? (opening ++ rest)).filter fun url => url.host != .name []

theorem bytes_ne_nil (c : Char) : (String.singleton c).toUTF8.toList.flatMap percentByte ≠ [] := by
  obtain ⟨b, bytes, some_byte⟩ := List.exists_cons_of_ne_nil (Text.toUTF8_singleton_ne_nil c)
  rw [some_byte]
  exact List.cons_ne_nil _ _

theorem plainHost?_ne {host : Host} (some_text : text ≠ []) (h : plainHost? text = some host) :
    host ≠ .name [] := by
  rintro rfl
  rw [plainHost?] at h
  split at h
  · obtain ⟨groups, -, other⟩ := Option.map_eq_some_iff.mp h
    exact absurd other Host.noConfusion
  · split at h
    · exact absurd h (Option.some_ne_none _).symm
    · obtain ⟨c, text, rfl⟩ := List.exists_cons_of_ne_nil some_text
      have nothing := Host.name.inj (Option.some.inj h)
      rw [percentEncode, List.flatMap_cons, List.append_eq_nil_iff] at nothing
      have written := nothing.1
      split at written
      · exact bytes_ne_nil c written
      · exact List.cons_ne_nil _ _ written

/-- A place is read from a host, a port and a tail. -/
theorem place?_eq_some_iff (cleaned : cleanBehind rest = behind) :
    place? rest = some url ↔
      hostText behind ≠ [] ∧
        ∃ host, plainHost? (hostText behind) = some host ∧
          ∃ port, port? databaseScheme ((portText behind).drop 1) = some port ∧
            located (credentialsIn behind) host port (tailText behind) = url := by
  rw [place?, Option.filter_eq_some_iff, parse?_opening_eq_some_iff cleaned]
  constructor
  · rintro ⟨⟨-, host, reads, port, behindHost, rfl⟩, some_host⟩
    refine ⟨?_, host, reads, port, behindHost, rfl⟩
    intro nothing
    rw [nothing] at reads
    obtain rfl : .name [] = host := Option.some.inj reads
    exact bne_iff_ne.mp some_host rfl
  · rintro ⟨some_text, host, reads, port, behindHost, rfl⟩
    refine ⟨⟨fun nothing => absurd nothing some_text, host, reads, port, behindHost, rfl⟩, ?_⟩
    exact bne_iff_ne.mpr (plainHost?_ne some_text reads)

/-- An address of the database: a user, a password, and the rest behind the at-sign. -/
def address (user password rest : List Char) : List Char :=
  opening ++ (user ++ ':' :: (password ++ '@' :: rest))

/-- Visible characters that end no authority and no user and are written as themselves. -/
structure Unmarked (c : Char) : Prop where
  visible : 32 < c.toNat
  inside : endsAuthority false c = false
  not_colon : (c != ':') = true
  unencoded : ¬ (c.toNat < 32 ∨ 127 ≤ c.toNat ∨ userCharacters.toList.contains c)

theorem unmarked_of_isAlphanum (h : c.isAlphanum = true) : Unmarked c := by
  obtain ⟨visible, inside, not_colon, unencoded⟩ := Letter.forall_ascii
    (p := fun c => c.isAlphanum = true → 32 < c.toNat ∧ endsAuthority false c = false ∧
      (c != ':') = true ∧
        ¬ (c.toNat < 32 ∨ 127 ≤ c.toNat ∨ userCharacters.toList.contains c))
    (by decide) (Letter.toNat_lt_of_isAlphanum h) h
  exact ⟨visible, inside, not_colon, unencoded⟩

theorem percentEncode_user (letters : ∀ c ∈ user, c.isAlphanum = true) :
    percentEncode userCharacters user = user := by
  calc percentEncode userCharacters user
      = user.flatMap ([·]) :=
        List.flatMap_congr fun c listed =>
          if_neg (unmarked_of_isAlphanum (letters c listed)).unencoded
    _ = user := List.flatMap_singleton' user

theorem credentials_append (letters : ∀ c ∈ user, c.isAlphanum = true) (h : password ≠ []) :
    credentials (user ++ ':' :: password) =
      (user, some (percentEncode userCharacters password)) := by
  have others : ∀ c ∈ user, (c != ':') = true :=
    fun c listed => (unmarked_of_isAlphanum (letters c listed)).not_colon
  rw [credentials, List.takeWhile_append_of_pos others, List.dropWhile_append_of_pos others]
  simp [percentEncode_user letters, h]

/-- The characters in front of the at-sign. -/
theorem unmarked_or_colon (letters : ∀ c ∈ user, c.isAlphanum = true)
    (plain : ∀ c ∈ password, c.isAlphanum = true) :
    ∀ c ∈ user ++ ':' :: password, Unmarked c ∨ c = ':' := by
  intro c listed
  rcases List.mem_append.mp listed with inUser | behind
  · exact .inl (unmarked_of_isAlphanum (letters c inUser))
  · rcases List.mem_cons.mp behind with colon | inPassword
    · exact .inr colon
    · exact .inl (unmarked_of_isAlphanum (plain c inPassword))

theorem ne_colon_of_password (h : password ≠ []) : user ++ ':' :: password ≠ [':'] := by
  intro alone
  have lengths := congrArg List.length alone
  have long := List.length_pos_iff.mpr h
  rw [List.length_append, List.length_cons, List.length_singleton] at lengths
  omega

/-- An address is read as the locator of its user at its place, with some password. -/
theorem parse?_address (letters : ∀ c ∈ user, c.isAlphanum = true)
    (plain : ∀ c ∈ password, c.isAlphanum = true) (nonempty : password ≠ []) (rest : List Char) :
    ∃ written, parse? (address user password rest) =
      (place? rest).map fun url => { url with user, password := some written } := by
  have front := unmarked_or_colon letters plain
  have visible : ∀ c ∈ user ++ ':' :: password, 32 < c.toNat :=
    fun c listed => (front c listed).elim Unmarked.visible fun colon => colon ▸ by decide
  have inside : ∀ c ∈ user ++ ':' :: password, endsAuthority false c = false :=
    fun c listed => (front c listed).elim Unmarked.inside fun colon => colon ▸ rfl
  obtain ⟨more, info⟩ := exists_userText?_append inside (cleanBehind rest)
  have regroup : user ++ ':' :: (password ++ '@' :: rest) =
      (user ++ ':' :: password) ++ '@' :: rest := by
    rw [List.append_assoc, List.cons_append]
  have behindUser : (user ++ ':' :: password) ++ more = user ++ ':' :: (password ++ more) := by
    rw [List.append_assoc, List.cons_append]
  have some_password : password ++ more ≠ [] := List.append_ne_nil_of_left_ne_nil nonempty more
  refine ⟨percentEncode userCharacters (password ++ more), ?_⟩
  apply Option.ext
  intro url
  rw [address, regroup, parse?_opening_eq_some_iff (cleanBehind_append visible rest),
    hostText_append inside, portText_append inside, tailText_append inside, credentialsIn, info,
    behindUser, Option.getD_some, credentials_append letters some_password, Option.map_eq_some_iff]
  constructor
  · rintro ⟨needs, host, reads, port, behindHost, rfl⟩
    refine ⟨_, (place?_eq_some_iff rfl).mpr ⟨?_, host, reads, port, behindHost, rfl⟩,
      located_with ..⟩
    intro nothing
    obtain ⟨-, alone⟩ := needs nothing
    exact ne_colon_of_password some_password (alone _ rfl)
  · rintro ⟨place, found, rfl⟩
    obtain ⟨some_text, host, reads, port, behindHost, rfl⟩ := (place?_eq_some_iff rfl).mp found
    exact ⟨fun nothing => absurd nothing some_text, host, reads, port, behindHost,
      (located_with ..).symm⟩

theorem splitUser_isSuffix (text : List Char) : (splitUser text).2 <:+ text := by
  by_cases listed : '@' ∈ text
  · obtain ⟨first, last, rfl, alone⟩ := exists_last listed
    rw [splitUser_of_last alone]
    exact List.suffix_append_of_suffix (List.suffix_cons '@' last)
  · rw [splitUser_of_notMem listed]

theorem splitHost_append (inside : Bool) (text : List Char) :
    (splitHost inside text).1 ++ (splitHost inside text).2 = text := by
  induction text generalizing inside with
  | nil => rfl
  | cons c text ih =>
    rw [splitHost]
    split
    · rfl
    · exact congrArg (c :: ·) (ih _)

theorem hostText_isInfix (behind : List Char) : hostText behind <:+: behind := by
  have start : hostText behind <+: placeText behind :=
    ⟨_, splitHost_append false (placeText behind)⟩
  exact start.isInfix.trans ((splitUser_isSuffix _).isInfix.trans (List.takeWhile_prefix _).isInfix)

theorem tailText_isInfix (behind : List Char) : tailText behind <:+: behind := by
  obtain ⟨first, whole⟩ : (splitHost false (placeText behind)).2.dropWhile (· != '\\') <:+
      authorityText behind :=
    (List.dropWhile_suffix _).trans
      (List.IsSuffix.trans ⟨_, splitHost_append false (placeText behind)⟩ (splitUser_isSuffix _))
  refine List.IsSuffix.isInfix ⟨first, ?_⟩
  rw [tailText, ← List.append_assoc, whole]
  exact List.takeWhile_append_dropWhile

theorem eq_of_bracketed? (h : bracketed? text = some inner) :
    text = '[' :: (inner ++ [']']) := by
  unfold bracketed? at h
  split at h
  · next rest =>
    split at h
    · next closes =>
      obtain rfl := Option.some.inj h
      rw [List.dropLast_append_getLast? _ closes]
    · exact absurd h (Option.some_ne_none inner).symm
  · exact absurd h (Option.some_ne_none inner).symm

theorem parent_subset (done : List (List Char)) : parent done ⊆ done := by
  cases done with
  | nil => exact List.Subset.refl []
  | cons segment above =>
    rw [parent]
    split
    · exact List.Subset.refl _
    · exact List.subset_cons_self segment above

/-- Resolving dots drops segments, and adds empty ones only. -/
theorem resolveDots_subset (done segments : List (List Char)) :
    resolveDots done segments ⊆ [] :: (done ++ segments) := by
  induction segments generalizing done with
  | nil =>
    intro s listed
    rw [resolveDots, List.mem_reverse] at listed
    exact List.mem_cons_of_mem [] (List.mem_append_left [] listed)
  | cons segment segments ih =>
    have kept : ∀ {more : List (List Char)}, more ⊆ [] :: segment :: done →
        resolveDots more segments ⊆ [] :: (done ++ segment :: segments) := by
      intro more comes s listed
      have here := ih more listed
      have there := @comes s
      simp only [List.mem_cons, List.mem_append] at here there ⊢
      tauto
    have above : ∀ {more : List (List Char)}, more ⊆ done → more ⊆ [] :: segment :: done := by
      intro more within s listed
      exact List.mem_cons_of_mem [] (List.mem_cons_of_mem segment (within listed))
    have under : ∀ {more : List (List Char)}, more ⊆ done → [] :: more ⊆ [] :: segment :: done := by
      intro more within
      exact List.cons_subset_cons [] fun s listed => List.mem_cons_of_mem segment (within listed)
    rw [resolveDots]
    split
    · apply kept
      split
      · exact under (parent_subset done)
      · exact above (parent_subset done)
    · split
      · apply kept
        split
        · exact under (List.Subset.refl done)
        · exact above (List.Subset.refl done)
      · exact kept (List.subset_cons_self [] (segment :: done))

theorem exists_of_mem_pathSegments {segment : List Char} (h : segment ∈ pathSegments false text) :
    segment = [] ∨ ∃ piece, piece <:+: text ∧ segment = percentEncode pathCharacters piece := by
  have resolved : ∀ rest : List Char, rest <:+: text →
      segment ∈ resolveDots [] ((Text.splitAt '/' rest).map (percentEncode pathCharacters)) →
      segment = [] ∨ ∃ piece, piece <:+: text ∧ segment = percentEncode pathCharacters piece := by
    intro rest within h
    rcases List.mem_cons.mp (resolveDots_subset _ _ h) with nothing | listed
    · exact .inl nothing
    · obtain ⟨piece, ofRest, rfl⟩ := List.mem_map.mp listed
      exact .inr ⟨piece, (Text.infix_of_mem_splitAt ofRest).trans within, rfl⟩
  rw [pathSegments] at h
  simp only [Bool.false_eq_true, if_false] at h
  split at h
  · exact absurd h List.not_mem_nil
  · next rest => exact resolved rest (List.suffix_cons '/' rest).isInfix h
  · exact resolved text List.infix_rfl h

/-- The parts of a tail are encoded pieces of it, or empty. -/
theorem exists_piece {tail part : List Char}
    (listed : part ∈ pathIn tail ∨ queryIn? tail = some part ∨ fragmentIn? tail = some part) :
    part = [] ∨ ∃ extra piece, piece <:+: tail ∧ part = percentEncode extra piece := by
  have before : beforeFragment tail <:+: tail := (List.takeWhile_prefix _).isInfix
  have behindMark : ∀ (mark : Char) (text : List Char),
      (text.dropWhile (· != mark)).drop 1 <:+: text := fun mark text =>
    ((List.drop_suffix 1 _).trans (List.dropWhile_suffix _)).isInfix
  rcases listed with path | query | fragment
  · rcases exists_of_mem_pathSegments path with nothing | ⟨piece, ofPath, same⟩
    · exact .inl nothing
    · exact .inr ⟨_, piece, ofPath.trans ((List.takeWhile_prefix _).isInfix.trans before), same⟩
  · rw [queryIn?] at query
    split at query
    · exact .inr ⟨_, _, (behindMark '?' _).trans before, (Option.some.inj query).symm⟩
    · exact absurd query (Option.some_ne_none part).symm
  · rw [fragmentIn?] at fragment
    split at fragment
    · exact .inr ⟨_, _, behindMark '#' tail, (Option.some.inj fragment).symm⟩
    · exact absurd fragment (Option.some_ne_none part).symm

end Parley.Url
