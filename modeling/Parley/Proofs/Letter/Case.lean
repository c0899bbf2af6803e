import Mathlib.Data.List.Basic
import Parley.Text.Letter.Case
import Parley.Text.Letter.Word

/-!
# Laws of the letter tables

Each law is checked once for every span of a table and not for every character of it: a span moves
its characters to one interval, so it is enough to look at the ends. The laws are that capitals and
their small forms are word characters, that taking the small form of a capital does not change
which ASCII characters it agrees with up to case, and that no capital arises from one. A capital
without a small form is kept. For the others, the interval that a span of the table moves its
characters to is looked up in the table: it lies between the spans, or its characters in between
those of a span that lists every second code point.
-/

namespace Parley.Letter

variable {c d w : Char} {n : Nat}

/-- What holds of a list of characters is decided along the list, not over all characters. -/
instance (priority := high) decidableForallMem (p : Char → Prop) [DecidablePred p]
    (text : List Char) : Decidable (∀ c ∈ text, p c) :=
  List.decidableBAll p text

theorem toNat_ofNat (h : n.isValidChar) : (Char.ofNat n).toNat = n := by
  rw [Char.ofNat, dif_pos h]
  rfl

theorem Span.of_find?_eq_some {spans : List Span} {s : Span} (h : Span.find? spans n = some s) :
    s ∈ spans ∧ s.covers n = true := by
  induction spans with
  | nil => exact absurd h (by simp [Span.find?])
  | cons t spans ih =>
    rw [Span.find?] at h
    split at h
    · exact absurd h (by simp)
    · split at h
      · next covered =>
        obtain rfl := Option.some.inj h
        exact ⟨List.mem_cons_self, covered⟩
      · obtain ⟨listed, covered⟩ := ih h
        exact ⟨List.mem_cons_of_mem t listed, covered⟩

theorem Span.bounds_of_covers {s : Span} (h : s.covers n = true) : s.first ≤ n ∧ n ≤ s.last := by
  simp only [Span.covers, Bool.and_eq_true, decide_eq_true_eq] at h
  exact h.1

/-- The interval that a span moves its characters to holds characters, from `low` on. -/
def Span.Lands (s : Span) (low : Nat) : Prop :=
  low ≤ s.first + s.shift ∧
    (s.last + s.shift < 0xD800 ∨ 0xE000 ≤ s.first + s.shift ∧ s.last + s.shift < 0x110000)

instance (s : Span) (low : Nat) : Decidable (s.Lands low) :=
  inferInstanceAs (Decidable (_ ∧ _))

theorem Span.toNat_apply {s : Span} {low : Nat} (lands : s.Lands low)
    (h : s.covers n = true) : ((s.apply n).toNat : Int) = n + s.shift := by
  obtain ⟨hlow, valid⟩ := lands
  obtain ⟨hfirst, hlast⟩ := Span.bounds_of_covers h
  have isChar : (n + s.shift).toNat.isValidChar := by
    simp only [Nat.isValidChar]
    omega
  rw [Span.apply, toNat_ofNat isChar]
  omega

/-- Ranges in increasing order, none of them below a bound. -/
def IncreasingFrom : Nat → List (Nat × Nat) → Bool
  | _, [] => true
  | low, (first, last) :: rest =>
    decide (low ≤ first) && decide (first ≤ last) && IncreasingFrom last rest

theorem le_of_increasingFrom {ranges : List (Nat × Nat)} {low first last : Nat}
    (increasing : IncreasingFrom low ranges = true) (listed : (first, last) ∈ ranges) :
    low ≤ first := by
  induction ranges generalizing low with
  | nil => exact absurd listed List.not_mem_nil
  | cons range rest ih =>
    obtain ⟨a, b⟩ := range
    simp only [IncreasingFrom, Bool.and_eq_true, decide_eq_true_eq] at increasing
    obtain ⟨⟨hlow, hab⟩, increasing⟩ := increasing
    rcases List.mem_cons.mp listed with same | listed
    · obtain ⟨rfl, rfl⟩ := Prod.mk.inj same
      exact hlow
    · exact Nat.le_trans hlow (Nat.le_trans hab (ih increasing listed))

theorem inRanges_of_mem {ranges : List (Nat × Nat)} {low first last : Nat}
    (increasing : IncreasingFrom low ranges = true) (listed : (first, last) ∈ ranges)
    (hfirst : first ≤ n) (hlast : n ≤ last) : inRanges ranges n = true := by
  induction ranges generalizing low with
  | nil => exact absurd listed List.not_mem_nil
  | cons range rest ih =>
    obtain ⟨a, b⟩ := range
    simp only [IncreasingFrom, Bool.and_eq_true, decide_eq_true_eq] at increasing
    obtain ⟨⟨_, hab⟩, increasing⟩ := increasing
    rw [inRanges]
    rcases List.mem_cons.mp listed with same | listed
    · obtain ⟨rfl, rfl⟩ := Prod.mk.inj same
      rw [if_neg (Nat.not_lt.mpr hfirst), if_pos hlast]
    · have hbf : b ≤ first := le_of_increasingFrom increasing listed
      rw [if_neg (by omega)]
      split
      · rfl
      · exact ih increasing listed

/-- Whether a span of a few characters moves each of them to a word character, when it moves its
first one to `a`. -/
def Span.movesToWords (s : Span) (a : Nat) : Bool :=
  s.last < s.first + 26 && (List.range 26).all fun i =>
    !s.covers (s.first + i) || isWordChar (Char.ofNat (a + i))

/-- Where to look for the range of `a`: in the ranges that are left, or from the start if they lie
behind it. -/
def rangesFor (a : Nat) : List (Nat × Nat) → List (Nat × Nat)
  | [] => wordRanges
  | (first, last) :: rest => bif Nat.ble first a then (first, last) :: rest else wordRanges

/-- Whether each span moves its characters to word characters, mostly into one range. The ranges
are gone through along with the spans. -/
def toWords (shift : Span → Int) : List Span → List (Nat × Nat) → Bool
  | [], _ => true
  | s :: rest, ranges =>
    match s.first + shift s, s.last + shift s with
    | .ofNat a, .ofNat b =>
      match (rangesFor a ranges).dropWhile fun range => !Nat.ble b range.2 with
      | [] => false
      | (first, last) :: more =>
        (Nat.ble first a || s.movesToWords a) && toWords shift rest ((first, last) :: more)
    | _, _ => false

/-- The small letter s in its long form. With the sign for kelvin it is all that agrees up to case
with an ASCII character without being one. -/
def longS : Char := '\u017F'

def kelvinSign : Char := '\u212A'

/-- What the tables are checked for, span by span. -/
structure Checked : Prop where
  increasing : IncreasingFrom 128 wordRanges = true
  capitals_toWords : toWords (fun _ => 0) capitals wordRanges = true
  smallForms_toWords : toWords Span.shift capitals wordRanges = true
  smallForms_land : ∀ s ∈ capitals, s.Lands 97
  folds : ∀ s ∈ capitals ++ otherCapitals ++ foldExceptions,
    s.Lands 128 ∨ s.last < 128 ∨
      s.first = s.last ∧ (s.first = longS.toNat ∨ s.first = kelvinSign.toNat)
  smallForms : ∀ s ∈ capitals, s.last < 128 ∨
    s.first = s.last ∧ s.first = kelvinSign.toNat ∨
      s.Lands 128 ∧ (s.last + s.shift < longS.toNat ∨ longS.toNat < s.first + s.shift) ∧
        (s.last + s.shift < kelvinSign.toNat ∨ kelvinSign.toNat < s.first + s.shift)

theorem checked : Checked := by
  constructor <;> decide +kernel

theorem isWordChar_of_mem_range {first last : Nat} (listed : (first, last) ∈ wordRanges)
    (hfirst : first ≤ c.toNat) (hlast : c.toNat ≤ last) : isWordChar c = true := by
  have above : 128 ≤ first := le_of_increasingFrom checked.increasing listed
  rw [isWordChar, if_neg (by omega)]
  exact inRanges_of_mem checked.increasing listed hfirst hlast

theorem rangesFor_subset {a : Nat} {ranges : List (Nat × Nat)} (h : ranges ⊆ wordRanges) :
    rangesFor a ranges ⊆ wordRanges := by
  cases ranges with
  | nil => exact fun _ listed => listed
  | cons range rest =>
    rw [rangesFor]
    cases Nat.ble range.1 a with
    | true => exact h
    | false => exact fun _ listed => listed

theorem isWordChar_of_movesToWords {s : Span} {shift : Int} {a : Nat}
    (words : s.movesToWords a = true) (ha : s.first + shift = a) (h : s.covers n = true)
    (same : (c.toNat : Int) = n + shift) : isWordChar c = true := by
  obtain ⟨hfirst, hlast⟩ := Span.bounds_of_covers h
  simp only [Span.movesToWords, Bool.and_eq_true, decide_eq_true_eq, List.all_eq_true,
    List.mem_range] at words
  have word := words.2 (n - s.first) (by omega)
  have here : a + (n - s.first) = c.toNat := by omega
  rwa [Nat.add_sub_cancel' hfirst, h, Bool.not_true, Bool.false_or, here,
    Char.ofNat_toNat] at word

theorem isWordChar_of_toWords {shift : Span → Int} {spans : List Span} {ranges : List (Nat × Nat)}
    (words : toWords shift spans ranges = true) (subset : ranges ⊆ wordRanges) {s : Span}
    (listed : s ∈ spans) (h : s.covers n = true) (same : (c.toNat : Int) = n + shift s) :
    isWordChar c = true := by
  induction spans generalizing ranges with
  | nil => exact absurd listed List.not_mem_nil
  | cons t rest ih =>
    rw [toWords] at words
    split at words
    · next a b ha hb =>
      split at words
      · exact absurd words Bool.false_ne_true
      · next first last more found =>
        have left : (first, last) :: more ⊆ wordRanges := by
          rw [← found]
          exact fun _ inside =>
            rangesFor_subset subset ((List.dropWhile_suffix _).subset inside)
        have reaches : b ≤ last := by
          have head := List.head?_dropWhile_not (fun range => !Nat.ble b range.2) (rangesFor a ranges)
          rw [found] at head
          simpa using head
        rw [Bool.and_eq_true, Bool.or_eq_true] at words
        rcases List.mem_cons.mp listed with rfl | listed
        · simp only [Int.ofNat_eq_natCast] at ha hb
          obtain ⟨hfirst, hlast⟩ := Span.bounds_of_covers h
          rcases words.1 with starts | moved
          · have starts : first ≤ a := Nat.le_of_ble_eq_true starts
            exact isWordChar_of_mem_range (left List.mem_cons_self) (by omega) (by omega)
          · exact isWordChar_of_movesToWords moved ha h same
        · exact ih words.2 left listed
    · exact absurd words Bool.false_ne_true

theorem exists_span_of_isCapital (h : isCapital c = true) :
    ∃ s ∈ capitals, s.covers c.toNat = true ∧ lowerOne c = s.apply c.toNat := by
  obtain ⟨s, found⟩ := Option.isSome_iff_exists.mp h
  obtain ⟨listed, covered⟩ := Span.of_find?_eq_some found
  exact ⟨s, listed, covered, by rw [lowerOne, found]⟩

theorem isWordChar_of_isCapital (h : isCapital c = true) : isWordChar c = true := by
  obtain ⟨s, listed, covered, _⟩ := exists_span_of_isCapital h
  exact isWordChar_of_toWords checked.capitals_toWords (fun _ inside => inside) listed covered
    (Int.add_zero _).symm

theorem toNat_lowerOne (h : isCapital c = true) :
    ∃ s ∈ capitals, s.covers c.toNat = true ∧ ((lowerOne c).toNat : Int) = c.toNat + s.shift := by
  obtain ⟨s, listed, covered, same⟩ := exists_span_of_isCapital h
  exact ⟨s, listed, covered, same ▸ Span.toNat_apply (checked.smallForms_land s listed) covered⟩

theorem isWordChar_lowerOne (h : isCapital c = true) : isWordChar (lowerOne c) = true := by
  obtain ⟨s, listed, covered, same⟩ := toNat_lowerOne h
  exact isWordChar_of_toWords checked.smallForms_toWords (fun _ inside => inside) listed covered same

theorem isWordChar_of_mem_lower (h : isCapital c = true) (hd : d ∈ lower c) :
    isWordChar d = true := by
  rw [lower] at hd
  split at hd
  · rcases List.mem_pair.mp hd with rfl | rfl <;> decide
  · rw [List.mem_singleton.mp hd]
    exact isWordChar_lowerOne h

theorem sameLetter_iff : sameLetter c d = true ↔ fold c = fold d := by
  simp only [sameLetter, Bool.or_eq_true, beq_iff_eq]
  constructor
  · rintro (rfl | same)
    · rfl
    · exact same
  · exact .inr

/-- A statement about all ASCII characters, checked one by one. -/
theorem forall_ascii {p : Char → Prop} (h : ∀ n < 128, p (Char.ofNat n)) (hc : c.toNat < 128) :
    p c := by
  have := h c.toNat hc
  rwa [Char.ofNat_toNat] at this

theorem toNat_lt_of_isAlpha (h : w.isAlpha = true) : w.toNat < 128 := by
  delta Char.isAlpha Char.isUpper Char.isLower at h
  simp only [Bool.or_eq_true, Bool.and_eq_true, decide_eq_true_eq, ge_iff_le,
    UInt32.le_iff_toNat_le] at h
  change w.val.toNat < 128
  rcases h with ⟨_, (high : _ ≤ 90)⟩ | ⟨_, (high : _ ≤ 122)⟩ <;> omega

theorem toNat_lt_of_isAlphanum (h : w.isAlphanum = true) : w.toNat < 128 := by
  delta Char.isAlphanum Char.isDigit at h
  rcases Bool.or_eq_true_iff.mp h with letter | digit
  · exact toNat_lt_of_isAlpha letter
  · have below : w ≤ '9' := of_decide_eq_true (Bool.and_eq_true_iff.mp digit).2
    exact Nat.lt_of_le_of_lt below (by decide)

theorem eq_of_toNat_eq (h : c.toNat = d.toNat) : c = d := by
  rw [← Char.ofNat_toNat c, h, Char.ofNat_toNat]

/-- A character that has a small form is moved by its span, any other is its own. -/
theorem lowerOne_cases (c : Char) : lowerOne c = c ∨
    ∃ s ∈ capitals ++ otherCapitals, s.covers c.toNat = true ∧ lowerOne c = s.apply c.toNat := by
  rw [lowerOne]
  split
  · next s found =>
    obtain ⟨listed, covered⟩ := Span.of_find?_eq_some found
    exact .inr ⟨s, List.mem_append_left _ listed, covered, rfl⟩
  · split
    · next s found =>
      obtain ⟨listed, covered⟩ := Span.of_find?_eq_some found
      exact .inr ⟨s, List.mem_append_right _ listed, covered, rfl⟩
    · exact .inl rfl

/-- A character of one of the case tables is moved by its span, any other is its own fold. -/
theorem fold_cases (c : Char) : fold c = c ∨
    ∃ s ∈ capitals ++ otherCapitals ++ foldExceptions,
      s.covers c.toNat = true ∧ fold c = s.apply c.toNat := by
  rw [fold]
  split
  · next s found =>
    obtain ⟨listed, covered⟩ := Span.of_find?_eq_some found
    exact .inr ⟨s, List.mem_append_right _ listed, covered, rfl⟩
  · exact (lowerOne_cases c).imp_right fun ⟨s, listed, moved⟩ =>
      ⟨s, List.mem_append_left _ listed, moved⟩

/-- What a span moves into ASCII is in ASCII, but for two letters. -/
theorem ascii_of_apply {s : Span} (listed : s ∈ capitals ++ otherCapitals ++ foldExceptions)
    (covered : s.covers c.toNat = true) (h : (s.apply c.toNat).toNat < 128) :
    c.toNat < 128 ∨ c = longS ∨ c = kelvinSign := by
  obtain ⟨hfirst, hlast⟩ := Span.bounds_of_covers covered
  rcases checked.folds s listed with lands | below | ⟨single, isLong | isKelvin⟩
  · have moved := Span.toNat_apply lands covered
    have := lands.1
    omega
  · exact .inl (by omega)
  · exact .inr (.inl (eq_of_toNat_eq (by omega)))
  · exact .inr (.inr (eq_of_toNat_eq (by omega)))

theorem ascii_of_fold (h : (fold c).toNat < 128) :
    c.toNat < 128 ∨ c = longS ∨ c = kelvinSign := by
  rcases fold_cases c with same | ⟨s, listed, covered, same⟩
  · rw [same] at h
    exact .inl h
  · rw [same] at h
    exact ascii_of_apply listed covered h

theorem ascii_of_lowerOne (h : (lowerOne c).toNat < 128) :
    c.toNat < 128 ∨ c = longS ∨ c = kelvinSign := by
  rcases lowerOne_cases c with same | ⟨s, listed, covered, same⟩
  · rw [same] at h
    exact .inl h
  · rw [same] at h
    exact ascii_of_apply (List.mem_append_left _ listed) covered h

theorem toNat_fold_lt (hw : w.toNat < 128) : (fold w).toNat < 128 :=
  forall_ascii (p := fun w => (fold w).toNat < 128) (by decide) hw

/-- What agrees with an ASCII character up to case is in ASCII, but for two letters. -/
theorem ascii_of_sameLetter (hw : w.toNat < 128) (h : sameLetter w c = true) :
    c.toNat < 128 ∨ c = longS ∨ c = kelvinSign := by
  have small := toNat_fold_lt hw
  rw [sameLetter_iff.mp h] at small
  exact ascii_of_fold small

/-- An ASCII character that is no letter agrees up to case with itself alone. -/
theorem eq_of_sameLetter_of_not_isAlpha (hd : d.toNat < 128) (noLetter : d.isAlpha = false)
    (h : sameLetter c d = true) : c = d := by
  have folded : fold d = d :=
    forall_ascii (p := fun d => d.isAlpha = false → fold d = d) (by decide) hd noLetter
  have same : fold c = d := (sameLetter_iff.mp h).trans folded
  rw [← same] at hd noLetter
  rcases ascii_of_fold hd with ascii | rfl | rfl
  · have kept : fold c = c := forall_ascii
      (p := fun c => (fold c).isAlpha = false → fold c = c) (by decide) ascii noLetter
    exact kept.symm.trans same
  · exact absurd noLetter (by decide)
  · exact absurd noLetter (by decide)

theorem ascii_of_fold_lowerOne (hc : isCapital c = true) (h : (fold (lowerOne c)).toNat < 128) :
    c.toNat < 128 ∨ c = kelvinSign := by
  obtain ⟨s, listed, covered, moved⟩ := toNat_lowerOne hc
  obtain ⟨hfirst, hlast⟩ := Span.bounds_of_covers covered
  rcases checked.smallForms s listed with below | ⟨single, isKelvin⟩ | ⟨lands, notLong, notKelvin⟩
  · exact .inl (by omega)
  · exact .inr (eq_of_toNat_eq (by omega))
  · have := lands.1
    rcases ascii_of_fold h with ascii | isLong | isKelvin
    · omega
    · rw [isLong] at moved
      omega
    · rw [isKelvin] at moved
      omega

theorem fold_lowerOne_of_ascii (h : c.toNat < 128 ∨ c = kelvinSign) :
    fold (lowerOne c) = fold c := by
  rcases h with ascii | rfl
  · exact forall_ascii (p := fun c => fold (lowerOne c) = fold c) (by decide) ascii
  · decide

/-- A capital and its small form agree with the same ASCII characters. -/
theorem sameLetter_lowerOne (hw : w.toNat < 128) (hc : isCapital c = true) :
    sameLetter w (lowerOne c) = sameLetter w c := by
  have small := toNat_fold_lt hw
  rw [Bool.eq_iff_iff, sameLetter_iff, sameLetter_iff]
  constructor
  · intro same
    rw [same] at small
    rw [same, fold_lowerOne_of_ascii (ascii_of_fold_lowerOne hc small)]
  · intro same
    rw [same] at small
    have ascii : c.toNat < 128 ∨ c = kelvinSign := by
      rcases ascii_of_fold small with ascii | rfl | isKelvin
      · exact .inl ascii
      · exact absurd hc (by decide)
      · exact .inr isKelvin
    rw [same, fold_lowerOne_of_ascii ascii]

/-- Apart from the letter k, which is a small form of the sign for kelvin too, an ASCII character is
the small form of those that differ from it in their ASCII case. -/
theorem lowerOne_eq_iff (ascii : d.toNat < 128) (not_k : d ≠ 'k') :
    lowerOne c = d ↔ lowerAscii c = d := by
  by_cases small : c.toNat < 128
  · have same : lowerOne c = lowerAscii c :=
      forall_ascii (p := fun c => lowerOne c = lowerAscii c) (by decide) small
    rw [same]
  · have kept : lowerAscii c = c := by
      refine if_neg fun between => small ?_
      obtain ⟨-, last⟩ := Bool.and_eq_true_iff.mp between
      have below : c.toNat ≤ 'Z'.toNat := of_decide_eq_true last
      exact Nat.lt_of_le_of_lt below (by decide)
    constructor
    · rintro rfl
      rcases ascii_of_lowerOne ascii with below | rfl | rfl
      · exact absurd below small
      · exact absurd ascii (by decide)
      · exact absurd rfl not_k
    · rw [kept]
      rintro rfl
      exact absurd ascii small

theorem lowerAll_eq_iff {text small : List Char}
    (ascii : ∀ d ∈ small, d.toNat < 128 ∧ d ≠ 'k') :
    lowerAll text = small ↔ text.map lowerAscii = small := by
  induction text generalizing small with
  | nil => exact Iff.rfl
  | cons c text ih =>
    rw [lowerAll, List.flatMap_cons, List.map_cons, lower]
    split
    · next dotted =>
      -- The small form has a dot of its own, which is not in ASCII.
      subst dotted
      constructor
      · rintro rfl
        have dot := (ascii '\u0307' (List.mem_cons_of_mem _ List.mem_cons_self)).1
        exact absurd dot (by decide)
      · rintro rfl
        exact absurd (ascii _ List.mem_cons_self).1 (by decide)
    · cases small with
      | nil => exact iff_of_false (List.cons_ne_nil _ _) (List.cons_ne_nil _ _)
      | cons d small =>
        obtain ⟨here, later⟩ := List.forall_mem_cons.mp ascii
        rw [List.singleton_append, List.cons.injEq, List.cons.injEq, lowerOne_eq_iff here.1 here.2]
        exact and_congr_right fun _ => ih later

section SmallForms

variable {a b step : Nat} {spans : List Span}

/-- Whether every `step`-th code point from `a` to `b` is looked up in vain. -/
def missesFrom (a b step : Nat) : List Span → Bool
  | [] => true
  | s :: rest =>
    Nat.blt b s.first ||
      (Nat.blt s.last a || step == 2 && s.step == 2 && (a + s.first) % 2 == 1) &&
        missesFrom a b step rest

def Span.missesCapitals (s : Span) : Bool :=
  match s.first + s.shift, s.last + s.shift with
  | .ofNat a, .ofNat b => missesFrom a b s.step capitals
  | _, _ => false

theorem smallForms_missCapitals : ∀ s ∈ capitals, s.shift = 0 ∨ s.missesCapitals = true := by
  decide +kernel

theorem find?_eq_none_of_missesFrom (h : missesFrom a b step spans = true) (ha : a ≤ n)
    (hb : n ≤ b) (hstep : (n - a) % step = 0) : Span.find? spans n = none := by
  induction spans with
  | nil => rfl
  | cons s rest ih =>
    simp only [missesFrom, Bool.or_eq_true, Bool.and_eq_true, beq_iff_eq, Nat.blt_eq] at h
    rw [Span.find?]
    split
    · rfl
    · rcases h with behind | ⟨apart, later⟩
      · omega
      · have uncovered : ¬ s.covers n = true := by
          intro covered
          obtain ⟨hfirst, hlast⟩ := Span.bounds_of_covers covered
          rcases apart with before | ⟨⟨rfl, second⟩, odd⟩
          · omega
          · simp only [Span.covers, second, Bool.and_eq_true, beq_iff_eq] at covered
            omega
        rw [if_neg uncovered]
        exact ih later

theorem not_isCapital_of_missesCapitals {s : Span} (h : s.missesCapitals = true)
    (covered : s.covers n = true) (moved : (c.toNat : Int) = n + s.shift) :
    isCapital c = false := by
  obtain ⟨hfirst, hlast⟩ := Span.bounds_of_covers covered
  simp only [Span.covers, Bool.and_eq_true, beq_iff_eq] at covered
  rw [Span.missesCapitals] at h
  split at h
  · next a b ha hb =>
    simp only [Int.ofNat_eq_natCast] at ha hb
    have same : c.toNat - a = n - s.first := by omega
    rw [isCapital, find?_eq_none_of_missesFrom h (by omega) (by omega) (same ▸ covered.2)]
    rfl
  · exact absurd h Bool.false_ne_true

theorem lowerOne_eq_or_not_isCapital (h : isCapital c = true) :
    lowerOne c = c ∨ isCapital (lowerOne c) = false := by
  obtain ⟨s, listed, covered, moved⟩ := toNat_lowerOne h
  rcases smallForms_missCapitals s listed with kept | misses
  · exact .inl (eq_of_toNat_eq (by omega))
  · exact .inr (not_isCapital_of_missesCapitals misses covered moved)

/-- A capital is kept, or is written with characters that are no capitals. -/
theorem lower_eq_or_not_isCapital (h : isCapital c = true) :
    lower c = [c] ∨ ∀ d ∈ lower c, isCapital d = false := by
  rw [lower]
  split
  · exact .inr (by decide)
  · rcases lowerOne_eq_or_not_isCapital h with kept | small
    · exact .inl (congrArg (fun d => [d]) kept)
    · refine .inr fun d hd => ?_
      rw [List.mem_singleton.mp hd]
      exact small

end SmallForms

end Parley.Letter
