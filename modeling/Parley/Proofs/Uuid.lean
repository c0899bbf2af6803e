import Mathlib.Data.List.Basic
import Mathlib.Tactic.Ring
import Parley.Uuid

/-!
# Written identifiers

Identifiers are told apart by how they are written, and all are written with 36 characters. So a
name that begins with a written identifier determines it. A written identifier reads as itself.
-/

namespace Parley.Uuid

open Text (hexDigit)

variable {digits : List Char} {a b count n : Nat}

theorem hexDigit_injective : ∀ a < 16, ∀ b < 16, hexDigit a = hexDigit b → a = b := by
  decide

theorem hexDigit_ne_hyphen : ∀ a < 16, (hexDigit a != '-') = true := by
  decide

theorem length_hexDigits (n count : Nat) : (hexDigits n count).length = count := by
  induction count with
  | zero => rfl
  | succ count ih => rw [hexDigits, List.length_cons, ih]

/-- The digits determine the number below the power of sixteen that they reach to. -/
theorem mod_eq_of_hexDigits (h : hexDigits a count = hexDigits b count) :
    a % Nat.pow 16 count = b % Nat.pow 16 count := by
  induction count with
  | zero => exact (Nat.mod_one a).trans (Nat.mod_one b).symm
  | succ count ih =>
    obtain ⟨first, rest⟩ := List.cons.inj h
    have below : ∀ n, n / Nat.pow 16 count % 16 < 16 := fun n => Nat.mod_lt _ (by decide)
    have leading : a / Nat.pow 16 count % 16 = b / Nat.pow 16 count % 16 :=
      hexDigit_injective _ (below a) _ (below b) first
    have split : ∀ n, n % Nat.pow 16 (count + 1) =
        n % Nat.pow 16 count + Nat.pow 16 count * (n / Nat.pow 16 count % 16) := fun n =>
      Nat.mod_pow_succ
    rw [split, split, ih rest, leading]

theorem exists_of_mem_hexDigits {c : Char} (h : c ∈ hexDigits n count) :
    ∃ a < 16, hexDigit a = c := by
  induction count with
  | zero => exact absurd h List.not_mem_nil
  | succ count ih =>
    rcases List.mem_cons.mp h with rfl | h
    · exact ⟨_, Nat.mod_lt _ (by decide), rfl⟩
    · exact ih h

theorem ne_hyphen_of_mem_hexDigits : ∀ c ∈ hexDigits n count, (c != '-') = true := by
  intro c hc
  obtain ⟨a, below, rfl⟩ := exists_of_mem_hexDigits hc
  exact hexDigit_ne_hyphen a below

/-- The groups together are the digits. -/
theorem groups_append (digits : List Char) : digits.take 8 ++ ((digits.drop 8).take 4 ++
    ((digits.drop 12).take 4 ++ ((digits.drop 16).take 4 ++ digits.drop 20))) = digits := by
  have last := List.take_append_drop 4 (digits.drop 16)
  have third := List.take_append_drop 4 (digits.drop 12)
  have second := List.take_append_drop 4 (digits.drop 8)
  rw [List.drop_drop] at last third second
  rw [last, third, second, List.take_append_drop]

/-- Without the hyphens the groups are the digits again. -/
theorem filter_hyphenate (h : ∀ c ∈ digits, (c != '-') = true) :
    (hyphenate digits).filter (· != '-') = digits := by
  have kept : ∀ part : List Char, (∀ c ∈ part, c ∈ digits) → part.filter (· != '-') = part :=
    fun part inside => List.filter_eq_self.mpr fun c hc => h c (inside c hc)
  calc (hyphenate digits).filter (· != '-')
      = digits.take 8 ++ ((digits.drop 8).take 4 ++ ((digits.drop 12).take 4 ++
          ((digits.drop 16).take 4 ++ digits.drop 20))) := by
        simp only [hyphenate, List.filter_append, List.filter_cons]
        rw [kept _ fun c hc => List.mem_of_mem_take hc,
          kept _ fun c hc => List.mem_of_mem_drop (List.mem_of_mem_take hc),
          kept _ fun c hc => List.mem_of_mem_drop (List.mem_of_mem_take hc),
          kept _ fun c hc => List.mem_of_mem_drop (List.mem_of_mem_take hc),
          kept _ fun c hc => List.mem_of_mem_drop hc]
        rfl
    _ = digits := groups_append digits

theorem length_hyphenate (h : digits.length = 32) : (hyphenate digits).length = 36 := by
  simp only [hyphenate, List.length_append, List.length_cons, List.length_take, List.length_drop, h]
  rfl

theorem length_toChars (id : Uuid) : id.toChars.length = 36 :=
  length_hyphenate (length_hexDigits _ _)

theorem toChars_injective {id other : Uuid} (h : id.toChars = other.toChars) : id = other := by
  have digits : hexDigits id.bits.toNat 32 = hexDigits other.bits.toNat 32 := by
    have same := congrArg (List.filter (· != '-')) h
    rwa [toChars, toChars, filter_hyphenate ne_hyphen_of_mem_hexDigits,
      filter_hyphenate ne_hyphen_of_mem_hexDigits] at same
  have numbers := mod_eq_of_hexDigits digits
  have small : ∀ id : Uuid, id.bits.toNat % Nat.pow 16 32 = id.bits.toNat := fun id =>
    Nat.mod_eq_of_lt id.bits.isLt
  rw [small, small] at numbers
  exact congrArg Uuid.mk (BitVec.eq_of_toNat_eq numbers)

theorem toList_toString (id : Uuid) : (toString id).toList = id.toChars :=
  String.toList_ofList

/-- A written identifier holds digits and hyphens only. -/
theorem exists_of_mem_toString {id : Uuid} {c : Char} (h : c ∈ (toString id).toList) :
    c = '-' ∨ ∃ a < 16, hexDigit a = c := by
  by_cases hyphen : c = '-'
  · exact .inl hyphen
  · rw [toList_toString] at h
    have kept : c ∈ id.toChars.filter (· != '-') := List.mem_filter.mpr ⟨h, bne_iff_ne.mpr hyphen⟩
    rw [toChars, filter_hyphenate ne_hyphen_of_mem_hexDigits] at kept
    exact .inr (exists_of_mem_hexDigits kept)

theorem hexValue?_hexDigit : ∀ a < 16, Text.hexValue? (hexDigit a) = some a := by
  decide

theorem hexNumber?_hexDigits (m n count : Nat) :
    hexNumber? m (hexDigits n count) = some (m * Nat.pow 16 count + n % Nat.pow 16 count) := by
  induction count generalizing m with
  | zero => simp [hexDigits, hexNumber?, Nat.mod_one]
  | succ count ih =>
    have below : n / Nat.pow 16 count % 16 < 16 := Nat.mod_lt _ (by decide)
    have split : n % Nat.pow 16 (count + 1) =
      n % Nat.pow 16 count + Nat.pow 16 count * (n / Nat.pow 16 count % 16) := Nat.mod_pow_succ
    have power : Nat.pow 16 (count + 1) = Nat.pow 16 count * 16 := rfl
    rw [hexDigits, hexNumber?, hexValue?_hexDigit _ below, Option.bind_some, ih, split, power]
    congr 1
    ring

theorem ofDigits?_hexDigits (id : Uuid) : ofDigits? (hexDigits id.bits.toNat 32) = some id := by
  have small : id.bits.toNat % Nat.pow 16 32 = id.bits.toNat := Nat.mod_eq_of_lt id.bits.isLt
  rw [ofDigits?, if_pos (length_hexDigits _ _), hexNumber?_hexDigits, small, Nat.zero_mul,
    Nat.zero_add, Option.map_some, BitVec.ofNat_toNat]
  simp

/-- The digits stand between the hyphens. -/
theorem ofHyphenated?_hyphenate (h : digits.length = 32) :
    ofHyphenated? (hyphenate digits) = ofDigits? digits := by
  have regrouped : (hyphenate digits).take 8 ++ ((hyphenate digits).drop 9).take 4 ++
      ((hyphenate digits).drop 14).take 4 ++ ((hyphenate digits).drop 19).take 4 ++
      (hyphenate digits).drop 24 = digits := by
    refine Eq.trans ?_ (groups_append digits)
    simp [hyphenate, List.drop_append, List.drop_take, h]
  rw [ofHyphenated?, regrouped, if_pos ⟨length_hyphenate h, rfl⟩]

theorem toChars_eq_cons (id : Uuid) :
    ∃ a < 16, ∃ rest, id.toChars = hexDigit a :: rest :=
  ⟨_, Nat.mod_lt _ (by decide), _, rfl⟩

/-- No digit begins another form. -/
theorem hexDigit_ne_mark : ∀ a < 16, (hexDigit a).toLower ≠ 'u' ∧ hexDigit a ≠ '\x7b' := by
  decide

/-- A written identifier reads as itself. -/
theorem parse?_toString (id : Uuid) : parse? (toString id) = some id := by
  obtain ⟨a, below, rest, same⟩ := toChars_eq_cons id
  obtain ⟨mark, brace⟩ := hexDigit_ne_mark a below
  have long : id.toChars.length ≠ 32 := by
    rw [length_toChars]
    decide
  have unmarked : (id.toChars.take 9).map Char.toLower ≠ namespaceMark := by
    rw [same]
    intro marked
    exact mark (List.cons.inj marked).1
  have plain : ofChars? id.toChars = ofHyphenated? id.toChars := by
    rw [ofChars?, if_neg long, if_neg unmarked]
    intro rest clash
    rw [same] at clash
    exact brace (List.cons.inj clash).1
  rw [parse?, toList_toString, plain, toChars, ofHyphenated?_hyphenate (length_hexDigits _ _),
    ofDigits?_hexDigits]

end Parley.Uuid
