/-!
# Reading bytes that may be no text

A sequence of bytes is read as UTF-8. Each longest beginning of a character that is not completed,
and each byte that begins none, is read as the replacement character.
-/

namespace Parley.Text

def replacement : Char := '\ufffd'

/-- The ranges of the bytes that may follow a first byte. -/
def followers (first : Nat) : List (Nat × Nat) :=
  let any := (0x80, 0xbf)
  if first < 0xc2 then []
  else if first < 0xe0 then [any]
  else if first = 0xe0 then [(0xa0, 0xbf), any]
  else if first = 0xed then [(0x80, 0x9f), any]
  else if first < 0xf0 then [any, any]
  else if first = 0xf0 then [(0x90, 0xbf), any, any]
  else if first < 0xf4 then [any, any, any]
  else if first = 0xf4 then [(0x80, 0x8f), any, any]
  else []

/-- How many bytes are in the ranges, one after the other. -/
def countFollowing : List (Nat × Nat) → List UInt8 → Nat
  | (low, high) :: ranges, b :: bytes =>
    if low ≤ b.toNat && b.toNat ≤ high then countFollowing ranges bytes + 1 else 0
  | _, _ => 0

/-- The code point of a first byte and its followers. -/
def codePoint (first : Nat) (rest : List UInt8) : Nat :=
  let bits := match rest.length with
    | 0 => first
    | 1 => first % 32
    | 2 => first % 16
    | _ => first % 8
  rest.foldl (fun n b => 64 * n + b.toNat % 64) bits

def charsOfBytes : List UInt8 → List Char
  | [] => []
  | b :: bytes =>
    let ranges := followers b.toNat
    let count := countFollowing ranges bytes
    let char :=
      if count = ranges.length && (b.toNat < 0x80 || count != 0) then
        Char.ofNat (codePoint b.toNat (bytes.take count))
      else replacement
    char :: charsOfBytes (bytes.drop count)
  termination_by bytes => bytes.length

theorem toList_loop (bytes : ByteArray) (i : Nat) (done : List UInt8) :
    ByteArray.toList.loop bytes i done = done.reverse ++ bytes.data.toList.drop i := by
  induction left : bytes.size - i generalizing i done with
  | zero =>
    have past : ¬ i < bytes.size := Nat.not_lt.mpr (Nat.le_of_sub_eq_zero left)
    have nothing : bytes.data.toList.drop i = [] := List.drop_eq_nil_of_le (Nat.not_lt.mp past)
    rw [ByteArray.toList.loop, if_neg past, nothing, List.append_nil]
  | succ n ih =>
    have within : i < bytes.size := Nat.lt_of_sub_eq_succ left
    have listed : i < bytes.data.toList.length := within
    have here : bytes.get! i = bytes.data.toList[i] := by
      rw [Array.getElem_toList]
      exact getElem!_pos bytes.data i within
    rw [ByteArray.toList.loop, if_pos within, ih (i + 1) _ (by omega), List.reverse_cons,
      List.append_assoc, List.singleton_append, List.drop_eq_getElem_cons listed, here]

theorem toList_bytes (bytes : ByteArray) : bytes.toList = bytes.data.toList :=
  toList_loop bytes 0 []

theorem toUTF8_singleton_ne_nil (c : Char) : (String.singleton c).toUTF8.toList ≠ [] := by
  have bytes : (String.singleton c).toUTF8 = (String.utf8EncodeChar c).toByteArray := by
    rw [String.toUTF8_eq_toByteArray, String.toByteArray_singleton, List.utf8Encode_singleton]
  rw [bytes, toList_bytes, List.toList_data_toByteArray]
  exact String.utf8EncodeChar_ne_nil

end Parley.Text
