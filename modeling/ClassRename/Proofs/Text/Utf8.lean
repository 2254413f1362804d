import ClassRename.Text.Utf8
import Mathlib.Data.List.Basic

/-! # The bytes of a text stand for the text

Each character is read back from the bytes that it has in UTF-8, whatever bytes follow, so decoding
undoes encoding.
-/

namespace ClassRename.Text.Utf8

variable {index : Nat} {pending : Pending} {byte : UInt8} {c : Char} {rest : Bytes}

/-! ## Single bytes -/

@[simp] theorem Pending.value_next (byte : Nat) :
    (pending.next byte).value = pending.value * 64 + (byte - 0x80) := rfl

@[simp] theorem Pending.taken_next (byte : Nat) : (pending.next byte).taken = pending.taken + 1 := rfl

@[simp] theorem Pending.owed_next (byte : Nat) : (pending.next byte).owed = pending.owed - 1 := rfl

@[simp] theorem Pending.low_next (byte : Nat) : (pending.next byte).low = 0x80 := rfl

@[simp] theorem Pending.high_next (byte : Nat) : (pending.next byte).high = 0xBF := rfl

/-- A byte in the middle of a character. -/
theorem decodeFrom_middle (low : pending.low ≤ byte.toNat) (high : byte.toNat ≤ pending.high)
    (owed : 1 < pending.owed) :
    decodeFrom index (some pending) (byte :: rest) =
      decodeFrom index (some (pending.next byte.toNat)) rest := by
  have unfinished : pending.owed - 1 ≠ 0 := by omega
  rw [decodeFrom, if_pos ⟨low, high⟩]
  simp only [Pending.owed_next, unfinished, if_false]

/-- The last byte of a character. -/
theorem decodeFrom_last (low : pending.low ≤ byte.toNat) (high : byte.toNat ≤ pending.high)
    (owed : pending.owed = 1) (whole : pending.value * 64 + (byte.toNat - 0x80) = c.toNat) :
    decodeFrom index (some pending) (byte :: rest) =
      (decodeFrom (index + (pending.taken + 1)) none rest).map (c :: ·) := by
  rw [decodeFrom, if_pos ⟨low, high⟩]
  simp only [Pending.owed_next, Pending.value_next, Pending.taken_next, owed, whole,
    Char.ofNat_toNat, if_true, Nat.sub_self]

/-- The first byte of a character of several bytes. -/
theorem decodeFrom_lead (leads : lead? byte.toNat = some pending) (above : 0x80 ≤ byte.toNat) :
    decodeFrom index none (byte :: rest) = decodeFrom index (some pending) rest := by
  rw [decodeFrom, if_neg (by omega)]
  simp only [leads]

/-- The first of two bytes tells the upper bits. -/
theorem lead?_of_two (bits : Nat) (low : 2 ≤ bits) (high : bits < 0x20) :
    lead? (bits + 0xC0) = some ⟨bits, 1, 1, 0x80, 0xBF⟩ := by
  rw [lead?, if_pos (by omega), Nat.add_sub_cancel]

/-- The first of three bytes tells the upper bits and lets the second follow, unless the character could
be written shorter or is none. -/
theorem exists_lead?_of_three (bits second : Nat) (high : bits < 0x10) (small : second < 0x40)
    (notShort : bits = 0 → 0x20 ≤ second) (notSurrogate : bits = 0xD → second < 0x20) :
    ∃ low up, lead? (bits + 0xE0) = some ⟨bits, 1, 2, low, up⟩ ∧
      low ≤ second + 0x80 ∧ second + 0x80 ≤ up := by
  rw [lead?, if_neg (by omega)]
  split_ifs with zero surrogates
  · obtain rfl : bits = 0 := by omega
    exact ⟨_, _, rfl, by have := notShort rfl; omega, by omega⟩
  · obtain rfl : bits = 0xD := by omega
    exact ⟨_, _, rfl, by omega, by have := notSurrogate rfl; omega⟩
  · exact ⟨0x80, 0xBF, by simp, by omega, by omega⟩
  all_goals omega

/-- The first of four bytes tells the upper bits and lets the second follow, unless the character could
be written shorter or is past the last one. -/
theorem exists_lead?_of_four (bits second : Nat) (high : bits ≤ 4) (small : second < 0x40)
    (notShort : bits = 0 → 0x10 ≤ second) (notPast : bits = 4 → second < 0x10) :
    ∃ low up, lead? (bits + 0xF0) = some ⟨bits, 1, 3, low, up⟩ ∧
      low ≤ second + 0x80 ∧ second + 0x80 ≤ up := by
  rw [lead?, if_neg (by omega), if_neg (by omega), if_neg (by omega), if_neg (by omega)]
  split_ifs with zero middle four
  · obtain rfl : bits = 0 := by omega
    exact ⟨_, _, rfl, by have := notShort rfl; omega, by omega⟩
  · exact ⟨0x80, 0xBF, by simp, by omega, by omega⟩
  · obtain rfl : bits = 4 := by omega
    exact ⟨_, _, rfl, by omega, by have := notPast rfl; omega⟩
  · omega

/-! ## Characters and texts -/

/-- A byte below 256 is the byte of its number. -/
theorem toNat_ofNat_of_lt {n : Nat} (small : n < 256) : (UInt8.ofNat n).toNat = n := by
  rw [UInt8.toNat_ofNat']
  omega

/-- A character is read back from its bytes. -/
theorem exists_decodeFrom_utf8EncodeChar (index : Nat) (c : Char) (rest : Bytes) :
    ∃ later, decodeFrom index none (String.utf8EncodeChar c ++ rest) =
      (decodeFrom later none rest).map (c :: ·) := by
  have valid : c.toNat < 0xD800 ∨ 0xDFFF < c.toNat ∧ c.toNat < 0x110000 := c.valid
  rw [String.utf8EncodeChar]
  simp only [Char.toNat_val]
  split_ifs with one two three
  · refine ⟨index + 1, ?_⟩
    have byte := toNat_ofNat_of_lt (n := c.toNat) (by omega)
    rw [List.singleton_append, decodeFrom, byte, if_pos (by omega), Char.ofNat_toNat]
  · have first := toNat_ofNat_of_lt (n := c.toNat / 64 % 32 + 192) (by omega)
    have second := toNat_ofNat_of_lt (n := c.toNat % 64 + 128) (by omega)
    have leads := lead?_of_two (c.toNat / 64 % 32) (by omega) (by omega)
    refine ⟨index + (1 + 1), ?_⟩
    rw [List.cons_append, decodeFrom_lead (by rw [first]; exact leads) (by omega)]
    refine decodeFrom_last ?_ ?_ rfl ?_ <;> simp only [second] <;> omega
  · have first := toNat_ofNat_of_lt (n := c.toNat / 4096 % 16 + 224) (by omega)
    have second := toNat_ofNat_of_lt (n := c.toNat / 64 % 64 + 128) (by omega)
    have third := toNat_ofNat_of_lt (n := c.toNat % 64 + 128) (by omega)
    obtain ⟨low, up, leads, above, below⟩ := exists_lead?_of_three
      (c.toNat / 4096 % 16) (c.toNat / 64 % 64)
      (by omega) (by omega) (by omega) (by omega)
    refine ⟨index + (1 + 1 + 1), ?_⟩
    rw [List.cons_append, decodeFrom_lead (by rw [first]; exact leads) (by omega),
      List.cons_append, decodeFrom_middle (by rw [second]; exact above) (by rw [second]; exact below)
        (by simp)]
    refine decodeFrom_last ?_ ?_ rfl ?_ <;>
      simp only [Pending.low_next, Pending.high_next, Pending.value_next, second, third] <;> omega
  · have first := toNat_ofNat_of_lt (n := c.toNat / 262144 % 8 + 240) (by omega)
    have second := toNat_ofNat_of_lt (n := c.toNat / 4096 % 64 + 128) (by omega)
    have third := toNat_ofNat_of_lt (n := c.toNat / 64 % 64 + 128) (by omega)
    have fourth := toNat_ofNat_of_lt (n := c.toNat % 64 + 128) (by omega)
    obtain ⟨low, up, leads, above, below⟩ := exists_lead?_of_four
      (c.toNat / 262144 % 8) (c.toNat / 4096 % 64)
      (by omega) (by omega) (by omega) (by omega)
    refine ⟨index + (1 + 1 + 1 + 1), ?_⟩
    rw [List.cons_append, decodeFrom_lead (by rw [first]; exact leads) (by omega),
      List.cons_append, decodeFrom_middle (by rw [second]; exact above) (by rw [second]; exact below)
        (by simp),
      List.cons_append, decodeFrom_middle (by simp only [Pending.low_next, third]; omega)
        (by simp only [Pending.high_next, third]; omega) (by simp)]
    refine decodeFrom_last ?_ ?_ rfl ?_ <;>
      simp only [Pending.low_next, Pending.high_next, Pending.value_next, second, third, fourth] <;>
      omega

/-- Characters are read back from their bytes, one after the other. -/
theorem decodeFrom_flatMap (index : Nat) (text : List Char) :
    decodeFrom index none (text.flatMap String.utf8EncodeChar) = .ok text := by
  induction text generalizing index with
  | nil => rfl
  | cons c text ih =>
    obtain ⟨later, read⟩ :=
      exists_decodeFrom_utf8EncodeChar index c (text.flatMap String.utf8EncodeChar)
    rw [List.flatMap_cons, read, ih]
    rfl

/-- Decoding undoes encoding. -/
theorem decode_encode (text : String) : decode (encode text) = .ok text := by
  rw [decode, encode, decodeFrom_flatMap]
  exact congrArg Except.ok (String.ofList_toList)

end ClassRename.Text.Utf8
