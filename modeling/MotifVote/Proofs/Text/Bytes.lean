import MotifVote.Text.Symbols
import Mathlib.Data.List.Basic

/-!
# Texts as bytes

The symbols of the UTF-8 form of a text are its characters. Each form of a character has its own
range of leading bytes, so the reader finds the number of bytes that have been written, and puts the
bits that they carry together again.
-/

namespace MotifVote.Text

theorem toList_loop (bytes : ByteArray) (taken : Nat) (before : List UInt8) :
    ByteArray.toList.loop bytes taken before = before.reverse ++ bytes.data.toList.drop taken := by
  induction left : bytes.size - taken generalizing taken before with
  | zero =>
      have ended : ¬taken < bytes.size := by omega
      have none : bytes.data.toList.drop taken = [] := by
        rw [List.drop_eq_nil_iff, Array.length_toList]
        exact Nat.not_lt.mp ended
      rw [ByteArray.toList.loop, if_neg ended, none, List.append_nil]
  | succ left ih =>
      have inside : taken < bytes.size := by omega
      have next : bytes.data.toList.drop taken =
          bytes.get! taken :: bytes.data.toList.drop (taken + 1) := by
        have listed : taken < bytes.data.toList.length := by rwa [Array.length_toList]
        rw [List.drop_eq_getElem_cons listed, Array.getElem_toList]
        have read : bytes.get! taken = bytes.data[taken]! := rfl
        rw [read, getElem!_pos bytes.data taken inside]
      rw [ByteArray.toList.loop, if_pos inside, ih (taken + 1) _ (by omega), next]
      simp

theorem toList_eq (bytes : ByteArray) : bytes.toList = bytes.data.toList := by
  rw [ByteArray.toList, toList_loop]
  rfl

theorem toList_toUTF8 (text : String) :
    text.toUTF8.toList = text.toList.flatMap String.utf8EncodeChar := by
  have encoded : text.toUTF8 = text.toList.utf8Encode := by
    rw [← String.toByteArray_ofList, String.ofList_toList]
    rfl
  rw [encoded, List.utf8Encode, toList_eq, List.toList_data_toByteArray]

/-- Bytes that belong to the character before are passed over. -/
theorem symbolsFrom_append (skipped rest : List UInt8) :
    symbolsFrom skipped.length (skipped ++ rest) = symbolsFrom 0 rest := by
  induction skipped with
  | nil => rfl
  | cons byte skipped ih => exact ih

section Forms

variable {a b c d : UInt8} {n : Nat}

/-- A byte carries the last six bits of a number. -/
def Continues (byte : UInt8) (n : Nat) : Prop := byte.toNat = n % 64 + 128

theorem continues_ofNat (n : Nat) : Continues (UInt8.ofNat (n % 64 + 128)) n :=
  UInt8.toNat_ofNat_of_lt' (by simp only [UInt8.size]; omega)

theorem Continues.isContinuation (continues : Continues b n) : isContinuation b = true := by
  have value : b.toNat = n % 64 + 128 := continues
  simp only [Text.isContinuation, UInt8.le_iff_toNat_le, UInt8.lt_iff_toNat_lt, value,
    UInt8.reduceToNat, Bool.and_eq_true, decide_eq_true_eq]
  omega

theorem Continues.lowBits_eq (continues : Continues b n) : lowBits b = n % 64 := by
  have value : b.toNat = n % 64 + 128 := continues
  rw [lowBits, value]
  omega

theorem twoBytes?_eq_some (lead : a.toNat = n / 64 + 192) (second : Continues b n)
    (least : 0x80 ≤ n) (most : n < 0x800) : twoBytes? a b = some (Char.ofNat n) := by
  have marked : 0xC2 ≤ n / 64 + 192 ∧ n / 64 + 192 < 0xE0 := by omega
  have number : (n / 64 + 192) % 32 * 64 + n % 64 = n := by omega
  simp [twoBytes?, UInt8.le_iff_toNat_le, UInt8.lt_iff_toNat_lt, lead, marked,
    second.isContinuation, second.lowBits_eq, number]

theorem twoBytes?_eq_none (large : 0xE0 ≤ a.toNat) : twoBytes? a b = none := by
  have unmarked : ¬a.toNat < 0xE0 := by omega
  simp [twoBytes?, UInt8.lt_iff_toNat_lt, unmarked]

theorem threeBytes?_eq_some (lead : a.toNat = n / 4096 + 224) (second : Continues b (n / 64))
    (third : Continues c n) (least : 0x800 ≤ n) (most : n < 0x10000)
    (noSurrogate : n < 0xD800 ∨ 0xE000 ≤ n) : threeBytes? a b c = some (Char.ofNat n) := by
  have marked : 0xE0 ≤ n / 4096 + 224 ∧ n / 4096 + 224 < 0xF0 := by omega
  have number : (n / 4096 + 224) % 16 * 4096 + n / 64 % 64 * 64 + n % 64 = n := by omega
  have shortest : ¬n < 0x800 := by omega
  have between : ¬(0xD800 ≤ n ∧ n < 0xE000) := by omega
  simp [threeBytes?, UInt8.le_iff_toNat_le, UInt8.lt_iff_toNat_lt, lead, marked,
    second.isContinuation, third.isContinuation, second.lowBits_eq, third.lowBits_eq, number,
    shortest, between]

theorem threeBytes?_eq_none (large : 0xF0 ≤ a.toNat) : threeBytes? a b c = none := by
  have unmarked : ¬a.toNat < 0xF0 := by omega
  simp [threeBytes?, UInt8.lt_iff_toNat_lt, unmarked]

theorem fourBytes?_eq_some (lead : a.toNat = n / 262144 + 240) (second : Continues b (n / 4096))
    (third : Continues c (n / 64)) (fourth : Continues d n) (least : 0x10000 ≤ n)
    (most : n < 0x110000) : fourBytes? a b c d = some (Char.ofNat n) := by
  have marked : 0xF0 ≤ n / 262144 + 240 ∧ n / 262144 + 240 < 0xF5 := by omega
  have number : (n / 262144 + 240) % 8 * 262144 + n / 4096 % 64 * 4096 + n / 64 % 64 * 64 +
      n % 64 = n := by omega
  have within : ¬(n < 0x10000 ∨ 0x110000 ≤ n) := by omega
  simp [fourBytes?, UInt8.le_iff_toNat_le, UInt8.lt_iff_toNat_lt, lead, marked,
    second.isContinuation, third.isContinuation, fourth.isContinuation, second.lowBits_eq,
    third.lowBits_eq, fourth.lowBits_eq, number, within]

theorem not_lt_of_le_toNat (large : 0x80 ≤ a.toNat) : ¬a < 0x80 := by
  intro ascii
  exact Nat.not_lt.mpr large (UInt8.lt_iff_toNat_lt.mp ascii)

end Forms

/-- A character is read off its own bytes. -/
theorem leadingChar?_utf8EncodeChar (c : Char) (rest : List UInt8) :
    leadingChar? (String.utf8EncodeChar c ++ rest) =
      some (c, (String.utf8EncodeChar c).length) := by
  have valid : c.toNat < 0xD800 ∨ 0xDFFF < c.toNat ∧ c.toNat < 0x110000 := c.valid
  have self := Char.ofNat_toNat c
  have code : c.val.toNat = c.toNat := rfl
  unfold String.utf8EncodeChar
  simp only [code]
  generalize c.toNat = n at valid self
  have small : ∀ {byte : Nat}, byte < 256 → (UInt8.ofNat byte).toNat = byte :=
    UInt8.toNat_ofNat_of_lt'
  -- The number of bytes depends on the code, in the order of the cases of the encoding.
  by_cases one : n ≤ 0x7F
  · have lead : (UInt8.ofNat n).toNat = n := small (by omega)
    have ascii : UInt8.ofNat n < 0x80 := by
      rw [UInt8.lt_iff_toNat_lt, lead]
      exact Nat.lt_succ_of_le one
    simp only [if_pos one, List.cons_append, leadingChar?, if_pos ascii, lead, self]
    rfl
  by_cases two : n ≤ 0x7FF
  · have lead : (UInt8.ofNat (n / 64 % 32 + 192)).toNat = n / 64 + 192 := by
      rw [small (by omega)]
      omega
    have notAscii : ¬UInt8.ofNat (n / 64 % 32 + 192) < 0x80 := not_lt_of_le_toNat (by omega)
    have read := twoBytes?_eq_some lead (continues_ofNat n) (by omega) (by omega)
    simp only [if_neg one, if_pos two, List.cons_append, leadingChar?,
      if_neg notAscii, read, self]
    rfl
  by_cases three : n ≤ 0xFFFF
  · have lead : (UInt8.ofNat (n / 4096 % 16 + 224)).toNat = n / 4096 + 224 := by
      rw [small (by omega)]
      omega
    have notAscii : ¬UInt8.ofNat (n / 4096 % 16 + 224) < 0x80 := not_lt_of_le_toNat (by omega)
    have notTwo : ∀ {second}, twoBytes? (UInt8.ofNat (n / 4096 % 16 + 224)) second = none :=
      twoBytes?_eq_none (by omega)
    have read := threeBytes?_eq_some lead (continues_ofNat (n / 64)) (continues_ofNat n) (by omega)
      (by omega) (by omega)
    simp only [if_neg one, if_neg two, if_pos three, List.cons_append, leadingChar?,
      if_neg notAscii, notTwo, read, self]
    rfl
  · have lead : (UInt8.ofNat (n / 262144 % 8 + 240)).toNat = n / 262144 + 240 := by
      rw [small (by omega)]
      omega
    have notAscii : ¬UInt8.ofNat (n / 262144 % 8 + 240) < 0x80 := not_lt_of_le_toNat (by omega)
    have notTwo : ∀ {second}, twoBytes? (UInt8.ofNat (n / 262144 % 8 + 240)) second = none :=
      twoBytes?_eq_none (by omega)
    have notThree : ∀ {second third},
        threeBytes? (UInt8.ofNat (n / 262144 % 8 + 240)) second third = none :=
      threeBytes?_eq_none (by omega)
    have read := fourBytes?_eq_some lead (continues_ofNat (n / 4096)) (continues_ofNat (n / 64))
      (continues_ofNat n) (by omega) (by omega)
    simp only [if_neg one, if_neg two, if_neg three, List.cons_append, leadingChar?,
      if_neg notAscii, notTwo, notThree, read, self]
    rfl

theorem symbolsFrom_flatMap (chars : List Char) :
    symbolsFrom 0 (chars.flatMap String.utf8EncodeChar) = chars.map some := by
  induction chars with
  | nil => rfl
  | cons c chars ih =>
      have lead := leadingChar?_utf8EncodeChar c (chars.flatMap String.utf8EncodeChar)
      rw [List.flatMap_cons, List.map_cons]
      rcases bytes : String.utf8EncodeChar c with _ | ⟨first, others⟩
      · exact absurd bytes String.utf8EncodeChar_ne_nil
      · rw [bytes, List.cons_append] at lead
        rw [List.cons_append]
        simp only [symbolsFrom, lead, List.length_cons, Nat.add_sub_cancel, symbolsFrom_append, ih]

/-- Bytes that are a text as a whole are the same symbols as if they are read one by one. -/
theorem symbolsOfBytes_eq (bytes : ByteArray) :
    symbolsOfBytes bytes = symbolsFrom 0 bytes.toList := by
  rw [symbolsOfBytes]
  split
  next text valid =>
    have encoded : bytes = text.toUTF8 := by
      rw [String.fromUTF8?] at valid
      split at valid
      · cases valid
        rfl
      · cases valid
    rw [encoded, toList_toUTF8, symbolsFrom_flatMap, symbolsOfText]
  next => rfl

/-- The bytes of a text are read as the text. -/
theorem symbolsOfBytes_toUTF8 (text : String) :
    symbolsOfBytes text.toUTF8 = symbolsOfText text := by
  rw [symbolsOfBytes_eq, toList_toUTF8, symbolsFrom_flatMap, symbolsOfText]

end MotifVote.Text
