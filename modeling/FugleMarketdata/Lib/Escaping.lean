/-
**Percent escapes.** The bytes of a text written in ASCII: some as themselves, the others as `%XX`.

* `write plain` — the bytes `plain` picks stay, the others are escaped;
* `percentDecode` — reads any text back, an escape as its byte and any other character as its UTF-8 bytes;
* `percentDecode_write` — what was written is read back, where `%` itself is escaped;
* `not_mem_write` — a separator that is escaped does not occur in what is written.
-/

import Mathlib.Data.List.Basic
import Mathlib.Tactic.IntervalCases

namespace Escaping

/-! ### Texts and bytes -/

def utf8 (text : String) : List UInt8 := text.toByteArray.data.toList

/-- The text some bytes are, if they are UTF-8. -/
def ofUtf8? (bytes : List UInt8) : Option String := String.fromUTF8? bytes.toByteArray

@[simp] theorem ofUtf8?_utf8 (text : String) : ofUtf8? (utf8 text) = some text := by
  have bytes : (utf8 text).toByteArray = text.toByteArray := by
    rw [ByteArray.ext_iff, List.data_toByteArray, utf8, Array.toArray_toList]
  rw [ofUtf8?, bytes, String.fromUTF8?, dif_pos text.isValidUTF8]
  rfl

/-! ### Hexadecimal digits -/

def hexDigits : List Char :=
  ['0', '1', '2', '3', '4', '5', '6', '7', '8', '9', 'A', 'B', 'C', 'D', 'E', 'F']

def hexDigit (value : Nat) : Char := hexDigits.getD value '0'

/-- The value of a digit, in either case. -/
def hexValue (c : Char) : Option Nat := hexDigits.idxOf? c.toUpper

theorem hexValue_hexDigit {value : Nat} (small : value < 16) : hexValue (hexDigit value) = some value := by
  interval_cases value <;> rfl

theorem hexDigit_mem {value : Nat} (small : value < 16) : hexDigit value ∈ hexDigits := by
  interval_cases value <;> decide

/-! ### Writing and reading -/

/-- `%XX`. -/
def escapeByte (b : UInt8) : List Char := ['%', hexDigit (b.toNat / 16), hexDigit (b.toNat % 16)]

theorem escapeByte_subset (b : UInt8) : escapeByte b ⊆ '%' :: hexDigits := by
  have bound := b.toNat_lt
  have high : hexDigit (b.toNat / 16) ∈ hexDigits := hexDigit_mem (by omega)
  have low : hexDigit (b.toNat % 16) ∈ hexDigits := hexDigit_mem (by omega)
  exact List.cons_subset_cons '%' (List.cons_subset.mpr ⟨high, List.cons_subset.mpr
    ⟨low, List.nil_subset _⟩⟩)

/-- The ASCII character of a byte. -/
def asciiChar (b : UInt8) : Char := Char.ofNat b.toNat

/-- The bytes `plain` picks as themselves, the others escaped. -/
def write (plain : UInt8 → Bool) (bytes : List UInt8) : List Char :=
  bytes.flatMap fun b => if plain b then [asciiChar b] else escapeByte b

/-- The bytes a text stands for; a `%` without two digits behind it stands for itself. -/
def percentDecode : List Char → List UInt8
  | [] => []
  | '%' :: high :: low :: behind =>
    match hexValue high, hexValue low with
    | some high, some low => UInt8.ofNat (high * 16 + low) :: percentDecode behind
    | _, _ => 0x25 :: percentDecode (high :: low :: behind)
  | c :: rest => String.utf8EncodeChar c ++ percentDecode rest

theorem percentDecode_plain {c : Char} (other : c ≠ '%') (rest : List Char) :
    percentDecode (c :: rest) = String.utf8EncodeChar c ++ percentDecode rest := by
  rw [percentDecode]
  intro high low behind percent
  exact absurd percent other

theorem percentDecode_escapeByte (b : UInt8) (rest : List Char) :
    percentDecode (escapeByte b ++ rest) = b :: percentDecode rest := by
  have bound := b.toNat_lt
  have high : hexValue (hexDigit (b.toNat / 16)) = some (b.toNat / 16) := hexValue_hexDigit (by omega)
  have low : hexValue (hexDigit (b.toNat % 16)) = some (b.toNat % 16) := hexValue_hexDigit (by omega)
  have whole : b.toNat / 16 * 16 + b.toNat % 16 = b.toNat := by omega
  show percentDecode ('%' :: hexDigit _ :: hexDigit _ :: rest) = _
  rw [percentDecode, high, low]
  simp only [whole, UInt8.ofNat_toNat]

theorem asciiChar_val {b : UInt8} (ascii : b.toNat < 128) : (asciiChar b).val.toNat = b.toNat := by
  rw [asciiChar, Char.ofNat, dif_pos (Or.inl (by omega))]
  rfl

theorem utf8EncodeChar_asciiChar {b : UInt8} (ascii : b.toNat < 128) :
    String.utf8EncodeChar (asciiChar b) = [b] := by
  rw [String.utf8EncodeChar]
  simp only [asciiChar_val ascii, if_pos (show b.toNat ≤ 0x7f by omega), UInt8.ofNat_toNat]

/-- The byte of an ASCII character. -/
theorem eq_of_asciiChar {b : UInt8} (ascii : b.toNat < 128) {c : Char} (same : asciiChar b = c) :
    b = c.toUInt8 := by
  subst same
  show b = UInt8.ofNat (asciiChar b).val.toNat
  rw [asciiChar_val ascii, UInt8.ofNat_toNat]

section Write

variable {plain : UInt8 → Bool} (ascii : ∀ b, plain b = true → b.toNat < 128)

include ascii

/-- A byte that stays is not one that is escaped. -/
theorem asciiChar_ne {separator : Char} (escaped : plain separator.toUInt8 = false)
    {b : UInt8} (stays : plain b = true) : asciiChar b ≠ separator := by
  intro same
  rw [eq_of_asciiChar (ascii b stays) same, escaped] at stays
  cases stays

/-- **What was written is read back.** -/
theorem percentDecode_write (percent : plain '%'.toUInt8 = false) (bytes : List UInt8) :
    percentDecode (write plain bytes) = bytes := by
  induction bytes with
  | nil => rfl
  | cons b rest ih =>
    rw [write, List.flatMap_cons]
    split
    · rename_i stays
      rw [List.singleton_append, percentDecode_plain (asciiChar_ne ascii percent stays),
        utf8EncodeChar_asciiChar (ascii b stays)]
      exact congrArg (b :: ·) ih
    · rw [percentDecode_escapeByte]
      exact congrArg (b :: ·) ih

/-- A character that is escaped, and that no escape is made of, does not occur in what is written. -/
theorem not_mem_write {separator : Char} (apart : separator ∉ '%' :: hexDigits)
    (escaped : plain separator.toUInt8 = false) (bytes : List UInt8) :
    separator ∉ write plain bytes := by
  intro member
  obtain ⟨b, -, written⟩ := List.mem_flatMap.mp member
  split at written
  · rename_i stays
    exact asciiChar_ne ascii escaped stays (List.mem_singleton.mp written).symm
  · exact apart (escapeByte_subset b written)

end Write

end Escaping
