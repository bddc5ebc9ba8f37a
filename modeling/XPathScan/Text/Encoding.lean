import XPathScan.Text.Basic

/-!
# Texts in UTF-8

A string is a text together with its bytes.  What a text counts is what the
bytes of a string count: `size_toList` gives the number of bytes, and
`isValid_iff_exists_split` says that the valid positions of a string are the
offsets at which its text can be cut.
-/

namespace XPathScan

namespace Text

theorem utf8ByteSize_ofList (text : Text) :
    (String.ofList text).utf8ByteSize = size text := by
  induction text with
  | nil => rfl
  | cons head tail induction =>
      have split : head :: tail = [head] ++ tail := rfl
      rw [split, String.ofList_append, String.utf8ByteSize_append, induction,
        size_append]
      congr 1
      simp [← String.size_toByteArray, List.utf8Encode_singleton]

/-- The bytes of a string are those of its characters. -/
theorem size_toList (source : String) :
    size source.toList = source.utf8ByteSize := by
  rw [← utf8ByteSize_ofList, String.ofList_toList]

theorem size_utf8Encode (text : Text) :
    text.utf8Encode.size = size text := by
  rw [← utf8ByteSize_ofList, ← String.size_toByteArray,
    String.toByteArray_ofList]

/-- A first byte below 128 is the whole character. -/
theorem ofUInt8_eq_of_encode {character : Char} {byte : UInt8}
    {rest : List UInt8}
    (encoded : String.utf8EncodeChar character = byte :: rest)
    (ascii : byte < 128) :
    Char.ofUInt8 byte = character := by
  rw [UInt8.lt_iff_toNat_lt] at ascii
  simp only [String.utf8EncodeChar] at encoded
  by_cases small : character.val.toNat ≤ 127
  · rw [if_pos small, List.cons.injEq] at encoded
    rw [← encoded.1]
    apply Char.ext
    apply UInt32.toNat.inj
    change (UInt8.ofNat character.val.toNat).toNat = character.val.toNat
    rw [UInt8.toNat_ofNat']
    omega
  · -- the first of several bytes is at least 192
    rw [if_neg small] at encoded
    split at encoded
    · rw [List.cons.injEq] at encoded
      rw [← encoded.1] at ascii
      simp at ascii
      omega
    · split at encoded
      all_goals
        rw [List.cons.injEq] at encoded
        rw [← encoded.1] at ascii
        simp at ascii
        omega

/-- A byte below 128 encodes a character of one byte. -/
theorem utf8Size_ofUInt8 {byte : UInt8} (ascii : byte < 128) :
    (Char.ofUInt8 byte).utf8Size = 1 := by
  have small := UInt8.lt_iff_toNat_lt.1 ascii
  apply Char.utf8Size_eq_one_iff.2
  apply UInt32.le_iff_toNat_le.2
  change byte.toNat ≤ 127
  exact Nat.le_of_lt_succ small

/-- The positions between characters are those at which a text can be cut. -/
theorem isValid_iff_exists_split (source : String) (offset : Nat) :
    (⟨offset⟩ : String.Pos.Raw).isValid source = true ↔
      ∃ front back,
        source.toList = front ++ back ∧ size front = offset := by
  rw [String.Pos.Raw.isValid_eq_true_iff,
    String.Pos.Raw.isValid_iff_exists_append]
  constructor
  · rintro ⟨front, back, rfl, position⟩
    refine ⟨front.toList, back.toList, String.toList_append, ?_⟩
    rw [size_toList]
    exact (congrArg String.Pos.Raw.byteIdx position).symm
  · rintro ⟨front, back, whole, rfl⟩
    refine ⟨String.ofList front, String.ofList back, ?_, ?_⟩
    · rw [← String.ofList_append, ← whole, String.ofList_toList]
    · rw [← utf8ByteSize_ofList]
      rfl

end Text

end XPathScan
