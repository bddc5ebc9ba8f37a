import XPathScan.Cursor
import XPathScan.Text.Encoding

/-!
# Characters under a cursor

Where a character begins, decoding finds this character, whether its first byte
is looked up directly or the character is decoded.  Inside of a character and
behind the text it finds nothing (`decodeAt?_eq_some_iff`), because no byte
behind the first one of a character could begin one.
-/

namespace XPathScan

/-- A character begins at a byte offset of a text. -/
def Text.BeginsAt (text : Text) (offset : Nat) (character : Char) : Prop :=
  ∃ front rest, text = front ++ character :: rest ∧ Text.size front = offset

namespace Cursor

theorem utf8DecodeChar?_of_split {source : String} {front rest : Text}
    {character : Char}
    (whole : source.toList = front ++ character :: rest) :
    source.toByteArray.utf8DecodeChar? (Text.size front) =
      some character := by
  have bytes :
      source.toByteArray =
        front.utf8Encode ++ (character :: rest).utf8Encode := by
    rw [← String.utf8Encode_toList, whole, List.utf8Encode_append]
  rw [ByteArray.utf8DecodeChar?_eq_utf8DecodeChar?_extract, bytes,
    ByteArray.extract_append_eq_right]
  · exact List.utf8DecodeChar?_utf8Encode_cons
  · exact (Text.size_utf8Encode front).symm
  · exact ByteArray.size_append

theorem decodeAt?_of_split {source : String} {front rest : Text}
    {character : Char}
    (whole : source.toList = front ++ character :: rest) :
    decodeAt? source (Text.size front) = some character := by
  have bytes :
      source.toByteArray =
        front.utf8Encode ++ (character :: rest).utf8Encode := by
    rw [← String.utf8Encode_toList, whole, List.utf8Encode_append]
  have inside :
      (⟨Text.size front⟩ : String.Pos.Raw) < source.rawEndPos := by
    have total := Text.size_toList source
    have positive := character.utf8Size_pos
    rw [whole, Text.size_append, Text.size_cons] at total
    change Text.size front < source.utf8ByteSize
    omega
  rw [decodeAt?, dif_pos inside]
  dsimp only
  split
  next ascii =>
    have filled : 0 < (String.utf8EncodeChar character).length := by
      rw [String.length_utf8EncodeChar]
      exact character.utf8Size_pos
    rcases List.exists_cons_of_length_pos filled with
      ⟨byte, others, encoded⟩
    have found :
        source.getUTF8Byte ⟨Text.size front⟩ inside = byte := by
      have front_size : front.utf8Encode.size ≤ Text.size front :=
        Nat.le_of_eq (Text.size_utf8Encode front)
      simp only [String.getUTF8Byte_eq_getElem, bytes]
      rw [ByteArray.getElem_append_right front_size]
      simp only [Text.size_utf8Encode, Nat.sub_self]
      simp only [@List.utf8Encode_cons character rest,
        List.utf8Encode_singleton, encoded]
      rw [ByteArray.getElem_append_left (by simp)]
      exact List.getElem_toByteArray
    rw [found] at ascii ⊢
    rw [Text.ofUInt8_eq_of_encode encoded ascii]
  next => exact utf8DecodeChar?_of_split whole

/-- Behind a front of a text, its first other character is found. -/
theorem decodeAt?_of_append {source : String} {front unread : Text}
    (whole : source.toList = front ++ unread) :
    decodeAt? source (Text.size front) = unread.head? := by
  cases unread with
  | nil =>
      have ended :
          ¬ (⟨Text.size front⟩ : String.Pos.Raw) < source.rawEndPos := by
        rw [List.append_nil] at whole
        rw [← whole, Text.size_toList]
        exact Nat.lt_irrefl _
      exact dif_neg ended
  | cons first rest => exact decodeAt?_of_split whole

/-- Behind a first byte below 128, the next character begins at once. -/
theorem utf8Size_of_decodeAt? {source : String} {offset : Nat}
    {character : Char}
    (inside : (⟨offset⟩ : String.Pos.Raw) < source.rawEndPos)
    (ascii : source.getUTF8Byte ⟨offset⟩ inside < 128)
    (found : decodeAt? source offset = some character) :
    character.utf8Size = 1 := by
  rw [decodeAt?, dif_pos inside] at found
  dsimp only at found
  rw [if_pos ascii] at found
  rw [← Option.some.inj found]
  exact Text.utf8Size_ofUInt8 ascii

/-! ## Offsets inside of characters -/

section

variable {source : String} {offset : Nat} {character : Char}

theorem isUTF8FirstByte_of_lt {byte : UInt8} (ascii : byte < 128) :
    byte.IsUTF8FirstByte := by
  have small : byte.toNat < 2 ^ 7 := UInt8.lt_iff_toNat_lt.1 ascii
  have kept : byte &&& 127 = byte := by
    apply UInt8.toNat_inj.1
    rw [UInt8.toNat_and]
    exact Nat.and_two_pow_sub_one_of_lt_two_pow small
  left
  calc
    byte &&& 128 = byte &&& 127 &&& 128 := by rw [kept]
    _ = byte &&& (127 &&& 128) := UInt8.and_assoc _ _ _
    _ = 0 := UInt8.and_zero

/-- Inside the text a character begins at every valid position. -/
theorem exists_beginsAt_of_isValid
    (inside : offset < source.utf8ByteSize)
    (valid : (⟨offset⟩ : String.Pos.Raw).IsValid source) :
    ∃ character, Text.BeginsAt source.toList offset character := by
  rw [← String.Pos.Raw.isValid_eq_true_iff,
    Text.isValid_iff_exists_split] at valid
  rcases valid with ⟨front, back, whole, rfl⟩
  cases back with
  | nil =>
      rw [← Text.size_toList, whole, List.append_nil] at inside
      exact absurd inside (Nat.lt_irrefl _)
  | cons first rest => exact ⟨first, front, rest, whole, rfl⟩

theorem utf8DecodeChar?_eq_some_iff :
    source.toByteArray.utf8DecodeChar? offset = some character ↔
      Text.BeginsAt source.toList offset character := by
  constructor
  · intro found
    have decoded :
        (source.toByteArray.utf8DecodeChar? offset).isSome = true := by
      simp [found]
    have inside : offset < source.utf8ByteSize :=
      ByteArray.lt_size_of_isSome_utf8DecodeChar? decoded
    have valid : (⟨offset⟩ : String.Pos.Raw).IsValid source :=
      String.Pos.Raw.isValid_iff_isSome_utf8DecodeChar?.2 (Or.inr decoded)
    rcases exists_beginsAt_of_isValid inside valid with ⟨own, begins⟩
    rcases id begins with ⟨front, rest, whole, rfl⟩
    rw [utf8DecodeChar?_of_split whole, Option.some.injEq] at found
    exact found ▸ begins
  · rintro ⟨front, rest, whole, rfl⟩
    exact utf8DecodeChar?_of_split whole

/-- A byte below 128 is looked up as the character that is decoded there. -/
theorem decodeAt?_eq_utf8DecodeChar? (source : String) (offset : Nat) :
    decodeAt? source offset = source.toByteArray.utf8DecodeChar? offset := by
  by_cases inside : (⟨offset⟩ : String.Pos.Raw) < source.rawEndPos
  · by_cases ascii : source.getUTF8Byte ⟨offset⟩ inside < 128
    · have valid : (⟨offset⟩ : String.Pos.Raw).IsValid source :=
        String.Pos.Raw.isValid_iff_isUTF8FirstByte.2
          (Or.inr ⟨inside, isUTF8FirstByte_of_lt ascii⟩)
      rcases exists_beginsAt_of_isValid inside valid with
        ⟨character, front, rest, whole, rfl⟩
      rw [decodeAt?_of_split whole, utf8DecodeChar?_of_split whole]
    · simp [decodeAt?, inside, ascii]
  · rw [decodeAt?, dif_neg inside, eq_comm, ← Option.not_isSome_iff_eq_none]
    intro decoded
    exact inside (ByteArray.lt_size_of_isSome_utf8DecodeChar? decoded)

/-- Exactly the characters of a text are found, where they begin. -/
theorem decodeAt?_eq_some_iff :
    decodeAt? source offset = some character ↔
      Text.BeginsAt source.toList offset character := by
  rw [decodeAt?_eq_utf8DecodeChar?, utf8DecodeChar?_eq_some_iff]

end

end Cursor

end XPathScan
