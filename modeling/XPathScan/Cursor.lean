import XPathScan.Text.Basic
import XPathScan.Text.Classes

/-!
# Cursors

A cursor stands at a byte offset of a text in UTF-8 and looks at and passes
over its characters.  One byte below 128 is a character by itself and is not
decoded.  Questions that a cursor cannot answer, and moves that would leave the
boundaries between characters, are faults and leave the cursor where it is.
The end of the text is looked at as U+0000.
-/

namespace XPathScan

/-- A byte offset in a text. -/
structure Cursor where
  source : String
  position : Nat
  deriving DecidableEq

/-- Why a cursor refuses an offset. -/
inductive CursorFault
  /-- The offset is too large to be counted. -/
  | overflow
  /-- The offset is no boundary of the text, or not one in reach. -/
  | notABoundary
  deriving DecidableEq

namespace Cursor

/-- The largest offset that is counted. -/
def maxOffset : Nat :=
  Nat.pow 2 64 - 1

/-- What is seen at the end of a text. -/
def sentinel : Char :=
  '\x00'

/-- The character that begins at a byte offset of a text. -/
def decodeAt? (source : String) (offset : Nat) : Option Char :=
  if inside : (⟨offset⟩ : String.Pos.Raw) < source.rawEndPos then
    let byte := source.getUTF8Byte ⟨offset⟩ inside
    if byte < 128 then
      some (Char.ofUInt8 byte)
    else
      source.toByteArray.utf8DecodeChar? offset
  else
    none

theorem lt_size_of_decodeAt? {source : String} {offset : Nat} {character : Char}
    (found : decodeAt? source offset = some character) :
    offset < source.utf8ByteSize := by
  unfold decodeAt? at found
  split at found
  next inside => exact inside
  next => simp at found

/-- The cursor at the front of a text. -/
def start (source : String) : Cursor :=
  ⟨source, 0⟩

/-- Whether the cursor stands behind the last character. -/
def atEnd (cursor : Cursor) : Bool :=
  cursor.source.utf8ByteSize ≤ cursor.position

/-- The character on which the cursor stands. -/
def current? (cursor : Cursor) : Option Char :=
  decodeAt? cursor.source cursor.position

/-- The character on which the cursor stands, or the sentinel. -/
def current (cursor : Cursor) : Char :=
  cursor.current?.getD sentinel

/-- The character that begins some bytes ahead, or the sentinel. -/
def charAt (cursor : Cursor) (distance : Nat) : Except CursorFault Char :=
  if maxOffset < cursor.position + distance then
    .error .overflow
  else
    .ok
      ((decodeAt? cursor.source (cursor.position + distance)).getD sentinel)

/-- Pass over one character.  Nothing is passed over at the end. -/
def advance (cursor : Cursor) : Cursor :=
  match cursor.current? with
  | some character =>
      { cursor with position := cursor.position + character.utf8Size }
  | none => cursor

/-- Pass over the characters of a class. -/
def eatWhile (member : Char → Bool) (cursor : Cursor) : Cursor :=
  match _found : cursor.current? with
  | some character =>
      if member character then
        eatWhile member
          { cursor with position := cursor.position + character.utf8Size }
      else
        cursor
  | none => cursor
termination_by cursor.source.utf8ByteSize - cursor.position
decreasing_by
  have inside := lt_size_of_decodeAt? _found
  have positive := character.utf8Size_pos
  omega

/-- Pass over blanks. -/
def skipBlanks (cursor : Cursor) : Cursor :=
  cursor.eatWhile isBlank

/-- Pass over one character if it is the expected one, and tell whether. -/
def accept (expected : Char) (cursor : Cursor) : Bool × Cursor :=
  if cursor.current? = some expected then
    (true, cursor.advance)
  else
    (false, cursor)

/-- Move to a boundary of the text. -/
def moveTo (offset : Nat) (cursor : Cursor) : Except CursorFault Cursor :=
  if (⟨offset⟩ : String.Pos.Raw).isValid cursor.source then
    .ok { cursor with position := offset }
  else
    .error .notABoundary

/-- The text from an earlier boundary up to the cursor. -/
def sliceFrom (cursor : Cursor) (start : Nat) : Except CursorFault Text :=
  match Text.slice? cursor.source.toList start cursor.position with
  | some part => .ok part
  | none => .error .notABoundary

/-- The text from the cursor on. -/
def unread (cursor : Cursor) : Text :=
  match Text.splitAt? cursor.source.toList cursor.position with
  | some (_, behind) => behind
  | none => []

end Cursor

end XPathScan
