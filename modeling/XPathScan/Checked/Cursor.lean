import XPathScan.Checked.Basic
import XPathScan.Text.Encoding

/-!
# Checked cursors

A checked cursor passes over characters byte by byte: a byte below 128 is one
character, and any other is only passed over by cutting the text there and
looking at the first character behind the cut.  Passing over a character always
moves a cursor that is not at the end, so that `eatWhile` comes to an end.
-/

namespace XPathScan

namespace Checked

/-- The character that begins some bytes ahead, or the sentinel. -/
def charAt (cursor : Cursor) (distance : Nat) : Checked Char :=
  ofCursor (cursor.charAt distance)

/-- The character on which a cursor stands, or the sentinel. -/
def current (cursor : Cursor) : Checked Char :=
  charAt cursor 0

/-- The text from a cursor on. -/
def remaining (cursor : Cursor) : Checked Text :=
  match Text.splitAt? cursor.source.toList cursor.position with
  | some (_, behind) => .ok behind
  | none => .error .cut

/-- Move a cursor by a number of bytes. -/
def pass (cursor : Cursor) (width : Nat) : Checked Cursor := do
  let position ← add cursor.position width
  pure { cursor with position := position }

/-- Pass over one character.  Nothing is passed over at the end. -/
def advance (cursor : Cursor) : Checked Cursor :=
  if inside :
      (⟨cursor.position⟩ : String.Pos.Raw) < cursor.source.rawEndPos then
    if cursor.source.getUTF8Byte ⟨cursor.position⟩ inside < 128 then
      pass cursor 1
    else do
      match ← remaining cursor with
      | [] => pure cursor
      | character :: _ => pass cursor character.utf8Size
  else
    pure cursor

theorem position_lt_of_pass {cursor later : Cursor} {width : Nat}
    (positive : 0 < width) (passed : pass cursor width = .ok later) :
    later.source = cursor.source ∧ cursor.position < later.position := by
  unfold pass add at passed
  split at passed
  · cases passed
    exact ⟨rfl, Nat.lt_add_of_pos_right positive⟩
  · cases passed

/-- A cursor that is not at the end moves when it passes over a character. -/
theorem position_lt_of_advance {cursor later : Cursor}
    (inside : cursor.position < cursor.source.utf8ByteSize)
    (advanced : advance cursor = .ok later) :
    later.source = cursor.source ∧ cursor.position < later.position := by
  have inside_raw :
      (⟨cursor.position⟩ : String.Pos.Raw) < cursor.source.rawEndPos :=
    inside
  rw [advance, dif_pos inside_raw] at advanced
  split at advanced
  · exact position_lt_of_pass Nat.one_pos advanced
  · unfold remaining at advanced
    cases cut : Text.splitAt? cursor.source.toList cursor.position with
    | none =>
        rw [cut] at advanced
        cases advanced
    | some parts =>
        rcases parts with ⟨front, behind⟩
        rw [cut] at advanced
        cases behind with
        | nil =>
            rcases Text.eq_append_of_splitAt? cut with ⟨whole, size⟩
            rw [List.append_nil] at whole
            rw [← Text.size_toList, whole, size] at inside
            exact absurd inside (Nat.lt_irrefl _)
        | cons character behind =>
            exact position_lt_of_pass character.utf8Size_pos advanced

/-- Pass over the characters of a class. -/
def eatWhile (member : Char → Bool) (cursor : Cursor) : Checked Cursor :=
  if _inside : cursor.position < cursor.source.utf8ByteSize then do
    let next ← current cursor
    if member next then
      match _passed : advance cursor with
      | .error breach => .error breach
      | .ok later => eatWhile member later
    else
      pure cursor
  else
    pure cursor
termination_by cursor.source.utf8ByteSize - cursor.position
decreasing_by
  have moved := position_lt_of_advance _inside _passed
  rw [moved.1]
  omega

/-- Pass over one character if it is the expected one, and tell whether. -/
def accept (expected : Char) (cursor : Cursor) : Checked (Bool × Cursor) :=
  if cursor.atEnd then
    pure (false, cursor)
  else do
    let next ← current cursor
    if next = expected then
      let later ← advance cursor
      pure (true, later)
    else
      pure (false, cursor)

/-- Move to a boundary of the text. -/
def moveTo (offset : Nat) (cursor : Cursor) : Checked Cursor :=
  ofCursor (cursor.moveTo offset)

/-- The text from an earlier boundary up to the cursor. -/
def sliceFrom (cursor : Cursor) (start : Nat) : Checked Text :=
  ofCursor (cursor.sliceFrom start)

end Checked

end XPathScan
