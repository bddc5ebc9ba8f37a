import XPathScan.Cursor

/-!
# Walks

Whoever holds a cursor may look at its text and move it, in any order.  Some
operations can be refused, and a refused one leaves the cursor where it stands:
`moveTo` is refused before anything is moved, and the other refused operations
only look.
-/

namespace XPathScan

namespace Cursor

/-- What can be asked of a cursor. -/
inductive Operation
  /-- Pass over one character. -/
  | advance
  /-- Pass over the characters of a class. -/
  | eatWhile (member : Char → Bool)
  /-- Pass over blanks. -/
  | skipBlanks
  /-- Pass over one character if it is the expected one. -/
  | accept (expected : Char)
  /-- Move to a boundary of the text. -/
  | moveTo (offset : Nat)
  /-- Look at the character on which the cursor stands. -/
  | current
  /-- Look at the character that begins some bytes ahead. -/
  | charAt (distance : Nat)
  /-- The same as `charAt`. -/
  | peek (distance : Nat)
  /-- Whether the cursor stands behind the last character. -/
  | atEnd
  /-- Where the cursor stands. -/
  | position
  /-- The text from an earlier boundary up to the cursor. -/
  | sliceFrom (start : Nat)
  /-- The text from the cursor on. -/
  | unread
  /-- The whole text. -/
  | source

/-- What a cursor answers. -/
inductive Reply
  | done
  | flag (value : Bool)
  | offset (value : Nat)
  | character (value : Char)
  | text (value : Text)
  deriving DecidableEq

/-- Carry out an operation on a cursor. -/
def operate :
    Operation → Cursor → Except CursorFault (Reply × Cursor)
  | .advance, cursor => .ok (.done, cursor.advance)
  | .eatWhile member, cursor => .ok (.done, cursor.eatWhile member)
  | .skipBlanks, cursor => .ok (.done, cursor.skipBlanks)
  | .accept expected, cursor =>
      .ok (.flag (cursor.accept expected).1, (cursor.accept expected).2)
  | .moveTo offset, cursor =>
      (cursor.moveTo offset).map fun later => (.done, later)
  | .current, cursor => .ok (.character cursor.current, cursor)
  | .charAt distance, cursor | .peek distance, cursor =>
      (cursor.charAt distance).map fun seen => (.character seen, cursor)
  | .atEnd, cursor => .ok (.flag cursor.atEnd, cursor)
  | .position, cursor => .ok (.offset cursor.position, cursor)
  | .sliceFrom start, cursor =>
      (cursor.sliceFrom start).map fun part => (.text part, cursor)
  | .unread, cursor => .ok (.text cursor.unread, cursor)
  | .source, cursor => .ok (.text cursor.source.toList, cursor)

section

variable {Answer Result : Type} {asked : Except CursorFault Answer}
  {result : Answer → Result}

theorem map_eq_error_iff {fault : CursorFault} :
    asked.map result = .error fault ↔ asked = .error fault := by
  cases asked <;> simp [Except.map]

theorem map_eq_ok_iff {last : Result} :
    asked.map result = .ok last ↔
      ∃ answer, asked = .ok answer ∧ result answer = last := by
  cases asked <;> simp [Except.map]

end

end Cursor

end XPathScan
