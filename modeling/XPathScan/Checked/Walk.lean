import XPathScan.Checked.Cursor
import XPathScan.Walk

/-!
# Checked walks

A checked walk carries out the same operations with the checked cursor, which
goes byte by byte.  It goes on behind a breach with the cursor as it was.
-/

namespace XPathScan

namespace Checked

/-- Carry out an operation on a checked cursor. -/
def operate :
    Cursor.Operation → Cursor → Checked (Cursor.Reply × Cursor)
  | .advance, cursor => do
      let later ← advance cursor
      pure (.done, later)
  | .eatWhile member, cursor => do
      let later ← eatWhile member cursor
      pure (.done, later)
  | .skipBlanks, cursor => do
      let later ← eatWhile isBlank cursor
      pure (.done, later)
  | .accept expected, cursor => do
      let (accepted, later) ← accept expected cursor
      pure (.flag accepted, later)
  | .moveTo offset, cursor => do
      let later ← moveTo offset cursor
      pure (.done, later)
  | .current, cursor => do
      let character ← current cursor
      pure (.character character, cursor)
  | .charAt distance, cursor | .peek distance, cursor => do
      let character ← charAt cursor distance
      pure (.character character, cursor)
  | .atEnd, cursor => pure (.flag cursor.atEnd, cursor)
  | .position, cursor => pure (.offset cursor.position, cursor)
  | .sliceFrom start, cursor => do
      let part ← sliceFrom cursor start
      pure (.text part, cursor)
  | .unread, cursor => do
      let behind ← remaining cursor
      pure (.text behind, cursor)
  | .source, cursor => pure (.text cursor.source.toList, cursor)

/-- Where a cursor stands after an operation.  A breach leaves it as it was. -/
def after (operation : Cursor.Operation) (cursor : Cursor) : Cursor :=
  match operate operation cursor with
  | .ok (_, later) => later
  | .error _ => cursor

/-- Where a cursor stands after operations, one after another. -/
def walk (operations : List Cursor.Operation) (cursor : Cursor) : Cursor :=
  operations.foldl (fun standing operation => after operation standing) cursor

end Checked

end XPathScan
