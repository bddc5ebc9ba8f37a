import XPathScan.Cursor
import XPathScan.Span

/-!
# Checked operations

Offsets are numbers of 64 bits, and a text can only be cut between characters.
An operation that would leave these bounds, or that is asked for a span whose
end lies before its start, is a breach: it has no result and ends the work it
is part of.
-/

namespace XPathScan

/-- The most bytes that a text in memory can have. -/
def Text.maxSize : Nat :=
  Nat.pow 2 63 - 1

/-- Why a checked operation has no result. -/
inductive Breach
  /-- A cursor refuses an offset. -/
  | cursor (fault : CursorFault)
  /-- A sum is too large to be counted. -/
  | overflow
  /-- A difference is below zero. -/
  | underflow
  /-- A text is cut where there is no boundary, or in the wrong order. -/
  | cut
  /-- A span begins behind its end. -/
  | order
  deriving DecidableEq

/-- The result of checked work. -/
abbrev Checked (Result : Type) :=
  Except Breach Result

namespace Checked

@[simp]
theorem ok_bind {First Second : Type}
    (result : First) (next : First → Checked Second) :
    (Except.ok result : Checked First) >>= next = next result := rfl

@[simp]
theorem pure_eq_ok {Result : Type} (result : Result) :
    (pure result : Checked Result) = .ok result := rfl

/-- The sum of two numbers, if it can be counted. -/
def add (left right : Nat) : Checked Nat :=
  if left + right ≤ Cursor.maxOffset then
    .ok (left + right)
  else
    .error .overflow

/-- The difference of two numbers, if it is not below zero. -/
def subtract (left right : Nat) : Checked Nat :=
  if right ≤ left then .ok (left - right) else .error .underflow

/-- The part of a text between two offsets, if both are boundaries in order. -/
def slice (source : Text) (start stop : Nat) : Checked Text :=
  match source.slice? start stop with
  | some part => .ok part
  | none => .error .cut

/-- The span between two offsets, if they are in order. -/
def span (start stop : Nat) : Checked Span :=
  match Span.ordered? start stop with
  | some span => .ok span
  | none => .error .order

/-- What a cursor answers, with its refusals as breaches. -/
def ofCursor {Answer : Type} : Except CursorFault Answer → Checked Answer
  | .ok answer => .ok answer
  | .error fault => .error (.cursor fault)

end Checked

end XPathScan
