import XPathScan.Text.Basic

/-!
# Spans

A span names the part of a text between two byte offsets.  A span is plain
data: nothing forces its start before its end or either of them inside the
text, so that spans from outside can be cut down by `clampTo`, whose result is
always in order and inside the bound.
-/

namespace XPathScan

/-- The two byte offsets between which a part of a text lies. -/
structure Span where
  /-- The offset of the first byte. -/
  start : Nat
  /-- The offset behind the last byte. -/
  stop : Nat
  deriving DecidableEq

namespace Span

/-- The span of an empty part at the front of every text. -/
def zero : Span :=
  ⟨0, 0⟩

/-- A span whose offsets are in order; none if the start lies behind the end. -/
def ordered? (start stop : Nat) : Option Span :=
  if start ≤ stop then some ⟨start, stop⟩ else none

/-- The number of bytes covered; none if the start lies behind the end. -/
def length? (span : Span) : Option Nat :=
  if span.start ≤ span.stop then some (span.stop - span.start) else none

/-- Whether the two offsets are equal. -/
def isEmpty (span : Span) : Bool :=
  span.start == span.stop

/-- The nearest span in order whose end is at most `bound`. -/
def clampTo (span : Span) (bound : Nat) : Span :=
  let stop := min span.stop bound
  ⟨min span.start stop, stop⟩

theorem start_le_stop_clampTo (span : Span) (bound : Nat) :
    (span.clampTo bound).start ≤ (span.clampTo bound).stop :=
  Nat.min_le_right _ _

theorem stop_clampTo_le (span : Span) (bound : Nat) :
    (span.clampTo bound).stop ≤ bound :=
  Nat.min_le_right _ _

/-- A span in order and inside the bound is not changed by clamping. -/
theorem clampTo_eq_self {span : Span} {bound : Nat}
    (order : span.start ≤ span.stop) (inside : span.stop ≤ bound) :
    span.clampTo bound = span := by
  simp [clampTo, Nat.min_eq_left inside, Nat.min_eq_left order]

/-- The covered part of a text, if both offsets are boundaries of it. -/
def slice? (span : Span) (text : Text) : Option Text :=
  text.slice? span.start span.stop

/-- Spans are ordered by their start, then by their end. -/
def compare (left right : Span) : Ordering :=
  (Ord.compare left.start right.start).then
    (Ord.compare left.stop right.stop)

/-- A span is written as its two offsets with two dots between them. -/
def display (span : Span) : Text :=
  Text.ofNat span.start ++ ['.', '.'] ++ Text.ofNat span.stop

end Span

end XPathScan
