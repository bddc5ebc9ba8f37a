import XPathScan.Proofs.Scanner.Items
import XPathScan.Proofs.Scanner.Run

/-!
# Steps and items in any order

A stream may be stepped and asked for items in any order.  Either of the two
leaves its scanner where it stands or moves it by one step, whatever is still
to be yielded.  So the scanner of a stream that comes of any such order is one
that is reached by steps alone, and the laws of runs hold of it.
-/

namespace XPathScan

namespace Stream

variable {source : Text} {offset : Nat} {stream : Stream}

/--
A stream that has been started at an offset of a source, and then stepped and
asked for items in any order.
-/
inductive Reached (source : Text) (offset : Nat) : Stream → Prop
  | start {stream : Stream}
      (started : start? source offset = .ok stream) :
      Reached source offset stream
  | advance {stream : Stream}
      (reached : Reached source offset stream) :
      Reached source offset stream.advance.2
  | next {stream : Stream}
      (reached : Reached source offset stream) :
      Reached source offset stream.next.2

/-- What is yielded is looked for at most one step further. -/
theorem scanner_next_cases (stream : Stream) :
    stream.next.2.scanner = stream.scanner ∨
      stream.next.2.scanner = stream.scanner.next := by
  rcases stream with ⟨scanner, stage⟩
  cases stage with
  | failing diagnostic => exact Or.inl rfl
  | ended => exact Or.inl rfl
  | ready =>
      by_cases ended : scanner.kind = .eof
      · rw [next_ready_of_eof ended]
        exact Or.inl rfl
      · right
        cases ahead : scanner.next.diagnostic? with
        | none => rw [next_ready_of_sound ended ahead]
        | some diagnostic => rw [next_ready_of_malformed ended ahead]

/-- Items are yielded without any move that steps could not make. -/
theorem Reached.scanner (reached : Reached source offset stream) :
    Scanner.Reached source offset stream.scanner := by
  induction reached with
  | start started =>
      rcases exists_scanner_of_start? started with ⟨scanner, found, rfl⟩
      exact .start found
  | advance reached induction => exact induction.advance
  | @next stream reached induction =>
      rcases scanner_next_cases stream with stays | steps
      · rw [stays]
        exact induction
      · rw [steps]
        exact induction.advance

theorem Reached.exists_placed (reached : Reached source offset stream) :
    ∃ front gap, Scanner.Placed source offset stream.scanner front gap :=
  reached.scanner.exists_placed

end Stream

end XPathScan
