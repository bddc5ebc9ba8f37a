import XPathScan.Checked.Session
import XPathScan.Proofs.Checked.Diagnostic
import XPathScan.Proofs.Checked.Scanner
import XPathScan.Proofs.Scanner.Interleaving

/-!
# Checked sessions have no breach

A session keeps its scanner placed in the source, whatever is asked in whatever
order, and a checked scanner that is placed answers as the scanner does.  So a
checked session answers every request, with the answer of the session without
checks: `answers_eq_ok` is the main statement.
-/

namespace XPathScan

namespace Session

/-- The scanner of a session, if there is one, is placed in the source. -/
def Standing (source : Text) (standing : Option Stream) : Prop :=
  ∀ stream ∈ standing,
    ∃ offset front gap,
      Scanner.Placed source offset stream.scanner front gap

variable {source : Text}

theorem standing_none : Standing source none := by
  intro stream member
  cases member

theorem standing_some {stream : Stream} {offset : Nat} {front gap : Text}
    (placed : Scanner.Placed source offset stream.scanner front gap) :
    Standing source (some stream) := by
  rintro _ ⟨⟩
  exact ⟨offset, front, gap, placed⟩

/-- A step of the scanner keeps it placed, whatever is still to be yielded. -/
theorem standing_next {stream : Stream} {offset : Nat} {front gap : Text}
    (stage : Stage)
    (placed : Scanner.Placed source offset stream.scanner front gap) :
    Standing source (some ⟨stream.scanner.next, stage⟩) := by
  rcases Scanner.exists_placed_next placed with ⟨front', gap', later⟩
  exact standing_some later

/-- The iteration moves its scanner by steps only. -/
theorem standing_stream_next {stream : Stream} {offset : Nat}
    {front gap : Text}
    (placed : Scanner.Placed source offset stream.scanner front gap) :
    Standing source (some stream.next.2) := by
  rcases Stream.scanner_next_cases stream with stays | steps
  · rw [← stays] at placed
    exact standing_some placed
  · rcases Scanner.exists_placed_next placed with ⟨front', gap', later⟩
    rw [← steps] at later
    exact standing_some later

theorem standing_operate {stream : Stream} {offset : Nat}
    {front gap : Text} (operation : Operation)
    (placed : Scanner.Placed source offset stream.scanner front gap) :
    Standing source (some (stream.operate operation).2) := by
  cases operation with
  | advance => exact standing_next stream.stage placed
  | next => exact standing_stream_next placed
  | view => exact standing_some placed
  | complain moved complaint => exact standing_some placed

/-- Every answer leaves the scanner of the session placed. -/
theorem standing_answer {standing : Option Stream} (request : Request)
    (placed : Standing source standing) :
    Standing source (answer source request standing).2 := by
  cases request with
  | start offset =>
      rw [answer]
      split
      next stream started =>
        rcases Stream.exists_scanner_of_start? started with
          ⟨scanner, found, rfl⟩
        rcases Scanner.placed_of_start? found with ⟨front, gap, here, -⟩
        exact standing_some here
      next => exact placed
  | operate operation =>
      cases standing with
      | none => exact standing_none
      | some stream =>
          rcases placed stream rfl with ⟨offset, front, gap, here⟩
          exact standing_operate operation here
  | describe error => exact placed

end Session

namespace Machine

open Scanner (Placed)

section

variable {source : String} {front gap : Text} {offset : Nat}
  {stream : Stream}

/-- Complaints can be made about every lexeme, and about any other span. -/
theorem complain_eq
    (placed : Placed source.toList offset stream.scanner front gap)
    (moved : Option Span) (complaint : Complaint) :
    (stream.machine source).complain moved complaint =
      .ok (stream.scanner.complain moved complaint) := by
  have here :
      Checked.anchor (stream.machine source).start
          (stream.machine source).cursor =
        .ok stream.scanner.anchor := by
    rw [Scanner.anchor, placed.source_eq]
    exact congrArg (· >>= _) (span_eq source stream)
  rw [complain, here]
  rfl

theorem length?_span (scanner : Scanner) :
    scanner.span.length? = some scanner.size := by
  have order : scanner.span.start ≤ scanner.span.stop :=
    Nat.le_add_right _ _
  rw [Span.length?, if_pos order]
  exact congrArg some (Nat.add_sub_cancel_left _ _)

/-- All that is asked about a lexeme is answered. -/
theorem view_eq
    (placed : Placed source.toList offset stream.scanner front gap)
    (counted : source.utf8ByteSize ≤ Text.maxSize) :
    (stream.machine source).view = .ok stream.scanner.view := by
  have width : stream.scanner.span.length? = some stream.scanner.size :=
    length?_span stream.scanner
  rcases accessors_eq source placed.carries with
    ⟨axis, name, qualifier, callable, body⟩
  simp only [view, size_eq, span_eq, width_eq, spelling_eq placed counted,
    token_eq placed counted, Checked.ok_bind, axis, name, qualifier,
    callable, body]
  rw [Scanner.view, width, placed.source_eq]
  rfl

theorem operate_eq
    (placed : Placed source.toList offset stream.scanner front gap)
    (counted : source.utf8ByteSize ≤ Text.maxSize)
    (operation : Operation) :
    (stream.machine source).operate operation =
      .ok
        ((stream.operate operation).1,
          (stream.operate operation).2.machine source) := by
  cases operation with
  | advance =>
      rw [operate, advance_eq placed counted]
      rfl
  | next =>
      rw [operate, next_eq placed counted]
      rfl
  | view =>
      rw [operate, view_eq placed counted]
      rfl
  | complain moved complaint =>
      rw [operate, complain_eq placed]
      rfl

end

end Machine

namespace Checked

/-- A checked session answers one request as the session does. -/
theorem answer_eq (source : String)
    (counted : source.utf8ByteSize ≤ Text.maxSize) {standing : Option Stream}
    (placed : Session.Standing source.toList standing) (request : Request) :
    answer source request (standing.map (Stream.machine source)) =
      .ok
        ((Session.answer source.toList request standing).1,
          (Session.answer source.toList request standing).2.map
            (Stream.machine source)) := by
  cases request with
  | start offset =>
      rw [answer, Machine.start?_eq source counted, ok_bind,
        Session.answer]
      cases Stream.start? source.toList offset <;> rfl
  | operate operation =>
      cases standing with
      | none => rfl
      | some stream =>
          rcases placed stream rfl with ⟨offset, front, gap, here⟩
          have operated := Machine.operate_eq here counted operation
          rw [Option.map_some, answer, operated]
          rfl
  | describe error =>
      rw [answer, describe_eq]
      rfl

theorem answers_eq (source : String)
    (counted : source.utf8ByteSize ≤ Text.maxSize) (requests : List Request)
    {standing : Option Stream}
    (placed : Session.Standing source.toList standing) :
    answers source requests (standing.map (Stream.machine source)) =
      .ok (Session.answers source.toList requests standing) := by
  induction requests generalizing standing with
  | nil => rfl
  | cons request requests induction =>
      have later := induction (Session.standing_answer request placed)
      rw [answers, answer_eq source counted placed, ok_bind]
      dsimp only
      rw [later]
      rfl

/--
Whatever is asked about a source that fits in memory, and in whatever order, no
checked operation is ever a breach: every request has its answer.
-/
theorem answers_eq_ok (source : String)
    (counted : source.utf8ByteSize ≤ Text.maxSize)
    (requests : List Request) :
    answers source requests none =
      .ok (Session.answers source.toList requests none) :=
  answers_eq source counted requests Session.standing_none

/--
An open string behind a character of two bytes, started inside of this character
first, and a complaint about a span outside of the text.
-/
theorem answers_eq_ok_unclosed :
    (String.ofList ['é', '=', '\'', 'ß']).utf8ByteSize ≤ Text.maxSize ∧
      answers (String.ofList ['é', '=', '\'', 'ß'])
          [.start 1, .operate .advance, .start 2, .operate .next,
            .operate .next,
            .operate (.complain (some ⟨9, 7⟩) .predicateAfterDot),
            .operate .advance]
          none =
        .ok
          [.started (some (.outOfRange 1 6)), .idle, .started none,
            .yielded (some (.ok ⟨.eq, ⟨2, 3⟩, ['='], .nothing⟩)),
            .yielded
              (some
                (.error
                  ⟨.unclosedString, ['é', '=', '\'', 'ß'], ⟨3, 6⟩⟩)),
            .complained
              ⟨.predicateAfterDot, ['é', '=', '\'', 'ß'], ⟨6, 6⟩⟩,
            .stepped (.ok .eof)] := by
  have counted :
      (String.ofList ['é', '=', '\'', 'ß']).utf8ByteSize ≤
        Text.maxSize := by
    rw [Text.utf8ByteSize_ofList]
    decide
  refine ⟨counted, ?_⟩
  rw [answers_eq_ok _ counted, String.toList_ofList]
  rfl

end Checked

end XPathScan
