import XPathScan.Checked.Scanner
import XPathScan.Proofs.Checked.Lexeme
import XPathScan.Proofs.Lexeme.Munch
import XPathScan.Proofs.Scanner.Items
import XPathScan.Proofs.Scanner.Tiling

/-!
# Checked scanners agree with scanners

A stream over the text of a source has a counterpart, the checked scanner whose
cursor stands behind the same lexeme.  Wherever the stream is placed in its
source, every operation of the counterpart has a result, and it is the result of
the stream.  The step is `readNext_behind`; what is asked about the current
lexeme follows from the place of the scanner.
-/

namespace XPathScan

/-- The diagnostic that is still to be yielded. -/
def Stage.pending? : Stage → Option Diagnostic
  | .failing diagnostic => some diagnostic
  | _ => none

/-- Whether nothing is left. -/
def Stage.isEnded : Stage → Bool
  | .ended => true
  | _ => false

/-- The checked scanner that stands where a stream stands. -/
def Stream.machine (source : String) (stream : Stream) : Machine where
  cursor := ⟨source, stream.scanner.stop⟩
  kind := stream.scanner.kind
  start := stream.scanner.start
  previousStop := stream.scanner.previousStop
  previousKind := stream.scanner.previousKind
  detail := stream.scanner.current.payload.detail
  pending := stream.stage.pending?
  exhausted := stream.stage.isEnded

namespace Machine

open Scanner (seek Placed)

/-! ## Steps -/

section

variable {source : String} {front unread : Text}

/-- What is wrong with a lexeme decides about its kind. -/
theorem kind_reading (previous : Option Kind) :
    ((Lexeme.read previous unread).1.reading source front).kind =
      (Lexeme.read previous unread).1.kind := by
  cases malformed : (Lexeme.read previous unread).1.fault with
  | none => simp only [Reading.kind, Lexeme.reading, malformed]
  | some fault =>
      rw [Lexeme.eq_faulty_of_fault malformed]
      rfl

theorem start_seek (source : Text) (front : Text) (previous : Option Kind)
    (unread : Text) :
    (seek source (Text.size front) previous unread).start =
      Text.size (front ++ unread.takeWhile isBlank) :=
  (Text.size_append _ _).symm

theorem stop_seek (source : Text) (front : Text) (previous : Option Kind)
    (unread : Text) :
    (seek source (Text.size front) previous unread).stop =
      Text.size
        (front ++ unread.takeWhile isBlank ++
          (Lexeme.read previous (unread.dropWhile isBlank)).1.text) := by
  rw [Scanner.stop, start_seek]
  exact (Text.size_append _ _).symm

/-- Reading a lexeme tells what standing on it tells. -/
theorem outcome_reading (previous : Option Kind) :
    ((Lexeme.read previous (unread.dropWhile isBlank)).1.reading source
          (front ++ unread.takeWhile isBlank)).outcome =
      (seek source.toList (Text.size front) previous unread).outcome := by
  have place :
      (Lexeme.read previous (unread.dropWhile isBlank)).1.place source
          (front ++ unread.takeWhile isBlank) =
        (seek source.toList (Text.size front) previous unread).anchor := by
    rw [Scanner.anchor, Scanner.span, start_seek, stop_seek]
    rfl
  cases malformed :
      (Lexeme.read previous (unread.dropWhile isBlank)).1.fault with
  | none =>
      have sound :
          (seek source.toList (Text.size front) previous unread).diagnostic? =
            none :=
        Scanner.diagnostic?_eq_none_iff.2 malformed
      simp only [Lexeme.reading, malformed, Scanner.outcome, sound]
      rfl
  | some fault =>
      have complaint :
          (seek source.toList (Text.size front) previous unread).diagnostic? =
            some
              ((seek source.toList (Text.size front) previous
                  unread).anchor.complain fault.complaint) :=
        congrArg (Option.map _) malformed
      simp only [Lexeme.reading, malformed, Scanner.outcome, complaint, place]

/-- Reading on from a cut stands where seeking stands. -/
theorem readNext_behind {machine : Machine} (stage : Stage)
    (previous : Option Kind) (cut : Cut source front unread)
    (here : machine.cursor = .behind source front)
    (pending : machine.pending = stage.pending?)
    (exhausted : machine.exhausted = stage.isEnded) :
    machine.readNext previous =
      .ok
        ((seek source.toList (Text.size front) previous unread).outcome,
          Stream.machine source
            ⟨seek source.toList (Text.size front) previous unread,
              stage⟩) := by
  have blanks := Checked.eatWhile_behind isBlank cut
  have read := Checked.read_behind previous (cut.move_takeWhile isBlank)
  simp only [readNext, leave, here, blanks, Cursor.position_behind, read,
    Checked.ok_bind, outcome_reading, kind_reading, pending, exhausted]
  rw [Stream.machine, stop_seek, start_seek]
  rfl

/-- A checked scanner starts where a stream starts, and fails where it fails. -/
theorem start?_eq (source : String)
    (counted : source.utf8ByteSize ≤ Text.maxSize) (offset : Nat) :
    start? source offset =
      .ok
        ((Stream.start? source.toList offset).map
          (Stream.machine source)) := by
  rw [start?]
  split
  next outside =>
    rw [Text.isValid_iff_exists_split, ← Text.size_toList] at outside
    rw [Stream.start?,
      (Scanner.start?_eq_outOfRange_iff source.toList offset).2 outside,
      Text.size_toList]
    rfl
  next inside =>
    rw [not_or, Nat.not_le, Decidable.not_not] at inside
    rcases (Text.isValid_iff_exists_split source offset).1 inside.2 with
      ⟨front, unread, whole, rfl⟩
    have cut : Cut source front unread := ⟨whole, counted⟩
    have filled : unread ≠ [] := by
      rintro rfl
      exact absurd cut.position_eq_size (Nat.ne_of_lt inside.1)
    have moved := Checked.moveTo_behind cut []
    have read :=
      @readNext_behind source front unread (fresh (.behind source front))
        .ready none cut rfl rfl rfl
    change Checked.moveTo _ (Cursor.start source) = _ at moved
    simp only [moved, read, Checked.ok_bind]
    rw [Stream.start?, Scanner.start?_eq_answer whole rfl filled,
      Scanner.answer]
    cases (seek source.toList (Text.size front) none unread).outcome <;> rfl

end

section

variable {source : String} {front gap : Text} {offset : Nat}
  {stream : Stream}

theorem cut_of_placed
    (placed : Placed source.toList offset stream.scanner front gap)
    (counted : source.utf8ByteSize ≤ Text.maxSize) :
    Cut source (front ++ (gap ++ stream.scanner.current.text))
      stream.scanner.unread :=
  ⟨placed.whole_at_stop, counted⟩

theorem cursor_machine
    (placed : Placed source.toList offset stream.scanner front gap) :
    (stream.machine source).cursor =
      .behind source (front ++ (gap ++ stream.scanner.current.text)) :=
  congrArg (Cursor.mk source) placed.stop_eq

/-- Stepping agrees with the steps of a stream. -/
theorem advance_eq
    (placed : Placed source.toList offset stream.scanner front gap)
    (counted : source.utf8ByteSize ≤ Text.maxSize) :
    (stream.machine source).advance =
      .ok (stream.advance.1, stream.advance.2.machine source) := by
  rw [advance]
  split
  next ended =>
    rw [Stream.advance, placed.advance_of_eof ended]
    rfl
  next inside =>
    have stepped : stream.scanner.next = _ := Scanner.next_of_ne_eof inside
    rw [placed.source_eq, placed.stop_eq] at stepped
    rw [Stream.advance, Scanner.advance, stepped]
    exact
      readNext_behind stream.stage (some stream.scanner.kind)
        (cut_of_placed placed counted) (cursor_machine placed) rfl rfl

/-! ## The current lexeme -/

theorem span_eq (source : String) (stream : Stream) :
    (stream.machine source).span = .ok stream.scanner.span :=
  Checked.span_eq_ok (Nat.le_add_right _ _)

theorem size_eq (source : String) (stream : Stream) :
    (stream.machine source).size = .ok stream.scanner.size := by
  have order : stream.scanner.start ≤ stream.scanner.stop :=
    Nat.le_add_right _ _
  have difference :
      stream.scanner.stop - stream.scanner.start = stream.scanner.size :=
    Nat.add_sub_cancel_left _ _
  rw [← difference]
  exact Checked.subtract_eq_ok order

theorem width_eq (source : String) (stream : Stream) :
    (stream.machine source).width = .ok stream.scanner.size := by
  rw [width, span_eq, Checked.ok_bind]
  exact size_eq source stream

theorem spelling_eq
    (placed : Placed source.toList offset stream.scanner front gap)
    (counted : source.utf8ByteSize ≤ Text.maxSize) :
    (stream.machine source).spelling = .ok stream.scanner.spelling := by
  rw [Scanner.spelling]
  by_cases ended : stream.scanner.kind = .eof
  · rw [if_pos ended]
    exact if_pos ended
  · have cut :
        Cut source (front ++ gap)
          (stream.scanner.current.text ++ stream.scanner.unread) := by
      refine ⟨?_, counted⟩
      rw [List.append_assoc]
      exact placed.whole
    have sliced := Checked.sliceFrom_behind cut
    rw [List.append_assoc, ← cursor_machine placed, Text.size_append,
      ← placed.start_eq] at sliced
    rw [if_neg ended]
    exact (if_neg ended).trans sliced

/-- What a lexeme carries is found again by its kind. -/
theorem payload_eq (source : String)
    (carries :
      Carries stream.scanner.kind stream.scanner.current.payload) :
    (stream.machine source).payload = stream.scanner.current.payload := by
  rcases stream with ⟨⟨_, _, _, _, ⟨kind, payload, _, _⟩, _⟩, _⟩
  change Carries kind payload at carries
  cases carries with
  | name => rfl
  | string => rfl
  | axis => rfl
  | nothing other =>
      simp only [List.mem_cons, not_or] at other
      simp [Machine.payload, Stream.machine, Scanner.kind, other]

/-- The accessors answer by the kind what the payload answers. -/
theorem accessors_eq (source : String)
    (carries :
      Carries stream.scanner.kind stream.scanner.current.payload) :
    (stream.machine source).axis = stream.scanner.axis ∧
      (stream.machine source).name = stream.scanner.name ∧
      (stream.machine source).qualifier = stream.scanner.qualifier ∧
      (stream.machine source).callable = stream.scanner.callable ∧
      (stream.machine source).body = stream.scanner.body := by
  rcases stream with ⟨⟨_, _, _, _, ⟨kind, payload, _, _⟩, _⟩, _⟩
  change Carries kind payload at carries
  cases carries with
  | name => exact ⟨rfl, rfl, rfl, rfl, rfl⟩
  | string => exact ⟨rfl, rfl, rfl, rfl, rfl⟩
  | axis listed =>
      have known := Axis.ne_unknown_of_mem_named listed
      refine ⟨if_neg ?_, rfl, rfl, rfl, rfl⟩
      rintro (other | unnamed)
      · exact other rfl
      · exact known unnamed
  | nothing other =>
      simp only [List.mem_cons, not_or] at other
      exact
        ⟨if_pos (.inl other.2.2.1), if_neg other.1, if_neg other.1,
          if_neg other.1, if_neg other.2.1⟩

theorem token_eq
    (placed : Placed source.toList offset stream.scanner front gap)
    (counted : source.utf8ByteSize ≤ Text.maxSize) :
    (stream.machine source).token = .ok stream.scanner.token := by
  rw [token, span_eq, Checked.ok_bind, spelling_eq placed counted,
    Checked.ok_bind, payload_eq source placed.carries]
  rfl

/-! ## Iteration -/

/-- A token is yielded as a ready stream yields it. -/
theorem yieldToken_eq {scanner : Scanner}
    (placed : Placed source.toList offset scanner front gap)
    (counted : source.utf8ByteSize ≤ Text.maxSize) :
    (Stream.machine source ⟨scanner, .ready⟩).yieldToken =
      .ok
        ((Stream.next ⟨scanner, .ready⟩).1,
          (Stream.next ⟨scanner, .ready⟩).2.machine source) := by
  have token :
      (Stream.machine source ⟨scanner, .ready⟩).token = .ok scanner.token :=
    token_eq placed counted
  rw [yieldToken, token, Checked.ok_bind]
  by_cases ended : scanner.kind = .eof
  · rw [Stream.next_ready_of_eof ended]
    exact if_pos ended
  · have advanced :
        (Stream.machine source ⟨scanner, .ready⟩).advance =
          .ok
            (scanner.next.outcome,
              Stream.machine source ⟨scanner.next, .ready⟩) :=
      advance_eq placed counted
    refine (if_neg ended).trans ?_
    rw [advanced, Checked.ok_bind, Scanner.outcome]
    cases ahead : scanner.next.diagnostic? with
    | none =>
        rw [Stream.next_ready_of_sound ended ahead]
        rfl
    | some diagnostic =>
        rw [Stream.next_ready_of_malformed ended ahead]
        rfl

/-- The iteration agrees with the items of a stream. -/
theorem next_eq
    (placed : Placed source.toList offset stream.scanner front gap)
    (counted : source.utf8ByteSize ≤ Text.maxSize) :
    (stream.machine source).next =
      .ok (stream.next.1, stream.next.2.machine source) := by
  rcases stream with ⟨scanner, stage⟩
  cases stage with
  | failing diagnostic => rfl
  | ended => rfl
  | ready => exact yieldToken_eq placed counted

end

end Machine

end XPathScan
