import XPathScan.Proofs.Checked.Session
import XPathScan.Proofs.Lexeme.Masking

/-!
# Nulls are never taken for the end

A source and its masked form, which has `#` in the place of every U+0000, are
scanned side by side.  Masking keeps all offsets, so the two scanners start at
the same places and always stand at the same place; `answers_of_masked` says
that two sessions with the same requests are answered alike, whatever is asked
and in whatever order.  The answers differ in the texts that hold the nulls
only.
-/

namespace XPathScan

/-! ## Masking what is answered -/

/-- A diagnostic about the masked source. -/
def Diagnostic.masked (diagnostic : Diagnostic) : Diagnostic :=
  { diagnostic with source := diagnostic.source.masked }

/-- A scan error, with its source masked. -/
def ScanError.masked : ScanError → ScanError
  | outOfRange offset size => outOfRange offset size
  | malformed diagnostic => malformed diagnostic.masked

/-- A token, with its text and the body of a string masked. -/
def Token.masked (token : Token) : Token :=
  { token with
    text := token.text.masked
    payload := token.payload.masked }

/-- An item of a stream, masked. -/
def Stream.Item.masked : Stream.Item → Stream.Item
  | .ok token => .ok token.masked
  | .error diagnostic => .error diagnostic.masked

/-- A view, with the source, the spelling and the body of a string masked. -/
def View.masked (view : View) : View :=
  { view with
    source := view.source.masked
    spelling := view.spelling.masked
    token := view.token.masked
    body := view.body.map Text.masked }

/-- An answer, with all texts masked that are taken from the source. -/
def Answer.masked : Answer → Answer
  | idle => idle
  | started failure => started (failure.map ScanError.masked)
  | stepped outcome => stepped (outcome.mapError Diagnostic.masked)
  | yielded item => yielded (item.map Stream.Item.masked)
  | viewed view => viewed view.masked
  | complained diagnostic => complained diagnostic.masked
  | described message => described message

/-! ## Masking scanners and streams -/

/-- A scanner in the masked source. -/
def Scanner.masked (scanner : Scanner) : Scanner :=
  { scanner with
    source := scanner.source.masked
    current := scanner.current.masked
    unread := scanner.unread.masked }

/-- A stage, with the diagnostic masked that is still to be yielded. -/
def Stage.masked : Stage → Stage
  | ready => ready
  | failing diagnostic => failing diagnostic.masked
  | ended => ended

/-- A stream over the masked source. -/
def Stream.masked (stream : Stream) : Stream :=
  ⟨stream.scanner.masked, stream.stage.masked⟩

/-- A text is cut at the same offsets when it is masked. -/
theorem Text.splitAt?_masked (text : Text) (offset : Nat) :
    splitAt? (masked text) offset =
      (splitAt? text offset).map fun (front, back) =>
        (masked front, masked back) := by
  induction text generalizing offset with
  | nil => cases offset <;> rfl
  | cons head tail induction =>
      cases offset with
      | zero => rfl
      | succ offset =>
          simp only [masked_cons, splitAt?, utf8Size_maskNull, induction]
          split
          · cases splitAt? tail (offset + 1 - head.utf8Size) <;> rfl
          · rfl

namespace Scanner

variable (scanner : Scanner)

@[simp]
theorem source_masked : scanner.masked.source = scanner.source.masked := rfl

@[simp]
theorem current_masked :
    scanner.masked.current = scanner.current.masked := rfl

@[simp]
theorem start_masked : scanner.masked.start = scanner.start := rfl

@[simp]
theorem kind_masked : scanner.masked.kind = scanner.kind := rfl

@[simp]
theorem size_masked : scanner.masked.size = scanner.size :=
  Text.size_masked scanner.current.text

@[simp]
theorem stop_masked : scanner.masked.stop = scanner.stop := by
  simp [stop]

@[simp]
theorem span_masked : scanner.masked.span = scanner.span := by
  simp [span]

@[simp]
theorem spelling_masked :
    scanner.masked.spelling = scanner.spelling.masked := by
  rw [spelling, spelling, kind_masked]
  split <;> rfl

@[simp]
theorem token_masked : scanner.masked.token = scanner.token.masked := by
  simp [token, Token.masked, Lexeme.masked]

theorem complain_masked (moved : Option Span) (complaint : Complaint) :
    scanner.masked.complain moved complaint =
      (scanner.complain moved complaint).masked := by
  simp [complain, anchor, Anchor.complain, Diagnostic.masked]

theorem diagnostic?_masked :
    scanner.masked.diagnostic? =
      scanner.diagnostic?.map Diagnostic.masked := by
  have fault : scanner.masked.current.fault = scanner.current.fault := rfl
  rw [diagnostic?, diagnostic?, fault, Option.map_map]
  congr 1
  funext fault
  exact complain_masked scanner none fault.complaint

theorem outcome_masked :
    scanner.masked.outcome =
      scanner.outcome.mapError Diagnostic.masked := by
  rw [outcome, outcome, diagnostic?_masked]
  cases scanner.diagnostic? <;> rfl

/-- Whatever can be asked about a lexeme is answered alike. -/
theorem view_masked : scanner.masked.view = scanner.view.masked := by
  simp only [view, View.masked, size_masked, span_masked, spelling_masked,
    token_masked]
  congr 1
  all_goals
    simp only [axis, name, qualifier, callable, body, current_masked,
      Lexeme.masked]
    cases scanner.current.payload <;> rfl

theorem seek_masked
    (source unread : Text) (offset : Nat) (previous : Option Kind) :
    seek source.masked offset previous unread.masked =
      (seek source offset previous unread).masked := by
  have same : isBlank '\x00' = isBlank '#' := rfl
  simp [seek, masked, Text.takeWhile_masked same,
    Text.dropWhile_masked same, Lexeme.read_masked, Lexeme.maskedReading]

theorem next_masked : scanner.masked.next = scanner.next.masked := by
  rw [next, next, kind_masked, stop_masked]
  split
  · rfl
  · exact seek_masked _ _ _ _

theorem start?_masked (source : Text) (offset : Nat) :
    start? source.masked offset =
      ((start? source offset).map masked).mapError ScanError.masked := by
  rw [start?, start?, Text.splitAt?_masked]
  rcases source.splitAt? offset with _ | ⟨front, _ | ⟨first, behind⟩⟩
  · exact congrArg (Except.error ∘ ScanError.outOfRange offset)
      (Text.size_masked source)
  · exact congrArg (Except.error ∘ ScanError.outOfRange offset)
      (Text.size_masked source)
  · have sought := seek_masked source (first :: behind) offset none
    rw [Text.masked_cons] at sought
    simp only [Option.map_some, Text.masked_cons, sought,
      diagnostic?_masked]
    cases (seek source offset none (first :: behind)).diagnostic? <;> rfl

end Scanner

namespace Stream

theorem start?_masked (source : Text) (offset : Nat) :
    start? source.masked offset =
      ((start? source offset).map masked).mapError ScanError.masked := by
  rw [start?, start?, Scanner.start?_masked]
  cases Scanner.start? source offset <;> rfl

theorem next_masked (stream : Stream) :
    stream.masked.next =
      (stream.next.1.map Item.masked, stream.next.2.masked) := by
  rcases stream with ⟨scanner, ready | diagnostic | ended⟩
  · simp only [masked, Stage.masked, next, Scanner.kind_masked,
      Scanner.token_masked, Scanner.next_masked, Scanner.diagnostic?_masked]
    split
    · rfl
    · cases scanner.next.diagnostic? <;> rfl
  · rfl
  · rfl

theorem operate_masked (operation : Operation) (stream : Stream) :
    stream.masked.operate operation =
      ((stream.operate operation).1.masked,
        (stream.operate operation).2.masked) := by
  cases operation with
  | advance =>
      simp [operate, advance, Scanner.advance, masked, Answer.masked,
        Scanner.next_masked, Scanner.outcome_masked]
  | next => simp [operate, next_masked, Answer.masked]
  | view => simp [operate, masked, Answer.masked, Scanner.view_masked]
  | complain moved complaint =>
      simp [operate, masked, Answer.masked, Scanner.complain_masked]

end Stream

/-! ## Sessions side by side -/

namespace Session

/-- One request is answered alike, and leaves the streams side by side. -/
theorem answer_masked
    (source : Text) (request : Request) (standing : Option Stream) :
    answer source.masked request (standing.map Stream.masked) =
      ((answer source request standing).1.masked,
        (answer source request standing).2.map Stream.masked) := by
  cases request with
  | start offset =>
      rw [answer, answer, Stream.start?_masked]
      cases Stream.start? source offset <;> rfl
  | operate operation =>
      cases standing with
      | none => rfl
      | some stream =>
          simp [answer, Stream.operate_masked]
  | describe error => rfl

theorem answers_masked
    (source : Text) (requests : List Request) (standing : Option Stream) :
    answers source.masked requests (standing.map Stream.masked) =
      (answers source requests standing).map Answer.masked := by
  induction requests generalizing standing with
  | nil => rfl
  | cons request requests induction =>
      simp [answers, answer_masked, induction]

end Session

namespace Checked

/--
A source and the same source with `#` in the place of every U+0000 give the same
answers up to this replacement, to any requests in any order: scanners start or
fail alike, stand on lexemes with the same kinds, spans, names and axes, and
find the same faults at the same spans.  Neither scanner has a breach where the
source fits in memory.
-/
theorem answers_of_masked (source : String) (requests : List Request) :
    Session.answers (Text.masked source.toList) requests none =
        (Session.answers source.toList requests none).map Answer.masked ∧
      (source.utf8ByteSize ≤ Text.maxSize →
        ∃ given,
          answers source requests none = .ok given ∧
            answers (String.ofList (Text.masked source.toList)) requests none =
              .ok (given.map Answer.masked)) := by
  have alike := Session.answers_masked source.toList requests none
  refine ⟨alike, fun counted => ⟨_, answers_eq_ok source counted _, ?_⟩⟩
  have counted_masked :
      (String.ofList (Text.masked source.toList)).utf8ByteSize ≤
        Text.maxSize := by
    rw [Text.utf8ByteSize_ofList, Text.size_masked, Text.size_toList]
    exact counted
  rw [answers_eq_ok _ counted_masked, String.toList_ofList]
  exact congrArg Except.ok alike

/-- Nulls behind a name, in a string and at the end. -/
theorem answers_of_masked_nulls :
    (String.ofList
          ['a', '\x00', '\'', '\x00', '\'', '\x00']).utf8ByteSize ≤
        Text.maxSize ∧
      answers (String.ofList ['a', '#', '\'', '#', '\'', '#'])
          [.start 0, .operate .next, .operate .next, .operate .next,
            .operate .next, .operate .next]
          none =
        .ok
          [.started none,
            .yielded
              (some (.ok ⟨.name, ⟨0, 1⟩, ['a'], .name [] ['a'] false⟩)),
            .yielded (some (.ok ⟨.unknown, ⟨1, 2⟩, ['#'], .nothing⟩)),
            .yielded
              (some
                (.ok ⟨.string, ⟨2, 5⟩, ['\'', '#', '\''], .string ['#']⟩)),
            .yielded (some (.ok ⟨.unknown, ⟨5, 6⟩, ['#'], .nothing⟩)),
            .yielded (some (.ok ⟨.eof, ⟨6, 6⟩, Kind.eofForm, .nothing⟩))] := by
  have counted :
      (String.ofList
            ['a', '\x00', '\'', '\x00', '\'', '\x00']).utf8ByteSize ≤
          Text.maxSize := by
    rw [Text.utf8ByteSize_ofList]
    decide
  refine ⟨counted, ?_⟩
  rcases (answers_of_masked _
      [.start 0, .operate .next, .operate .next, .operate .next,
        .operate .next, .operate .next]).2 counted with
    ⟨given, plain, alike⟩
  rw [answers_eq_ok _ counted] at plain
  cases plain
  rw [String.toList_ofList] at alike
  exact alike

end Checked

end XPathScan
