import XPathScan.Proofs.Lexeme.Munch
import XPathScan.Proofs.Scanner.Run

/-!
# Scanners take the longest lexeme

Seeking skips blanks and takes off what `Lexeme.Munch` says.  Since every
scanner of a run is placed in its source, the text that a step reads is the
source behind the current lexeme, so `maximal_munch` describes the start and
every step of every run by the source alone, over malformed lexemes too.
-/

namespace XPathScan

namespace Scanner

open Lexeme (Munch)

/-- The span of a text behind an offset and the blanks that follow there. -/
def spanAhead (offset : Nat) (unread text : Text) : Span :=
  ⟨offset + Text.size (unread.takeWhile isBlank),
    offset + Text.size (unread.takeWhile isBlank) + Text.size text⟩

/-- What is told about a text of the given result. -/
def told (source : Text) (span : Span) :
    Except Fault Kind → Except Diagnostic Kind
  | .ok kind => .ok kind
  | .error fault => .error ⟨fault.complaint, source, span⟩

/-- A scanner that stands on a text taken off behind an offset. -/
structure Takes
    (source : Text) (offset : Nat) (unread text : Text)
    (result : Except Fault Kind) (scanner : Scanner) : Prop where
  source_eq : scanner.source = source
  span_eq : scanner.span = spanAhead offset unread text
  lexeme?_eq : scanner.lexeme? = some text
  kind_eq : scanner.kind = Lexeme.remembered result
  outcome_eq :
    scanner.outcome = told source (spanAhead offset unread text) result

/--
Starting answers with a scanner on a text taken off at the offset, or refuses
the text.
-/
def Begins (source : Text) (offset : Nat) (unread text : Text) :
    Except Fault Kind → Prop
  | .ok kind =>
      ∃ first,
        start? source offset = .ok first ∧
          Takes source offset unread text (.ok kind) first
  | .error fault =>
      start? source offset =
        .error (.malformed
          ⟨fault.complaint, source, spanAhead offset unread text⟩)

theorem exists_munch (previous : Option Kind) (unread : Text) :
    ∃ text result,
      Munch previous (unread.dropWhile isBlank) text result :=
  ⟨_, _,
    Lexeme.munch_read previous
      (Text.head?_dropWhile_eq_false isBlank unread)⟩

/-- Seeking stands on what is taken off behind the blanks. -/
theorem takes_seek
    {source front unread text : Text} {position : Nat}
    {previous : Option Kind} {result : Except Fault Kind}
    (whole : source = front ++ unread)
    (size_front : Text.size front = position)
    (munch : Munch previous (unread.dropWhile isBlank) text result) :
    Takes source position unread text result
      (seek source position previous unread) := by
  have placed :=
    placed_seek previous whole size_front (Nat.le_refl position)
  have read :=
    Lexeme.munch_read previous
      (Text.head?_dropWhile_eq_false isBlank unread)
  rcases munch.unique read with ⟨rfl, rfl⟩
  refine
    { source_eq := rfl
      span_eq := rfl
      lexeme?_eq := placed.lexeme?_eq
      kind_eq := Lexeme.kind_eq_remembered previous _
      outcome_eq := ?_ }
  have current :
      (seek source position previous unread).current =
        (Lexeme.read previous (unread.dropWhile isBlank)).1 := rfl
  rw [placed.outcome_eq, current, Lexeme.result]
  cases (Lexeme.read previous (unread.dropWhile isBlank)).1.fault <;> rfl

/-- At the end nothing is taken off, and nothing moves. -/
theorem Placed.takes_of_eof
    {source front gap text : Text} {offset : Nat} {scanner : Scanner}
    {result : Except Fault Kind}
    (placed : Placed source offset scanner front gap)
    (ended : scanner.kind = .eof)
    (munch :
      Munch (some scanner.kind) (scanner.unread.dropWhile isBlank)
        text result) :
    Takes source scanner.stop scanner.unread text result scanner := by
  have current := placed.current_of_eof ended
  have unread : scanner.unread = [] :=
    (List.append_eq_nil_iff.1 (placed.kind_eq_eof_iff.1 ended)).2
  rw [unread] at munch ⊢
  rcases munch.unique (.eof rfl) with ⟨rfl, rfl⟩
  have stop : scanner.stop = scanner.start := by
    rw [Scanner.stop, size, current]
    rfl
  refine
    { source_eq := placed.source_eq
      span_eq := ?_
      lexeme?_eq := ?_
      kind_eq := ended
      outcome_eq := ?_ }
  · rw [span, stop]
    rfl
  · rw [placed.lexeme?_eq, current]
    rfl
  · rw [placed.outcome_eq, ended, current]
    rfl

/-- A step stands on what is taken off behind the current lexeme. -/
theorem Placed.takes_next
    {source front gap text : Text} {offset : Nat} {scanner : Scanner}
    {result : Except Fault Kind}
    (placed : Placed source offset scanner front gap)
    (munch :
      Munch (some scanner.kind) (scanner.unread.dropWhile isBlank)
        text result) :
    Takes source scanner.stop scanner.unread text result scanner.next := by
  by_cases ended : scanner.kind = .eof
  · rw [next_of_eof ended]
    exact placed.takes_of_eof ended munch
  · rw [next_of_ne_eof ended, placed.source_eq]
    exact takes_seek placed.whole_at_stop placed.stop_eq.symm munch

/-- Starting takes off what must be taken off at the offset. -/
theorem begins_of_munch
    {source front unread text : Text} {position : Nat}
    {result : Except Fault Kind}
    (whole : source = front ++ unread)
    (size_front : Text.size front = position)
    (filled : unread ≠ [])
    (munch : Munch none (unread.dropWhile isBlank) text result) :
    Begins source position unread text result := by
  have takes := takes_seek whole size_front munch
  have started := start?_eq_answer whole size_front filled
  rw [answer, takes.outcome_eq] at started
  cases result with
  | ok kind => exact ⟨_, started, takes⟩
  | error fault => exact started

/--
Starting and every step take the longest lexeme.  What is read is the text of
the source behind the offset or the current lexeme, blanks aside; `Munch` takes
something off every such text, and only what it takes off is stood on.
-/
theorem maximal_munch (source : Text) (offset : Nat) :
    (∀ front unread,
      source.splitAt? offset = some (front, unread) →
        unread ≠ [] →
          (∃ text result,
            Munch none (unread.dropWhile isBlank) text result) ∧
          ∀ text result,
            Munch none (unread.dropWhile isBlank) text result →
              Begins source offset unread text result) ∧
    ∀ scanner,
      Reached source offset scanner →
        ∃ front unread,
          source.splitAt? scanner.stop = some (front, unread) ∧
          (∃ text result,
            Munch (some scanner.kind) (unread.dropWhile isBlank)
              text result) ∧
          ∀ text result,
            Munch (some scanner.kind) (unread.dropWhile isBlank)
                text result →
              scanner.advance.1 =
                  told source (spanAhead scanner.stop unread text)
                    result ∧
                Takes source scanner.stop unread text result
                  scanner.advance.2 := by
  constructor
  · intro front unread cut filled
    rcases Text.eq_append_of_splitAt? cut with ⟨whole, size_front⟩
    refine ⟨exists_munch none unread, ?_⟩
    intro text result munch
    exact begins_of_munch whole size_front filled munch
  · intro scanner reached
    rcases reached.exists_placed with ⟨front, gap, placed⟩
    refine
      ⟨_, _, placed.splitAt?_stop, exists_munch _ scanner.unread, ?_⟩
    intro text result munch
    have takes := placed.takes_next munch
    exact ⟨takes.outcome_eq, takes⟩

/-- A number, and behind it one with an exponent. -/
theorem maximal_munch_over_fault :
    ∃ first,
      start? ['é', ' ', '.', '5', '\t', '2', 'e', '+', '\'', 'x'] 2 =
          .ok first ∧
        first.lexeme? = some ['.', '5'] ∧
        first.advance.1 =
          .error
            ⟨.scientificNotation,
              ['é', ' ', '.', '5', '\t', '2', 'e', '+', '\'', 'x'],
              ⟨6, 9⟩⟩ ∧
        first.advance.2.lexeme? = some ['2', 'e', '+'] := by
  have laws :=
    maximal_munch ['é', ' ', '.', '5', '\t', '2', 'e', '+', '\'', 'x'] 2
  have no_blank :
      ∀ {first : Char} {rest : Text}, isBlank first = false →
        ∀ character ∈ (first :: rest).head?,
          isBlank character = false := by
    intro first rest outside character member
    rw [← Option.some.inj member]
    exact outside
  have number :
      Munch none ['.', '5', '\t', '2', 'e', '+', '\'', 'x'] ['.', '5']
        (.ok .number) :=
    Lexeme.munch_read none (no_blank rfl)
  have fault :
      Munch (some .number) ['2', 'e', '+', '\'', 'x'] ['2', 'e', '+']
        (.error .scientificNotation) :=
    Lexeme.munch_read (some .number) (no_blank rfl)
  rcases laws.1 ['é'] _ rfl (List.cons_ne_nil _ _) with ⟨-, begins⟩
  rcases begins _ _ number with ⟨first, started, takes⟩
  rcases laws.2 first (.start started) with
    ⟨front, unread, cut, -, steps⟩
  have stop : first.stop = 5 := congrArg Span.stop takes.span_eq
  rw [stop] at cut
  cases cut
  rw [takes.kind_eq] at steps
  rcases steps _ _ fault with ⟨told, takes'⟩
  refine ⟨first, started, takes.lexeme?_eq, ?_, takes'.lexeme?_eq⟩
  rw [told, stop]
  rfl

end Scanner

end XPathScan
