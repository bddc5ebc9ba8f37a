import XPathScan.Proofs.Scanner.Interleaving
import XPathScan.Proofs.Scanner.Lookback
import XPathScan.Proofs.Scanner.Tiling

/-!
# Going on behind malformed lexemes

A step that fails stands on the malformed lexeme as on any other, with the
diagnostic over its span.  `Failed` says how it leaves the scanner, and
`Resumed` how the step behind it goes on: right behind the lexeme, as at the
front of an expression.  A string left open takes all the rest of the text, and
a number with an exponent takes all digits that follow, so that the first leaves
nothing to go on with and the second never leaves a digit.  Both hold after
every order of steps and items (`recovers_of_advance`).
-/

namespace XPathScan

namespace Lexeme

open Text (LongestPrefix)

/-! ## Malformed lexemes -/

/-- One more digit may be written behind an exponent. -/
theorem IsScientific.concat {text : Text} {digit : Char}
    (scientific : IsScientific text) (numeric : isDigit digit = true) :
    IsScientific (text ++ [digit]) := by
  cases scientific with
  | @mk numeral sign digits mark numeric_numeral marked signed inside =>
      have longer :
          ∀ character ∈ digits ++ [digit], isDigit character = true := by
        simpa [or_imp, forall_and, numeric] using inside
      have whole := IsScientific.mk numeric_numeral marked signed longer
      simpa using whole

section

variable {previous : Option Kind} {unread text : Text}

/-- A string left open takes all of the text. -/
theorem Munch.eq_of_unclosedString
    (munch : Munch previous unread text (.error .unclosedString)) :
    text = unread := by
  cases munch with
  | unclosed opens quoting absent => rfl

/-- No digit is left behind an exponent. -/
theorem Munch.isDigit_of_scientificNotation {first : Char} {behind : Text}
    (munch : Munch previous unread text (.error .scientificNotation))
    (follows : unread = text ++ first :: behind) :
    isDigit first = false := by
  cases munch with
  | scientific longest shaped split marked whole =>
      rw [← Bool.not_eq_true]
      intro numeric
      have starts : text ++ [first] <+: unread :=
        ⟨behind, by simp [follows]⟩
      have shorter :=
        whole.longest _ starts (whole.holds.concat numeric)
      rw [List.length_append] at shorter
      exact absurd shorter (Nat.not_succ_le_self text.length)

end

end Lexeme

namespace Scanner

open Lexeme (Munch)

/-! ## The step that fails -/

/-- How a step that fails leaves the scanner behind. -/
structure Failed
    (source : Text) (before after : Scanner) (diagnostic : Diagnostic) :
    Prop where
  category :
    diagnostic.category = .unclosedString ∨
      diagnostic.category = .scientificNotation
  source_eq : diagnostic.source = source
  span_eq : diagnostic.span = after.span
  /-- Clamping does not change the span. -/
  unclamped : after.span.clampTo (Text.size source) = after.span
  filled : diagnostic.span.start < diagnostic.span.stop
  start_boundary : source.IsBoundary diagnostic.span.start
  stop_boundary : source.IsBoundary diagnostic.span.stop
  kind_eq : after.kind = .unknown
  spelling : diagnostic.span.slice? source = some after.spelling
  previousKind_eq : after.previousKind = some before.kind
  previousStop_eq : after.previousStop = before.stop

/-- How scanning goes on behind a malformed lexeme. -/
structure Resumed
    (source : Text) (after : Scanner) (diagnostic : Diagnostic) :
    Prop where
  previousStop_eq : after.next.previousStop = diagnostic.span.stop
  /-- Only blanks are skipped behind the lexeme. -/
  gap_blank :
    ∃ gap,
      source.slice? diagnostic.span.stop after.next.start = some gap ∧
        ∀ character ∈ gap, isBlank character = true
  /-- The next lexeme is read as at the front of an expression. -/
  operand :
    ∃ front unread,
      source.splitAt? after.next.start = some (front, unread) ∧
        Lexeme.read none unread =
          (after.next.current, after.next.unread)
  no_operator : after.next.kind ∉ operatorReadings
  ended :
    diagnostic.category = .unclosedString → after.advance.1 = .ok .eof
  no_digit :
    diagnostic.category = .scientificNotation →
      ∀ front first behind,
        source.splitAt? diagnostic.span.stop =
            some (front, first :: behind) →
          isDigit first = false

namespace Placed

variable {source front gap : Text} {offset : Nat} {scanner : Scanner}
  {diagnostic : Diagnostic}

/-- A step onto a malformed lexeme fails with the diagnostic over its span. -/
theorem exists_fault_of_error
    (placed : Placed source offset scanner front gap)
    (failed : scanner.outcome = .error diagnostic) :
    ∃ fault,
      scanner.current.fault = some fault ∧
        diagnostic = ⟨fault.complaint, source, scanner.span⟩ := by
  rw [placed.outcome_eq] at failed
  cases malformed : scanner.current.fault with
  | none =>
      rw [malformed] at failed
      cases failed
  | some fault =>
      rw [malformed] at failed
      exact ⟨fault, rfl, (Except.error.inj failed).symm⟩

/-- There is no step from the end that could fail. -/
theorem ne_eof_of_advance
    (placed : Placed source offset scanner front gap)
    (failed : scanner.advance.1 = .error diagnostic) :
    scanner.kind ≠ .eof := by
  intro ended
  rw [placed.advance_of_eof ended] at failed
  cases failed

theorem munch_of_fault {fault : Fault}
    (placed : Placed source offset scanner front gap)
    (malformed : scanner.current.fault = some fault) :
    Munch scanner.previousKind
      (scanner.current.text ++ scanner.unread)
      scanner.current.text (.error fault) := by
  have munch := placed.munch
  rw [Lexeme.result, malformed] at munch
  exact munch

theorem failed_of_error
    (placed : Placed source offset scanner front gap)
    (inside : scanner.kind ≠ .eof)
    (malformed : scanner.next.outcome = .error diagnostic) :
    Failed source scanner scanner.next diagnostic := by
  have here := placed.next inside
  have kind := here.kind_of_malformed malformed
  have sized : scanner.next.size ≠ 0 := by
    rw [ne_eq, here.size_eq_zero_iff, kind]
    decide
  have spelled : scanner.next.spelling = scanner.next.current.text := by
    rw [spelling, kind]
    rfl
  have start_boundary := here.tile.start_boundary
  have stop_boundary := here.tile.stop_boundary
  rw [here.source_eq] at start_boundary stop_boundary
  rcases here.exists_fault_of_error malformed with ⟨fault, -, rfl⟩
  refine
    { category := ?_
      source_eq := rfl
      span_eq := rfl
      unclamped := here.clampTo_span
      filled := Nat.lt_add_of_pos_right (Nat.pos_of_ne_zero sized)
      start_boundary := start_boundary
      stop_boundary := stop_boundary
      kind_eq := kind
      spelling := ?_
      previousKind_eq := ?_
      previousStop_eq := ?_ }
  · cases fault
    · exact Or.inr rfl
    · exact Or.inl rfl
  · rw [spelled, ← here.lexeme?_eq, lexeme?, here.source_eq]
  · rw [next_of_ne_eof inside]
    rfl
  · rw [next_of_ne_eof inside]
    rfl

/-! ## The step behind it -/

/-- Behind an unknown lexeme reading begins anew. -/
theorem read_behind_unknown
    (placed : Placed source offset scanner front gap)
    (unknown : scanner.previousKind = some .unknown) :
    Lexeme.read none (scanner.current.text ++ scanner.unread) =
      (scanner.current, scanner.unread) := by
  have same : expectsOperand none = expectsOperand scanner.previousKind := by
    rw [unknown]
    rfl
  rw [Lexeme.read_congr same]
  exact placed.read_eq

/-- Behind an unknown lexeme nothing is read as one of the five operators. -/
theorem no_operator_behind_unknown
    (placed : Placed source offset scanner front gap)
    (unknown : scanner.previousKind = some .unknown) :
    scanner.kind ∉ operatorReadings := by
  intro reading
  have expecting : OperandExpecting scanner.previousKind := by
    rw [unknown]
    exact .opener (by decide)
  have follow := placed.settled.mayFollow placed
  exact follow.operator expecting reading

/-- An open string leaves nothing to go on with. -/
theorem unread_of_unclosedString
    (placed : Placed source offset scanner front gap)
    (malformed : scanner.current.fault = some .unclosedString) :
    scanner.unread = [] := by
  have taken := (placed.munch_of_fault malformed).eq_of_unclosedString
  exact List.append_right_eq_self.1 taken.symm

/-- A number with an exponent is not followed by a digit. -/
theorem no_digit_of_scientificNotation
    (placed : Placed source offset scanner front gap)
    (malformed : scanner.current.fault = some .scientificNotation)
    {before behind : Text} {first : Char}
    (cut :
      source.splitAt? scanner.stop = some (before, first :: behind)) :
    isDigit first = false := by
  have munch := placed.munch_of_fault malformed
  rw [placed.splitAt?_stop, Option.some.injEq, Prod.mk.injEq] at cut
  rw [cut.2] at munch
  exact munch.isDigit_of_scientificNotation rfl

theorem resumed_of_fault {fault : Fault}
    (placed : Placed source offset scanner front gap)
    (malformed : scanner.current.fault = some fault)
    (unknown : scanner.kind = .unknown) :
    Resumed source scanner ⟨fault.complaint, source, scanner.span⟩ := by
  have inside : scanner.kind ≠ .eof := by
    rw [unknown]
    decide
  have later := placed.next inside
  have stepped := next_of_ne_eof inside
  have behind : scanner.next.previousKind = some .unknown := by
    rw [stepped, ← unknown]
    rfl
  have stop : scanner.next.previousStop = scanner.stop := by
    rw [stepped]
    rfl
  refine
    { previousStop_eq := stop
      gap_blank := ?_
      operand := ?_
      no_operator := later.no_operator_behind_unknown behind
      ended := ?_
      no_digit := ?_ }
  · refine ⟨_, ?_, later.gap_blank⟩
    rw [← later.gap?_eq, gap?, later.source_eq, stop]
    rfl
  · have cut :=
      Text.splitAt?_eq_some_iff.2
        ⟨later.whole_at_start, later.size_front_append_gap⟩
    exact ⟨_, _, cut, later.read_behind_unknown behind⟩
  · intro unclosed
    cases fault with
    | scientificNotation => cases unclosed
    | unclosedString =>
        rw [advance, stepped, placed.unread_of_unclosedString malformed]
        rfl
  · intro scientific before first rest cut
    cases fault with
    | unclosedString => cases scientific
    | scientificNotation =>
        exact placed.no_digit_of_scientificNotation malformed cut

end Placed

/--
Whatever steps and items came before, a step that fails leaves the scanner on
the malformed lexeme that its diagnostic covers, and scanning goes on right
behind it.
-/
theorem recovers_of_advance
    {source : Text} {offset : Nat} {stream : Stream}
    {diagnostic : Diagnostic}
    (reached : Stream.Reached source offset stream)
    (failed : stream.advance.1 = .error diagnostic) :
    Failed source stream.scanner stream.advance.2.scanner diagnostic ∧
      Resumed source stream.advance.2.scanner diagnostic := by
  rcases reached.exists_placed with ⟨front, gap, placed⟩
  have inside := placed.ne_eof_of_advance failed
  have left := placed.failed_of_error inside failed
  have here := placed.next inside
  rcases here.exists_fault_of_error failed with ⟨fault, malformed, rfl⟩
  exact ⟨left, here.resumed_of_fault malformed left.kind_eq⟩

/--
Behind a number with an exponent a star is a name test, and behind this an open
string takes the rest.
-/
theorem recovers_behind_exponent :
    ∃ stream diagnostic diagnostic',
      Stream.Reached ['a', '2', ' ', '.', '5', 'E', '*', '\'', 'é'] 0 stream ∧
        stream.advance.1 = .error diagnostic ∧
        Failed ['a', '2', ' ', '.', '5', 'E', '*', '\'', 'é']
          stream.scanner stream.advance.2.scanner diagnostic ∧
        Resumed ['a', '2', ' ', '.', '5', 'E', '*', '\'', 'é']
          stream.advance.2.scanner diagnostic ∧
        stream.advance.2.advance.1 = .ok .star ∧
        stream.advance.2.advance.2.advance.1 = .error diagnostic' ∧
        Resumed ['a', '2', ' ', '.', '5', 'E', '*', '\'', 'é']
          stream.advance.2.advance.2.advance.2.scanner diagnostic' := by
  have started :
      Stream.start? ['a', '2', ' ', '.', '5', 'E', '*', '\'', 'é'] 0 =
        .ok _ := rfl
  have reached := Stream.Reached.start started
  have laws := recovers_of_advance reached rfl
  have laws' := recovers_of_advance reached.advance.advance rfl
  exact ⟨_, _, _, reached, rfl, laws.1, laws.2, rfl, rfl, laws'.2⟩

end Scanner

end XPathScan
