import XPathScan.Scanner.Basic

/-!
# Streams of tokens

A stream yields the token on which its scanner stands and looks one lexeme
ahead.  A malformed lexeme is yielded as a diagnostic behind the tokens before
it and ends the stream; so does the end of the expression, which is yielded
once.  `tokenize` collects the stream of a whole expression.
-/

namespace XPathScan

/-- How far a stream has come. -/
inductive Stage
  /-- The current token is still to be yielded. -/
  | ready
  /-- The diagnostic of the lexeme ahead is still to be yielded. -/
  | failing (diagnostic : Diagnostic)
  /-- Nothing is left. -/
  | ended
  deriving DecidableEq

/-- A scanner whose tokens are yielded one by one. -/
structure Stream where
  scanner : Scanner
  stage : Stage
  deriving DecidableEq

/-- What a stream yields. -/
abbrev Stream.Item := Except Diagnostic Token

namespace Stream

/-- The stream of the lexemes from an offset on. -/
def start? (source : Text) (offset : Nat) : Except ScanError Stream :=
  (Scanner.start? source offset).map fun scanner => ⟨scanner, .ready⟩

/-- The next item of a stream, if it has one, and the stream behind it. -/
def next (stream : Stream) : Option Item × Stream :=
  match stream.stage with
  | .failing diagnostic =>
      (some (.error diagnostic), ⟨stream.scanner, .ended⟩)
  | .ended => (none, stream)
  | .ready =>
      let item := some (.ok stream.scanner.token)
      if stream.scanner.kind = .eof then
        (item, ⟨stream.scanner, .ended⟩)
      else
        let ahead := stream.scanner.next
        match ahead.diagnostic? with
        | some diagnostic => (item, ⟨ahead, .failing diagnostic⟩)
        | none => (item, ⟨ahead, .ready⟩)

/-- Step the scanner of a stream, whatever is still to be yielded. -/
def advance (stream : Stream) : Except Diagnostic Kind × Stream :=
  (stream.scanner.advance.1,
    { stream with scanner := stream.scanner.advance.2 })

/-- A bound on the number of items left. -/
def remaining (stream : Stream) : Nat :=
  match stream.stage with
  | .ended => 0
  | .failing _ => 1
  | .ready => stream.scanner.remaining + 2

/-- Every item that is yielded brings the end of the stream nearer. -/
theorem remaining_next_lt
    {stream later : Stream} {item : Item}
    (yielded : stream.next = (some item, later)) :
    later.remaining < stream.remaining := by
  obtain ⟨scanner, stage⟩ := stream
  cases stage with
  | ended => simp [next] at yielded
  | failing diagnostic =>
      simp only [next, Prod.mk.injEq] at yielded
      obtain ⟨-, rfl⟩ := yielded
      simp [remaining]
  | ready =>
      simp only [next] at yielded
      split at yielded
      · simp only [Prod.mk.injEq] at yielded
        obtain ⟨-, rfl⟩ := yielded
        simp [remaining]
      next inside =>
        have shorter := Scanner.remaining_next_lt inside
        split at yielded
        all_goals
          simp only [Prod.mk.injEq] at yielded
          obtain ⟨-, rfl⟩ := yielded
          simp only [remaining]
          omega

/-- All items that are left, and the ended stream behind them. -/
def collect (stream : Stream) : List Item × Stream :=
  match _yielded : stream.next with
  | (none, later) => ([], later)
  | (some item, later) =>
      let rest := collect later
      (item :: rest.1, rest.2)
termination_by stream.remaining
decreasing_by exact remaining_next_lt _yielded

/-- The tokens left in a stream, or the diagnostic that ends it. -/
def tokens (stream : Stream) : Except Diagnostic (List Token) :=
  stream.collect.1.mapM id

end Stream

/-- The tokens of an expression, the end included. -/
def tokenize (source : Text) : Except ScanError (List Token) := do
  let stream ← Stream.start? source 0
  stream.tokens.mapError .malformed

end XPathScan
