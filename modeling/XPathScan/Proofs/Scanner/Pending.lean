import XPathScan.Proofs.Scanner.Pull
import XPathScan.Proofs.Scanner.Recovery

/-!
# What items are about

A stream holds the diagnostic of the lexeme ahead back for the next item, and
steps do not touch what is held back.  So a token that is yielded is always the
current one, and a diagnostic is always about the lexeme right behind the token
that was yielded before, wherever the scanner has been stepped since
(`next_tells`).  A diagnostic is never lost in this way, but it is about the
current lexeme only if no step has been made in between.
-/

namespace XPathScan

namespace Scanner

/-! ## Steps go forward -/

section

variable {source front gap : Text} {offset : Nat} {scanner : Scanner}

/-- The next lexeme begins where the current one ends, or behind. -/
theorem Placed.stop_le_next
    (placed : Placed source offset scanner front gap)
    (inside : scanner.kind ≠ .eof) :
    scanner.stop ≤ scanner.next.start := by
  have order := (placed.next inside).tile.previousStop_le
  rw [next_of_ne_eof inside] at order ⊢
  exact order

theorem Placed.start_le_advanced
    (placed : Placed source offset scanner front gap) (count : Nat) :
    scanner.start ≤ (scanner.advanced count).start := by
  induction count with
  | zero => exact Nat.le_refl _
  | succ count induction =>
      rw [advanced_succ]
      by_cases ended : (scanner.advanced count).kind = .eof
      · rw [next_of_eof ended]
        exact induction
      · rcases placed.exists_advanced count with ⟨_, _, here⟩
        have forward := here.stop_le_next ended
        rw [stop] at forward
        omega

/-- No step comes back to a lexeme that has been left. -/
theorem Placed.start_lt_advanced
    (placed : Placed source offset scanner front gap)
    (inside : scanner.kind ≠ .eof) (count : Nat) :
    scanner.start < (scanner.advanced (count + 1)).start := by
  have sized : scanner.size ≠ 0 := by
    rw [Ne, placed.size_eq_zero_iff]
    exact inside
  have forward := placed.stop_le_next inside
  have onward := (placed.next inside).start_le_advanced count
  rw [advanced_next] at onward
  rw [stop] at forward
  omega

end

end Scanner

namespace Stream

/-! ## Steps since the last item -/

/--
A stream that is stepped and asked for items in any order, with the stream that
was asked last, if one was, and the number of steps since.
-/
inductive Since (source : Text) (offset : Nat) :
    Option Stream → Nat → Stream → Prop
  | start {stream : Stream}
      (started : start? source offset = .ok stream) :
      Since source offset none 0 stream
  | advance {asked : Option Stream} {steps : Nat} {stream : Stream}
      (since : Since source offset asked steps stream) :
      Since source offset asked (steps + 1) stream.advance.2
  | next {asked : Option Stream} {steps : Nat} {stream : Stream}
      (since : Since source offset asked steps stream) :
      Since source offset (some stream) 0 stream.next.2

section

variable {source : Text} {offset steps : Nat} {asked : Option Stream}
  {before stream : Stream} {diagnostic : Diagnostic}

/-- Every order of steps and items is accounted for. -/
theorem reached_iff_exists_since :
    Reached source offset stream ↔
      ∃ asked steps, Since source offset asked steps stream := by
  constructor
  · intro reached
    induction reached with
    | start started => exact ⟨none, 0, .start started⟩
    | advance reached induction =>
        rcases induction with ⟨asked, steps, since⟩
        exact ⟨asked, steps + 1, since.advance⟩
    | @next stream reached induction =>
        rcases induction with ⟨asked, steps, since⟩
        exact ⟨some stream, 0, since.next⟩
  · rintro ⟨asked, steps, since⟩
    induction since with
    | start started => exact .start started
    | advance since induction => exact induction.advance
    | next since induction => exact induction.next

/-- Before the first item nothing is held back. -/
theorem Since.ready (since : Since source offset asked steps stream)
    (first : asked = none) : stream.stage = .ready := by
  induction since with
  | start started =>
      rcases exists_scanner_of_start? started with ⟨scanner, -, rfl⟩
      rfl
  | advance since induction => exact induction first
  | next => cases first

/-- Steps since the last item move the scanner and nothing else. -/
theorem Since.eq_advanced (since : Since source offset asked steps stream)
    (last : asked = some before) :
    Reached source offset before ∧
      stream =
        ⟨before.next.2.scanner.advanced steps, before.next.2.stage⟩ := by
  induction since with
  | start => cases last
  | advance since induction =>
      rcases induction last with ⟨reached, rfl⟩
      exact ⟨reached, rfl⟩
  | @next asked steps stream since =>
      cases last
      exact ⟨reached_iff_exists_since.2 ⟨asked, steps, since⟩, rfl⟩

/-! ## Single items -/

theorem eq_token_of_yielded {token : Token}
    (yields : stream.next.1 = some (.ok token)) :
    token = stream.scanner.token := by
  rcases stream with ⟨scanner, stage⟩
  cases stage with
  | failing => cases yields
  | ended => cases yields
  | ready =>
      rw [fst_next_ready] at yields
      cases yields
      rfl

theorem failing_of_yielded
    (yields : stream.next.1 = some (.error diagnostic)) :
    stream.stage = .failing diagnostic := by
  rcases stream with ⟨scanner, stage⟩
  cases stage with
  | failing own =>
      cases yields
      rfl
  | ended => cases yields
  | ready =>
      rw [fst_next_ready] at yields
      cases yields

/-- Only behind a token that is yielded a diagnostic is held back. -/
theorem next_of_failing
    (failing : before.next.2.stage = .failing diagnostic) :
    before.scanner.kind ≠ .eof ∧
      before.scanner.next.diagnostic? = some diagnostic ∧
        before.next =
          (some (.ok before.scanner.token),
            ⟨before.scanner.next, .failing diagnostic⟩) := by
  rcases before with ⟨scanner, stage⟩
  cases stage with
  | failing => cases failing
  | ended => cases failing
  | ready =>
      by_cases ended : scanner.kind = .eof
      · rw [next_ready_of_eof ended] at failing
        cases failing
      · refine ⟨ended, ?_⟩
        cases ahead : scanner.next.diagnostic? with
        | none =>
            rw [next_ready_of_sound ended ahead] at failing
            cases failing
        | some own =>
            rw [next_ready_of_malformed ended ahead] at failing ⊢
            cases failing
            exact ⟨rfl, rfl⟩

end

/--
What the items of a stream are about, in whatever order it is stepped and asked.

A token is the current one.  A diagnostic is handed out by the call behind the
one that yielded a token and found it right behind this token; its span is the
one on which that call left the scanner.  It is the current span if no step has
been made since, and only then.
-/
theorem next_tells {source : Text} {offset steps : Nat}
    {asked : Option Stream} {stream : Stream}
    (since : Since source offset asked steps stream) :
    (∀ token,
      stream.next.1 = some (.ok token) → token = stream.scanner.token) ∧
    ∀ diagnostic,
      stream.next.1 = some (.error diagnostic) →
        ∃ before,
          asked = some before ∧
            before.next.1 = some (.ok before.scanner.token) ∧
            before.scanner.advance =
              (.error diagnostic, before.next.2.scanner) ∧
            diagnostic.span = before.next.2.scanner.span ∧
            (diagnostic.span = stream.scanner.span ↔ steps = 0) := by
  constructor
  · intro token yields
    exact eq_token_of_yielded yields
  · intro diagnostic yields
    have failing := failing_of_yielded yields
    cases last : asked with
    | none =>
        rw [since.ready last] at failing
        cases failing
    | some before =>
        rcases since.eq_advanced last with ⟨reached, rfl⟩
        rcases next_of_failing failing with ⟨inside, malformed, called⟩
        rcases reached.exists_placed with ⟨front, gap, placed⟩
        have here := placed.next inside
        have fails := Scanner.outcome_of_malformed malformed
        have failed := placed.failed_of_error inside fails
        have behind : before.scanner.next.kind ≠ .eof := by
          rw [failed.kind_eq]
          decide
        refine ⟨before, rfl, ?_⟩
        rw [called]
        refine ⟨rfl, ?_, failed.span_eq, ?_⟩
        · rw [Scanner.advance, fails]
        · rw [failed.span_eq]
          constructor
          · intro same
            cases steps with
            | zero => rfl
            | succ steps =>
                have forward := here.start_lt_advanced behind steps
                have starts := congrArg Span.start same
                exact absurd starts (Nat.ne_of_lt forward)
          · rintro rfl
            rfl

/-- A diagnostic is held back while a step leads on to a sound lexeme. -/
theorem next_tells_passed :
    ∃ before stream diagnostic,
      Since ['a', ' ', '1', 'e', '5', ' ', 'b'] 0 (some before) 1 stream ∧
        stream.next.1 = some (.error diagnostic) ∧
        diagnostic.span = before.next.2.scanner.span ∧
        diagnostic.span ≠ stream.scanner.span := by
  let first : Scanner :=
    Scanner.seek ['a', ' ', '1', 'e', '5', ' ', 'b'] 0 none
      ['a', ' ', '1', 'e', '5', ' ', 'b']
  have started :
      start? ['a', ' ', '1', 'e', '5', ' ', 'b'] 0 =
        .ok ⟨first, .ready⟩ := rfl
  have since := (Since.start started).next.advance
  rcases (next_tells since).2 _ rfl with
    ⟨before, last, -, -, span, current⟩
  cases last
  refine ⟨_, _, _, since, rfl, span, ?_⟩
  intro same
  cases current.1 same

/--
The item that is yielded is not always about the current lexeme: a diagnostic
that was found ahead is yielded where a sound lexeme has been reached since.
-/
theorem not_next_tells_current :
    ¬ ∀ source offset stream,
      Reached source offset stream →
        (∀ token,
          stream.next.1 = some (.ok token) →
            token = stream.scanner.token) ∧
        ∀ diagnostic,
          stream.next.1 = some (.error diagnostic) →
            diagnostic.span = stream.scanner.span := by
  intro current
  let first : Scanner :=
    Scanner.seek ['a', ' ', '1', 'e', '5', ' ', 'b'] 0 none
      ['a', ' ', '1', 'e', '5', ' ', 'b']
  have started :
      start? ['a', ' ', '1', 'e', '5', ' ', 'b'] 0 =
        .ok ⟨first, .ready⟩ := rfl
  have reached := (Reached.start started).next.advance
  have same := (current _ _ _ reached).2 _ rfl
  revert same
  decide

end Stream

end XPathScan
