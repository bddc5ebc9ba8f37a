import XPathScan.Proofs.Command.Counting
import XPathScan.Proofs.Json.Records
import XPathScan.Proofs.Listing.Lines

/-!
# Checking and listing agree

A check steps a scanner and counts lexemes; a listing collects the tokens of a
stream, which looks ahead, and lays them out as lines or as JSON.  Both say what
one scan of the expression finds (`scanned`), so a check counts one lexeme less
than a listing shows tokens, the end being one of them, as long as it can count
them, and both fail together and alike.  They fail in one way where the first
lexeme is malformed or cannot start, and in the other where a later one is
malformed (`Fails`).
-/

namespace XPathScan

namespace Scanner

/-! ## The first malformed lexeme -/

/-- The lexeme behind the given number of sound lexemes is malformed. -/
structure FailsBehind
    (first : Scanner) (count : Nat) (diagnostic : Diagnostic) : Prop where
  before : ∀ earlier < count, (first.advanced earlier).diagnostic? = none
  malformed : (first.advanced count).diagnostic? = some diagnostic

section

variable {scanner : Scanner} {diagnostic : Diagnostic}

theorem failsBehind_zero_iff :
    FailsBehind scanner 0 diagnostic ↔
      scanner.diagnostic? = some diagnostic := by
  constructor
  · exact FailsBehind.malformed
  · intro malformed
    exact ⟨fun earlier before => absurd before (Nat.not_lt_zero earlier),
      malformed⟩

theorem failsBehind_succ_iff {count : Nat} :
    FailsBehind scanner (count + 1) diagnostic ↔
      scanner.diagnostic? = none ∧
        FailsBehind scanner.next count diagnostic := by
  constructor
  · intro fails
    refine ⟨fails.before 0 (Nat.succ_pos count), ?_, ?_⟩
    · intro earlier before
      rw [advanced_next]
      exact fails.before (earlier + 1) (Nat.succ_lt_succ before)
    · rw [advanced_next]
      exact fails.malformed
  · rintro ⟨sound, fails⟩
    constructor
    · intro earlier before
      cases earlier with
      | zero => exact sound
      | succ earlier =>
          rw [← advanced_next]
          exact fails.before earlier (Nat.lt_of_succ_lt_succ before)
    · rw [← advanced_next]
      exact fails.malformed

/-- Behind a sound lexeme a run fails where it fails from the next one on. -/
theorem exists_failsBehind_next_iff (sound : scanner.diagnostic? = none) :
    (∃ count, FailsBehind scanner.next count diagnostic) ↔
      ∃ count, FailsBehind scanner count diagnostic := by
  constructor
  · rintro ⟨count, fails⟩
    exact ⟨count + 1, failsBehind_succ_iff.2 ⟨sound, fails⟩⟩
  · rintro ⟨count, fails⟩
    cases count with
    | zero =>
        rw [failsBehind_zero_iff, sound] at fails
        cases fails
    | succ count => exact ⟨count, (failsBehind_succ_iff.1 fails).2⟩

/-- A malformed lexeme is the first one itself. -/
theorem exists_failsBehind_iff_of_malformed {own : Diagnostic}
    (malformed : scanner.diagnostic? = some own) :
    (∃ count, FailsBehind scanner count diagnostic) ↔ own = diagnostic := by
  constructor
  · rintro ⟨count, fails⟩
    cases count with
    | zero =>
        rw [failsBehind_zero_iff, malformed] at fails
        exact Option.some.inj fails
    | succ count =>
        have sound := (failsBehind_succ_iff.1 fails).1
        rw [malformed] at sound
        cases sound
  · rintro rfl
    exact ⟨0, failsBehind_zero_iff.2 malformed⟩

theorem not_failsBehind_of_eof (ended : scanner.kind = .eof)
    (sound : scanner.diagnostic? = none) (count : Nat) :
    ¬ FailsBehind scanner count diagnostic := by
  induction count with
  | zero =>
      intro fails
      rw [failsBehind_zero_iff, sound] at fails
      cases fails
  | succ count induction =>
      intro fails
      rw [failsBehind_succ_iff, next_of_eof ended] at fails
      exact induction fails.2

/-- Pulling fails with the diagnostic of the first malformed lexeme. -/
theorem failure_eq_some_iff (sound : scanner.diagnostic? = none) :
    scanner.pulled.failure = some diagnostic ↔
      ∃ count, FailsBehind scanner count diagnostic := by
  induction scanner using states.induct with
  | case1 scanner ended =>
      rw [pulled_of_eof ended]
      constructor
      · intro failed
        cases failed
      · rintro ⟨count, fails⟩
        exact absurd fails (not_failsBehind_of_eof ended sound count)
  | case2 scanner inside induction =>
      rw [← exists_failsBehind_next_iff sound]
      cases found : scanner.next.diagnostic? with
      | none =>
          rw [pulled_of_sound inside found]
          exact induction found
      | some own =>
          rw [pulled_of_malformed inside found,
            exists_failsBehind_iff_of_malformed found, Option.some.injEq]

end

end Scanner

namespace Command

/-! ## One scan -/

/-- The tokens of an expression from an offset on, or why there are none. -/
def scanned (expression : Text) (start : Nat) : Except Failure (List Token) :=
  match Scanner.start? expression start with
  | .error error => .error (.unscannable error)
  | .ok first => first.pulled.collected.mapError .malformed

/-- An expression that is scanned is pulled from a sound scanner. -/
theorem exists_pulled_of_scanned {expression : Text} {start : Nat}
    {tokens : List Token} (found : scanned expression start = .ok tokens) :
    ∃ first front gap,
      Scanner.start? expression start = .ok first ∧
        Scanner.Placed expression start first front gap ∧
          first.diagnostic? = none ∧ first.pulled.failure = none ∧
            first.pulled.tokens = tokens := by
  rw [scanned] at found
  split at found
  next => cases found
  next first started =>
    cases collected : first.pulled.collected with
    | error diagnostic =>
        rw [collected] at found
        cases found
    | ok own =>
        rw [collected] at found
        rw [← Except.ok.inj found]
        rcases Scanner.exists_placed_of_collected started collected with
          ⟨front, gap, pulled⟩
        exact ⟨first, front, gap, started, pulled⟩

theorem verdict_injective {left right : Int}
    (same : verdict left = verdict right) : left = right := by
  apply Text.ofInt_injective
  rw [verdict, verdict, List.append_assoc, List.append_assoc] at same
  exact List.append_cancel_right (List.append_cancel_left same)

/-- A check counts the tokens without the end, with a counter that wraps
around. -/
theorem result_check (start : Nat) (expression : Text) :
    (check start expression).result =
      (scanned expression start).map fun tokens =>
        verdict (Int32.ofNat (tokens.length - 1)).toInt := by
  rw [check, scanned]
  cases started : Scanner.start? expression start with
  | error error => rfl
  | ok first =>
      dsimp only
      rw [countSteps_zero, Scanner.Pulled.collected]
      cases complete : first.pulled.failure with
      | some diagnostic => rfl
      | none =>
          change _ = Except.ok (verdict _)
          rw [Scanner.length_tokens_of_complete complete,
            Nat.add_sub_cancel]
          rfl

/-- What can be counted has as many tokens at the most. -/
theorem Countable.length_le {expression : Text} {start : Nat}
    {tokens : List Token} (countable : Countable expression start)
    (found : scanned expression start = .ok tokens) :
    tokens.length ≤ 2 ^ 31 := by
  rcases exists_pulled_of_scanned found with
    ⟨first, -, -, started, -, -, complete, rfl⟩
  rw [Scanner.length_tokens_of_complete complete]
  exact (countable_iff started).1 countable

/-- What can be counted is counted. -/
theorem Countable.result_check {expression : Text} {start : Nat}
    (countable : Countable expression start) :
    (check start expression).result =
      (scanned expression start).map fun tokens =>
        verdict (tokens.length - 1 : Nat) := by
  rw [Command.result_check]
  cases found : scanned expression start with
  | error failure => rfl
  | ok tokens =>
      have few := countable.length_le found
      apply congrArg fun count => Except.ok (verdict count)
      apply Int32.toInt_ofNat_of_lt
      omega

/-- A listing lays out the tokens. -/
theorem result_listIn (format : Listing.Format) (withSpans : Bool)
    (start : Nat) (expression : Text) :
    (listIn format withSpans start expression).result =
      (scanned expression start).map (render format withSpans) := by
  rw [listIn, scanned]
  cases started : Scanner.start? expression start with
  | error error =>
      rw [Stream.start?, started]
      rfl
  | ok first =>
      rw [Stream.start?_of_scanner started]
      dsimp only
      rw [Scanner.tokens_ready]
      cases first.pulled.collected <;> rfl

theorem result_listTokens {settings : Settings} {request : ListingRequest}
    {format : Listing.Format}
    (resolved :
      resolveFormat (request.format.getD settings.format) = .ok format)
    (expression : Text) :
    (listTokens settings request expression).result =
      (scanned expression request.start).map
        (render format (request.spans || settings.showSpans)) := by
  rw [listTokens, resolved]
  exact result_listIn format _ request.start expression

/-! ## What a listing shows -/

/-- The number of tokens that a listing shows: lines, or members of an array. -/
def shown? : Listing.Format → Text → Option Nat
  | .text, output => some (output.count '\n')
  | .json, output =>
      match Json.read? output with
      | some (.array members) => some members.length
      | _ => none

/-- An expression that is scanned has tokens, each of them on one line. -/
theorem single_of_scanned {expression : Text} {start : Nat}
    {tokens : List Token} (found : scanned expression start = .ok tokens) :
    0 < tokens.length ∧ ∀ token ∈ tokens, '\n' ∉ token.display := by
  rcases exists_pulled_of_scanned found with
    ⟨first, front, gap, -, placed, sound, complete, rfl⟩
  constructor
  · have head := first.head?_pulled
    exact (List.getElem?_eq_some_iff.1 head).1
  · intro token member
    have listable := placed.listable_of_mem_pulled sound complete
    exact (listable token member).lineFeed_not_mem_display

/-- A listing shows each token once. -/
theorem shown?_render (format : Listing.Format) (withSpans : Bool)
    {expression : Text} {start : Nat} {tokens : List Token}
    (found : scanned expression start = .ok tokens) :
    shown? format (render format withSpans tokens) =
      some tokens.length := by
  cases format with
  | text =>
      have single := (single_of_scanned found).2
      exact congrArg some (Listing.count_renderLines withSpans single)
  | json =>
      have blank : ∀ character ∈ ['\n'], isBlank character = true :=
        List.all_eq_true.1 rfl
      rw [shown?, render, Listing.renderJson, Json.read?_renderRecords _ blank]
      dsimp only
      rw [List.length_map, List.length_map]

/-! ## Failures -/

/--
Why an expression is not scanned from an offset on: no lexeme can start there,
or the first lexeme is malformed, or one behind some sound ones is.
-/
inductive Fails (expression : Text) (start : Nat) : Failure → Prop
  | outOfRange
      (outside :
        Text.size expression ≤ start ∨ ¬ Text.IsBoundary expression start) :
      Fails expression start
        (.unscannable (.outOfRange start (Text.size expression)))
  | first {front unread : Text} {diagnostic : Diagnostic}
      (whole : expression = front ++ unread)
      (size_front : Text.size front = start)
      (filled : unread ≠ [])
      (malformed :
        (Scanner.seek expression start none unread).FailsBehind 0
          diagnostic) :
      Fails expression start (.unscannable (.malformed diagnostic))
  | later {front unread : Text} {count : Nat} {diagnostic : Diagnostic}
      (whole : expression = front ++ unread)
      (size_front : Text.size front = start)
      (filled : unread ≠ [])
      (malformed :
        (Scanner.seek expression start none unread).FailsBehind (count + 1)
          diagnostic) :
      Fails expression start (.malformed diagnostic)

section

variable {expression : Text} {start : Nat}

theorem scanned_of_outside
    (outside :
      Text.size expression ≤ start ∨ ¬ Text.IsBoundary expression start) :
    scanned expression start =
      .error (.unscannable (.outOfRange start (Text.size expression))) := by
  rw [scanned, (Scanner.start?_eq_outOfRange_iff expression start).2 outside]

/-- What is found where a scanner can start depends on its first lexeme. -/
theorem scanned_of_split {front unread : Text}
    (whole : expression = front ++ unread)
    (size_front : Text.size front = start) (filled : unread ≠ []) :
    scanned expression start =
      match (Scanner.seek expression start none unread).diagnostic? with
      | some diagnostic => .error (.unscannable (.malformed diagnostic))
      | none =>
          (Scanner.seek expression start none unread).pulled.collected.mapError
            .malformed := by
  rw [scanned, Scanner.start?_eq_answer whole size_front filled,
    Scanner.answer, Scanner.outcome]
  cases (Scanner.seek expression start none unread).diagnostic? <;> rfl

/-- Inside an expression a scanner can start between its characters. -/
theorem outside_or_split (expression : Text) (start : Nat) :
    (Text.size expression ≤ start ∨ ¬ Text.IsBoundary expression start) ∨
      ∃ front unread,
        expression = front ++ unread ∧ Text.size front = start ∧
          unread ≠ [] := by
  by_cases inside :
      start < Text.size expression ∧ Text.IsBoundary expression start
  · rcases inside with ⟨before, front, unread, whole, size_front⟩
    refine Or.inr ⟨front, unread, whole, size_front, ?_⟩
    rintro rfl
    rw [whole, List.append_nil, size_front] at before
    exact absurd before (Nat.lt_irrefl start)
  · rw [not_and_or, Nat.not_lt] at inside
    exact Or.inl inside

/-- Nothing else keeps an expression from being scanned. -/
theorem scanned_eq_error_iff {failure : Failure} :
    scanned expression start = .error failure ↔
      Fails expression start failure := by
  constructor
  · intro failed
    rcases outside_or_split expression start with
      outside | ⟨front, unread, whole, size_front, filled⟩
    · rw [scanned_of_outside outside] at failed
      rw [← Except.error.inj failed]
      exact .outOfRange outside
    · rw [scanned_of_split whole size_front filled] at failed
      split at failed
      next diagnostic malformed =>
        rw [← Except.error.inj failed]
        exact
          .first whole size_front filled
            (Scanner.failsBehind_zero_iff.2 malformed)
      next sound =>
        rw [Scanner.Pulled.collected] at failed
        split at failed
        next => cases failed
        next diagnostic later =>
          rw [← Except.error.inj failed]
          rcases (Scanner.failure_eq_some_iff sound).1 later with
            ⟨count, malformed⟩
          cases count with
          | zero =>
              rw [Scanner.failsBehind_zero_iff, sound] at malformed
              cases malformed
          | succ count => exact .later whole size_front filled malformed
  · intro fails
    cases fails with
    | outOfRange outside => exact scanned_of_outside outside
    | first whole size_front filled malformed =>
        rw [scanned_of_split whole size_front filled,
          Scanner.failsBehind_zero_iff.1 malformed]
    | later whole size_front filled malformed =>
        have sound := (Scanner.failsBehind_succ_iff.1 malformed).1
        have failure :=
          (Scanner.failure_eq_some_iff sound).2 ⟨_, malformed⟩
        rw [scanned_of_split whole size_front filled, sound]
        dsimp only
        rw [Scanner.Pulled.collected, failure]
        rfl

end

/-! ## Agreement -/

/--
Checking and listing agree, whatever the settings are and in either form, on an
expression with fewer lexemes than the counter of a check has numbers.

Then it does not matter if the counter is checked.  A check finds some number of
lexemes if and only if the listing succeeds and shows one token more, on lines
of their own or as members of an array.  Otherwise both fail with the same
failure.  An expression is refused from the start if its offset is out of range
or its first lexeme is malformed, and found malformed if a lexeme behind at
least one sound lexeme is.
-/
theorem check_agrees {settings : Settings} {request : ListingRequest}
    {format : Listing.Format}
    (resolved :
      resolveFormat (request.format.getD settings.format) = .ok format)
    {expression : Text} (countable : Countable expression request.start) :
    Checked.check request.start expression =
      .ok (check request.start expression) ∧
    (∀ count : Nat,
      (check request.start expression).result = .ok (verdict count) ↔
        ∃ output,
          (listTokens settings request expression).result = .ok output ∧
            shown? format output = some (count + 1)) ∧
    ((∃ count : Nat,
        (check request.start expression).result = .ok (verdict count)) ∨
      ∃ failure,
        (check request.start expression).result = .error failure ∧
          (listTokens settings request expression).result =
            .error failure) ∧
    ∀ failure,
      (check request.start expression).result = .error failure ↔
        Fails expression request.start failure := by
  refine ⟨Checked.check_of_countable countable, ?_⟩
  rw [countable.result_check, result_listTokens resolved]
  refine ⟨?_, ?_, ?_⟩
  · intro count
    cases found : scanned expression request.start with
    | error failure =>
        constructor
        · intro passed
          cases passed
        · rintro ⟨output, listed, -⟩
          cases listed
    | ok tokens =>
        have several := (single_of_scanned found).1
        have shown :=
          shown?_render format (request.spans || settings.showSpans) found
        constructor
        · intro passed
          have same :=
            Int.ofNat.inj (verdict_injective (Except.ok.inj passed))
          refine ⟨_, rfl, ?_⟩
          rw [shown, ← same, Nat.sub_add_cancel several]
        · rintro ⟨output, listed, counted⟩
          rw [← Except.ok.inj listed, shown, Option.some.injEq] at counted
          apply congrArg Except.ok
          change verdict (tokens.length - 1 : Nat) = verdict count
          rw [counted, Nat.add_sub_cancel]
  · cases scanned expression request.start with
    | error failure => exact Or.inr ⟨failure, rfl, rfl⟩
    | ok tokens => exact Or.inl ⟨_, rfl⟩
  · intro failure
    rw [← scanned_eq_error_iff]
    cases scanned expression request.start with
    | error own =>
        change
          (Except.error own : Except Failure Text) = .error failure ↔ _
        rw [Except.error.injEq, Except.error.injEq]
    | ok tokens =>
        constructor
        · intro failed
          cases failed
        · intro failed
          cases failed

/-- One name alone, and a string behind it that is left open. -/
theorem check_agrees_open_string :
    let request : ListingRequest := ⟨0, some "JSON".toList, true⟩
    (∃ output,
      Checked.check 0 ['a'] = .ok (check 0 ['a']) ∧
        (check 0 ['a']).result = .ok (verdict 1) ∧
        (listTokens .standard request ['a']).result = .ok output ∧
        shown? .json output = some 2) ∧
    ∃ diagnostic,
      (check 0 ['a', ' ', '\'']).result = .error (.malformed diagnostic) ∧
        (listTokens .standard request ['a', ' ', '\'']).result =
          .error (.malformed diagnostic) := by
  intro request
  have resolved :
      resolveFormat (request.format.getD Settings.standard.format) =
        .ok .json := by
    decide
  constructor
  · let first : Scanner := .seek ['a'] 0 none ['a']
    have counted : first.counted = 1 := by
      rw [@Scanner.counted_of_sound first (by decide) rfl,
        @Scanner.counted_of_eof first.next rfl]
    have passed : (check 0 ['a']).result = .ok (verdict 1) := by
      change (reportCount (countSteps first 0)).result = _
      rw [countSteps_zero, counted,
        @Scanner.pulled_of_sound first (by decide) rfl,
        @Scanner.pulled_of_eof first.next rfl]
      rfl
    have countable : Countable ['a'] request.start := by
      rw [@countable_iff ['a'] 0 first rfl, counted]
      decide
    rcases check_agrees resolved countable with ⟨same, counts, -⟩
    rcases (counts 1).1 passed with ⟨output, listed, shown⟩
    exact ⟨output, same, passed, listed, shown⟩
  · let first : Scanner := .seek ['a', ' ', '\''] 0 none ['a', ' ', '\'']
    have countable : Countable ['a', ' ', '\''] request.start := by
      rw [@countable_iff ['a', ' ', '\''] 0 first rfl,
        @Scanner.counted_of_malformed first _ (by decide) rfl]
      decide
    rcases check_agrees resolved countable with ⟨-, -, both, fails⟩
    have failed :=
      (fails _).2
        (@Fails.later ['a', ' ', '\''] 0 [] ['a', ' ', '\''] 0 _ rfl rfl
          (by decide)
          (Scanner.failsBehind_succ_iff.2
            ⟨rfl, Scanner.failsBehind_zero_iff.2 rfl⟩))
    rcases both with ⟨count, passed⟩ | ⟨failure, failed', listed⟩
    · cases failed.symm.trans passed
    · rw [← Except.error.inj (failed.symm.trans failed')] at listed
      exact ⟨_, failed, listed⟩

/-! ## Lexemes that cannot be counted -/

/-- Of parentheses that open, the first one is read by itself. -/
theorem read_parentheses (previous : Option Kind) (number : Nat) :
    Lexeme.read previous (List.replicate (number + 1) '(') =
      (.bare .leftParen ['('], List.replicate number '(') := by
  have settled : settle .leftParen ['('] [] previous = .leftParen := by
    rw [settle]
    split <;> rfl
  cases number
  all_goals exact congrArg (fun kind => (Lexeme.bare kind ['('], _)) settled

/-- Of parentheses that open, each one is a lexeme. -/
theorem pulled_parentheses (source : Text) (position : Nat)
    (previous : Option Kind) (number : Nat) :
    let scanner :=
      Scanner.seek source position previous (List.replicate number '(')
    scanner.diagnostic? = none ∧ scanner.pulled.failure = none ∧
      scanner.pulled.tokens.length = number + 1 := by
  induction number generalizing position previous with
  | zero =>
      intro scanner
      rw [@Scanner.pulled_of_eof scanner rfl]
      exact ⟨rfl, rfl, rfl⟩
  | succ number induction =>
      intro scanner
      have current : scanner.current = .bare .leftParen ['('] :=
        congrArg Prod.fst (read_parentheses previous number)
      have unread : scanner.unread = List.replicate number '(' :=
        congrArg Prod.snd (read_parentheses previous number)
      have inside : scanner.kind ≠ .eof := by
        rw [Scanner.kind, current]
        decide
      have next_eq :
          scanner.next =
            Scanner.seek source scanner.stop (some scanner.kind)
              (List.replicate number '(') := by
        rw [Scanner.next_of_ne_eof inside, unread]
        rfl
      rcases induction scanner.stop (some scanner.kind) with
        ⟨sound, complete, several⟩
      rw [← next_eq] at sound complete several
      rw [Scanner.pulled_of_sound inside sound]
      refine ⟨?_, complete, congrArg Nat.succ several⟩
      rw [Scanner.diagnostic?_eq_none_iff, current]
      rfl

theorem exists_scanned_parentheses {number : Nat} (positive : 0 < number) :
    ∃ tokens,
      scanned (List.replicate number '(') 0 = .ok tokens ∧
        tokens.length = number + 1 := by
  cases number with
  | zero => exact absurd positive (Nat.lt_irrefl 0)
  | succ number =>
      rcases pulled_parentheses (List.replicate (number + 1) '(') 0 none
          (number + 1) with
        ⟨sound, complete, several⟩
      refine ⟨_, ?_, several⟩
      have whole := List.nil_append (List.replicate (number + 1) '(')
      have found :=
        scanned_of_split whole.symm Text.size_nil (List.cons_ne_nil '(' _)
      rw [sound, Scanner.Pulled.collected, complete] at found
      exact found

/--
A listing shows all parentheses of an expression, but where there are just too
many a counter that wraps around says that their number is below zero, and one
that is checked has none.
-/
theorem check_disagrees_parentheses :
    let expression : Text := List.replicate (2 ^ 31) '('
    let request : ListingRequest := ⟨0, none, false⟩
    ∃ output,
      (listTokens .standard request expression).result = .ok output ∧
        shown? .text output = some (2 ^ 31 + 1) ∧
        (check 0 expression).result = .ok (verdict (-(2 ^ 31))) ∧
        (check 0 expression).result ≠ .ok (verdict (2 ^ 31 : Nat)) ∧
        Checked.check 0 expression = .error .overflow := by
  intro expression request
  have resolved :
      resolveFormat (request.format.getD Settings.standard.format) =
        .ok .text := by
    decide
  rcases exists_scanned_parentheses (Nat.two_pow_pos 31) with
    ⟨tokens, found, several⟩
  have listed := result_listTokens resolved expression
  have shown := shown?_render .text request.spans found
  have passed := result_check 0 expression
  have wrapped : (Int32.ofNat (2 ^ 31)).toInt = -(2 ^ 31) := by decide
  have apart : (-(2 ^ 31) : Int) ≠ (2 ^ 31 : Nat) := by decide
  rw [found] at listed passed
  rw [Except.map, several, Nat.add_sub_cancel, wrapped] at passed
  rw [several] at shown
  refine ⟨_, listed, shown, passed, ?_, ?_⟩
  · intro other
    rw [passed, Except.ok.injEq] at other
    exact apart (verdict_injective other)
  · apply Checked.check_of_not_countable
    intro countable
    have few := Countable.length_le countable found
    omega

end Command

end XPathScan
