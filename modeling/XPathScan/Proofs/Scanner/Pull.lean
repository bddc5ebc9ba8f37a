import XPathScan.Proofs.Scanner.Items
import XPathScan.Proofs.Scanner.Run
import XPathScan.Session

/-!
# Pulling and iterating

The tokens of a scanner are pulled by looking at the current one and stepping
on in turn, up to the end or up to the first step that fails (`pulled`).  A
stream runs one lexeme ahead of what it yields and holds a diagnostic back, and
yet it yields just what is pulled and nothing behind it; `tokenize` collects the
same.  Steps that are made between two items change what a stream yields, but a
stream that has yielded its last item stays ended.
-/

namespace XPathScan

namespace Scanner

/-! ## Pulling -/

/-- What is found by looking at the current token and stepping on in turn. -/
structure Pulled where
  /-- The tokens that were looked at. -/
  tokens : List Token
  /-- What the step behind the last one of them failed with, if it failed. -/
  failure : Option Diagnostic

/-- The items of a stream that yields what is pulled. -/
def Pulled.items (found : Pulled) : List Stream.Item :=
  found.tokens.map .ok ++ found.failure.toList.map .error

/--
Look at the current token and step on in turn, up to the end or up to the first
step that fails.
-/
def pulled (scanner : Scanner) : Pulled :=
  if scanner.kind = .eof then
    ⟨[scanner.token], none⟩
  else
    match scanner.advance.1 with
    | .error diagnostic => ⟨[scanner.token], some diagnostic⟩
    | .ok _ =>
        let later := pulled scanner.advance.2
        ⟨scanner.token :: later.tokens, later.failure⟩
termination_by scanner.remaining
decreasing_by exact remaining_next_lt ‹_›

/-- The tokens that were pulled, unless a step failed. -/
def Pulled.collected (found : Pulled) : Except Diagnostic (List Token) :=
  match found.failure with
  | none => .ok found.tokens
  | some diagnostic => .error diagnostic

theorem Pulled.mapM_items (found : Pulled) :
    found.items.mapM id = found.collected := by
  rcases found with ⟨tokens, failure⟩
  cases failure with
  | none =>
      apply Stream.mapM_id_eq_ok_iff.2
      exact List.append_nil _
  | some diagnostic =>
      rw [items, collected]
      induction tokens with
      | nil => rfl
      | cons token tokens induction =>
          dsimp only at induction ⊢
          rw [List.map_cons, List.cons_append, List.mapM_cons, induction]
          rfl

section

variable {scanner : Scanner}

theorem pulled_of_eof (ended : scanner.kind = .eof) :
    scanner.pulled = ⟨[scanner.token], none⟩ := by
  rw [pulled, if_pos ended]

theorem pulled_of_malformed {diagnostic : Diagnostic}
    (inside : scanner.kind ≠ .eof)
    (malformed : scanner.next.diagnostic? = some diagnostic) :
    scanner.pulled = ⟨[scanner.token], some diagnostic⟩ := by
  have fails : scanner.advance.1 = .error diagnostic :=
    outcome_of_malformed malformed
  rw [pulled, if_neg inside, fails]

theorem pulled_of_sound
    (inside : scanner.kind ≠ .eof)
    (sound : scanner.next.diagnostic? = none) :
    scanner.pulled =
      ⟨scanner.token :: scanner.next.pulled.tokens,
        scanner.next.pulled.failure⟩ := by
  have succeeds : scanner.advance.1 = .ok scanner.next.kind :=
    outcome_of_sound sound
  rw [pulled, if_neg inside, succeeds]
  rfl

end

/-- The first token is that of the scanner itself. -/
theorem head?_pulled (scanner : Scanner) :
    scanner.pulled.tokens[0]? = some scanner.token := by
  by_cases ended : scanner.kind = .eof
  · rw [pulled_of_eof ended]
    rfl
  · cases found : scanner.next.diagnostic? with
    | none =>
        rw [pulled_of_sound ended found]
        rfl
    | some diagnostic =>
        rw [pulled_of_malformed ended found]
        rfl

/-- A ready stream yields what is pulled from its scanner. -/
theorem items_ready (scanner : Scanner) :
    Stream.items ⟨scanner, .ready⟩ = scanner.pulled.items := by
  induction scanner using states.induct with
  | case1 scanner ended =>
      rw [Stream.items_of_eof ended, pulled_of_eof ended]
      rfl
  | case2 scanner inside induction =>
      cases found : scanner.next.diagnostic? with
      | none =>
          rw [Stream.items_of_sound inside found, induction,
            pulled_of_sound inside found]
          rfl
      | some diagnostic =>
          rw [Stream.items_of_malformed inside found,
            pulled_of_malformed inside found]
          rfl

/-- The tokens of a ready stream are those pulled, unless a step fails. -/
theorem tokens_ready (scanner : Scanner) :
    Stream.tokens ⟨scanner, .ready⟩ = scanner.pulled.collected := by
  change (Stream.items ⟨scanner, .ready⟩).mapM id = _
  rw [items_ready]
  exact scanner.pulled.mapM_items

/-! ## Runs on which no step fails -/

/--
A sound scanner of a run, with the token that is pulled from it and the one that
is pulled behind it.
-/
structure PulledFrom
    (source : Text) (offset : Nat) (scanner : Scanner)
    (token : Token) (following : Option Token) : Prop where
  placed : ∃ front gap, Placed source offset scanner front gap
  sound : scanner.diagnostic? = none
  token_eq : token = scanner.token
  /-- Nothing is pulled behind the end. -/
  ended : scanner.kind = .eof → following = none
  stepped :
    scanner.kind ≠ .eof →
      scanner.next.diagnostic? = none ∧
        following = some scanner.next.token

section

variable {source front gap : Text} {offset : Nat} {scanner : Scanner}

/-- If no step fails, the end is pulled, once and last. -/
theorem exists_end_of_pulled (complete : scanner.pulled.failure = none) :
    ∃ before last,
      scanner.pulled.tokens = before ++ [last] ∧ last.kind = .eof ∧
        ∀ token ∈ before, token.kind ≠ .eof := by
  induction scanner using states.induct with
  | case1 scanner ended =>
      refine ⟨[], scanner.token, ?_, ended, ?_⟩
      · rw [pulled_of_eof ended]
        rfl
      · intro token member
        cases member
  | case2 scanner inside induction =>
      cases found : scanner.next.diagnostic? with
      | some diagnostic =>
          rw [pulled_of_malformed inside found] at complete
          cases complete
      | none =>
          rw [pulled_of_sound inside found] at complete ⊢
          rcases induction complete with ⟨before, last, tokens, kind, others⟩
          refine ⟨scanner.token :: before, last, ?_, kind, ?_⟩
          · exact congrArg (scanner.token :: ·) tokens
          · rw [List.forall_mem_cons]
            exact ⟨inside, others⟩

/-- If no step fails, each token is pulled from a sound scanner. -/
theorem exists_pulledFrom {index : Nat} {token : Token}
    (placed : Placed source offset scanner front gap)
    (sound : scanner.diagnostic? = none)
    (complete : scanner.pulled.failure = none)
    (found : scanner.pulled.tokens[index]? = some token) :
    ∃ standing,
      PulledFrom source offset standing token
        scanner.pulled.tokens[index + 1]? := by
  induction scanner using states.induct generalizing index front gap with
  | case1 scanner ended =>
      rw [pulled_of_eof ended] at found ⊢
      cases index with
      | zero =>
          refine ⟨scanner, ⟨front, gap, placed⟩, sound, ?_, ?_, ?_⟩
          · exact (Option.some.inj found).symm
          · intro _
            rfl
          · intro inside
            exact absurd ended inside
      | succ index => cases found
  | case2 scanner inside induction =>
      cases ahead : scanner.next.diagnostic? with
      | some diagnostic =>
          rw [pulled_of_malformed inside ahead] at complete
          cases complete
      | none =>
          rw [pulled_of_sound inside ahead] at complete found ⊢
          cases index with
          | zero =>
              refine ⟨scanner, ⟨front, gap, placed⟩, sound, ?_, ?_, ?_⟩
              · exact (Option.some.inj found).symm
              · intro ended
                exact absurd ended inside
              · intro _
                exact ⟨ahead, head?_pulled scanner.next⟩
          | succ index =>
              exact
                induction (placed.next inside) ahead complete found

/-- If no step fails, every token is that of a sound scanner. -/
theorem exists_placed_of_mem_pulled {token : Token}
    (placed : Placed source offset scanner front gap)
    (sound : scanner.diagnostic? = none)
    (complete : scanner.pulled.failure = none)
    (member : token ∈ scanner.pulled.tokens) :
    ∃ standing front gap,
      Placed source offset standing front gap ∧
        standing.diagnostic? = none ∧ token = standing.token := by
  rcases List.mem_iff_getElem?.1 member with ⟨index, found⟩
  rcases exists_pulledFrom placed sound complete found with
    ⟨standing, pulled⟩
  rcases pulled.placed with ⟨front, gap, here⟩
  exact ⟨standing, front, gap, here, pulled.sound, pulled.token_eq⟩

end

/-- A run whose tokens are collected starts soundly, and no step of it fails. -/
theorem exists_placed_of_collected {source : Text} {offset : Nat}
    {first : Scanner} {tokens : List Token}
    (started : start? source offset = .ok first)
    (collected : first.pulled.collected = .ok tokens) :
    ∃ front gap,
      Placed source offset first front gap ∧ first.diagnostic? = none ∧
        first.pulled.failure = none ∧ first.pulled.tokens = tokens := by
  rcases placed_of_start? started with ⟨front, gap, placed, -⟩
  rcases eq_seek_of_start? started with ⟨_, _, -, -, -, -, sound⟩
  rw [Pulled.collected] at collected
  split at collected
  next complete =>
    exact
      ⟨front, gap, placed, sound, complete, Except.ok.inj collected⟩
  next => cases collected

/-- Where all lexemes are sound, the tokens of a stream are those pulled. -/
theorem exists_pulled_of_tokens {source : Text} {offset : Nat}
    {stream : Stream} {tokens : List Token}
    (started : Stream.start? source offset = .ok stream)
    (scanned : stream.tokens = .ok tokens) :
    ∃ first front gap,
      Placed source offset first front gap ∧ first.diagnostic? = none ∧
        first.pulled.failure = none ∧ first.pulled.tokens = tokens := by
  rcases Stream.exists_scanner_of_start? started with
    ⟨first, started_first, rfl⟩
  rw [tokens_ready] at scanned
  exact ⟨first, exists_placed_of_collected started_first scanned⟩

end Scanner

/-! ## Iterating -/

namespace Stream

/-- The stream behind a number of items that were asked for. -/
def after (stream : Stream) : Nat → Stream
  | 0 => stream
  | count + 1 => (after stream count).next.2

/-- What a stream answers where so many items have been asked for before. -/
def nth? (stream : Stream) (count : Nat) : Option Item :=
  (stream.after count).next.1

theorem after_next (stream : Stream) (count : Nat) :
    stream.next.2.after count = stream.after (count + 1) := by
  induction count with
  | zero => rfl
  | succ count induction =>
      rw [after, induction]
      rfl

theorem next_of_ended {stream : Stream} (ended : stream.stage = .ended) :
    stream.next = (none, stream) := by
  rw [next, ended]

/-- A ready stream yields the token of its scanner, whatever lies ahead. -/
theorem fst_next_ready (scanner : Scanner) :
    (next ⟨scanner, .ready⟩).1 = some (.ok scanner.token) := by
  by_cases ended : scanner.kind = .eof
  · rw [next_ready_of_eof ended]
  · cases found : scanner.next.diagnostic? with
    | none => rw [next_ready_of_sound ended found]
    | some diagnostic => rw [next_ready_of_malformed ended found]

theorem ended_of_next_eq_none {stream : Stream}
    (silent : stream.next.1 = none) :
    stream.stage = .ended := by
  rcases stream with ⟨scanner, stage⟩
  cases stage with
  | ended => rfl
  | failing diagnostic => cases silent
  | ready =>
      rw [fst_next_ready] at silent
      cases silent

/-- A stream yields its items one by one and then nothing. -/
theorem nth?_eq_getElem? (stream : Stream) (count : Nat) :
    stream.nth? count = stream.items[count]? := by
  induction count generalizing stream with
  | zero =>
      cases found : stream.next with
      | mk item later =>
          cases item with
          | none =>
              rw [items_of_none found]
              exact congrArg Prod.fst found
          | some item =>
              rw [items_of_some found]
              exact congrArg Prod.fst found
  | succ count induction =>
      have shifted : stream.nth? (count + 1) = stream.next.2.nth? count := by
        rw [nth?, nth?, after_next]
      rw [shifted, induction]
      cases found : stream.next with
      | mk item later =>
          cases item with
          | none =>
              have silent : stream.next.1 = none := congrArg Prod.fst found
              have still := next_of_ended (ended_of_next_eq_none silent)
              rw [still] at found
              cases found
              rw [items_of_none still]
              rfl
          | some item =>
              rw [items_of_some found]
              rfl

/-! ## Steps between items -/

/-- The answers that nothing may be yielded behind. -/
inductive Closing : Option Item → Prop
  | silent : Closing none
  | failed (diagnostic : Diagnostic) : Closing (some (.error diagnostic))
  | ended {token : Token}
      (kind : token.kind = .eof) :
      Closing (some (.ok token))

/-- Behind an answer that closes a stream nothing is yielded. -/
def Shuts (earlier later : Answer) : Prop :=
  ∀ item item',
    earlier = .yielded item → later = .yielded item' →
      Closing item → item' = none

/-- Whether a diagnostic is yielded. -/
def yieldsDiagnostic : Answer → Bool
  | .yielded (some (.error _)) => true
  | _ => false

/-- The answers to operations that are carried out one after another. -/
def replies (source : Text) (operations : List Operation)
    (stream : Stream) : List Answer :=
  Session.answers source (operations.map .operate) (some stream)

theorem yieldsDiagnostic_iff {answer : Answer} :
    yieldsDiagnostic answer = true ↔
      ∃ diagnostic, answer = .yielded (some (.error diagnostic)) := by
  constructor
  · intro yields
    unfold yieldsDiagnostic at yields
    split at yields
    next diagnostic => exact ⟨diagnostic, rfl⟩
    next => cases yields
  · rintro ⟨diagnostic, rfl⟩
    rfl

theorem replies_cons (source : Text) (operation : Operation)
    (operations : List Operation) (stream : Stream) :
    stream.replies source (operation :: operations) =
      (stream.operate operation).1 ::
        (stream.operate operation).2.replies source operations := rfl

theorem ended_of_closing {stream : Stream}
    (closing : Closing stream.next.1) :
    stream.next.2.stage = .ended := by
  rcases stream with ⟨scanner, stage⟩
  cases stage with
  | ended => rfl
  | failing diagnostic => rfl
  | ready =>
      rw [fst_next_ready] at closing
      cases closing with
      | ended kind =>
          rw [next_ready_of_eof kind]

/-- A stream stays ended, whatever it is asked. -/
theorem ended_operate (operation : Operation) {stream : Stream}
    (ended : stream.stage = .ended) :
    (stream.operate operation).2.stage = .ended := by
  cases operation with
  | next =>
      change stream.next.2.stage = .ended
      rw [next_of_ended ended]
      exact ended
  | _ => exact ended

/-- An ended stream yields nothing, whatever it is asked in between. -/
theorem silent_of_ended (source : Text) (operations : List Operation)
    {stream : Stream} (ended : stream.stage = .ended) :
    ∀ answer ∈ stream.replies source operations,
      ∀ item, answer = .yielded item → item = none := by
  induction operations generalizing stream with
  | nil =>
      intro answer member
      cases member
  | cons operation operations induction =>
      rw [replies_cons, List.forall_mem_cons]
      constructor
      · intro item yields
        cases operation with
        | next =>
            change Answer.yielded stream.next.1 = .yielded item at yields
            rw [next_of_ended ended] at yields
            cases yields
            rfl
        | _ => cases yields
      · exact induction (ended_operate operation ended)

/-- Whatever steps are made in between, a closed stream stays closed. -/
theorem pairwise_shuts (source : Text) (operations : List Operation)
    (stream : Stream) :
    (stream.replies source operations).Pairwise Shuts := by
  induction operations generalizing stream with
  | nil => exact List.Pairwise.nil
  | cons operation operations induction =>
      rw [replies_cons]
      refine List.Pairwise.cons ?_ (induction _)
      intro answer member item item' yields yields' closing
      cases operation with
      | next =>
          cases yields
          have ended : stream.next.2.stage = .ended :=
            ended_of_closing closing
          exact
            silent_of_ended source operations ended answer member item'
              yields'
      | _ => cases yields

/-- At most one diagnostic is yielded where nothing is yielded behind one. -/
theorem countP_yieldsDiagnostic_le {answers : List Answer}
    (shuts : answers.Pairwise Shuts) :
    answers.countP yieldsDiagnostic ≤ 1 := by
  induction shuts with
  | nil => exact Nat.zero_le 1
  | @cons answer answers behind later induction =>
      by_cases yields : yieldsDiagnostic answer
      · rw [List.countP_cons_of_pos yields]
        have none_behind : answers.countP yieldsDiagnostic = 0 := by
          rw [List.countP_eq_zero]
          intro answer' member yields'
          rcases yieldsDiagnostic_iff.1 yields with ⟨diagnostic, rfl⟩
          rcases yieldsDiagnostic_iff.1 yields' with ⟨diagnostic', rfl⟩
          have silent :=
            behind _ member _ _ rfl rfl (.failed diagnostic)
          cases silent
        rw [none_behind]
      · rw [List.countP_cons_of_neg yields]
        exact induction

end Stream

namespace Scanner

/-! ## Three ways to scan -/

/--
Pulling, iterating and tokenizing find the same.

Wherever a scanner starts, its stream starts as well and yields the tokens that
are pulled, then the diagnostic that ended the pulling, if there is one, and
then nothing for ever.  If steps and other operations are made between the
items, still nothing is yielded behind a diagnostic, the token of the end or
nothing, so at most one diagnostic is yielded.  And `tokenize` gives the tokens
that are pulled from the front of the text, or the diagnostic, be it that of the
first lexeme.
-/
theorem yields_as_pulled (source : Text) :
    (∀ offset first,
      start? source offset = .ok first →
        ∃ stream,
          Stream.start? source offset = .ok stream ∧
            (∀ count, stream.nth? count = first.pulled.items[count]?) ∧
            ∀ operations,
              (stream.replies source operations).Pairwise Stream.Shuts ∧
                (stream.replies source operations).countP
                    Stream.yieldsDiagnostic ≤ 1) ∧
    (∀ failure,
      start? source 0 = .error failure →
        tokenize source = .error failure) ∧
    ∀ first,
      start? source 0 = .ok first →
        (first.pulled.failure = none →
          tokenize source = .ok first.pulled.tokens) ∧
        ∀ diagnostic,
          first.pulled.failure = some diagnostic →
            tokenize source = .error (.malformed diagnostic) := by
  refine ⟨?_, ?_, ?_⟩
  · intro offset first started
    refine ⟨_, Stream.start?_of_scanner started, ?_, ?_⟩
    · intro count
      rw [Stream.nth?_eq_getElem?, items_ready]
    · intro operations
      have shuts := Stream.pairwise_shuts source operations ⟨first, .ready⟩
      exact ⟨shuts, Stream.countP_yieldsDiagnostic_le shuts⟩
  · intro failure refused
    rw [tokenize, Stream.start?, refused]
    rfl
  · intro first started
    have collected :
        tokenize source =
          first.pulled.collected.mapError ScanError.malformed := by
      rw [tokenize, Stream.start?_of_scanner started, ← tokens_ready]
      rfl
    constructor
    · intro complete
      rw [collected, Pulled.collected, complete]
      rfl
    · intro diagnostic failed
      rw [collected, Pulled.collected, failed]
      rfl

/-- Behind one name a number with an exponent, and behind it an open string. -/
theorem yields_as_pulled_exponent :
    ∃ first stream diagnostic,
      start? ['a', ' ', '1', 'e', '\''] 0 = .ok first ∧
        first.pulled = ⟨[first.token], some diagnostic⟩ ∧
        Stream.start? ['a', ' ', '1', 'e', '\''] 0 = .ok stream ∧
        stream.nth? 0 = some (.ok first.token) ∧
        stream.nth? 1 = some (.error diagnostic) ∧
        stream.nth? 2 = none ∧
        (stream.replies ['a', ' ', '1', 'e', '\'']
            [.next, .advance, .next, .next]).Pairwise Stream.Shuts ∧
        tokenize ['a', ' ', '1', 'e', '\''] =
          .error (.malformed diagnostic) := by
  let first : Scanner :=
    seek ['a', ' ', '1', 'e', '\''] 0 none ['a', ' ', '1', 'e', '\'']
  have started : start? ['a', ' ', '1', 'e', '\''] 0 = .ok first := rfl
  have pulled := @pulled_of_malformed first _ (by decide) rfl
  rcases yields_as_pulled ['a', ' ', '1', 'e', '\''] with
    ⟨iterates, -, tokenizes⟩
  rcases iterates 0 first started with
    ⟨stream, started_stream, items, shuts⟩
  have fails := (tokenizes first started).2
  rw [pulled] at items fails
  exact
    ⟨first, stream, _, started, pulled, started_stream, items 0, items 1,
      items 2, (shuts _).1, fails _ rfl⟩

end Scanner

end XPathScan
