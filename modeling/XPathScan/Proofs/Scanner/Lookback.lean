import XPathScan.Proofs.Lexeme.Lookback
import XPathScan.Proofs.Scanner.Items
import XPathScan.Proofs.Scanner.Run

/-!
# Operators along runs

Every scanner of a run settles its lexeme by the kind that was settled for the
lexeme before it.  `Settled` says what this makes of stars, of the four words
and of all other lexemes; it holds at every step of every run, since each step
hands on the kind on which the scanner stands.  `Follow` is what is left of it
when only the tokens of a stream are seen.
-/

namespace XPathScan

namespace Scanner

open Lexeme (Munch IsName wordOperators)

/-- The kind of the lexeme before the one reached after `count` steps. -/
def kindBefore (first : Scanner) : Nat → Option Kind
  | 0 => none
  | count + 1 => some (first.advanced count).kind

/-- How a scanner settles its lexeme behind a lexeme of the previous kind. -/
structure Settled (previous : Option Kind) (scanner : Scanner) : Prop where
  star :
    scanner.lexeme? = some ['*'] →
      (OperandExpecting previous → scanner.kind = .star) ∧
        (¬ OperandExpecting previous → scanner.kind = .multiply)
  word :
    ∀ operator ∈ wordOperators,
      scanner.lexeme? = some operator.symbol →
        (OperandExpecting previous → scanner.kind = .name) ∧
          (¬ OperandExpecting previous → scanner.kind = operator.kind)
  /-- Nothing else is a star or one of the five operators. -/
  reading :
    scanner.kind ∈ .star :: operatorReadings →
      scanner.lexeme? = some ['*'] ∨
        ∃ operator ∈ wordOperators,
          scanner.lexeme? = some operator.symbol
  qualified :
    ∀ qualifier localPart,
      IsName qualifier →
        IsName localPart ∨ localPart = ['*'] →
          scanner.lexeme? = some (qualifier ++ ':' :: localPart) →
            scanner.kind = .name
  malformed :
    ∀ diagnostic,
      scanner.outcome = .error diagnostic → scanner.kind = .unknown

theorem settles_of_eq {previous : Option Kind}
    {kind operand operator : Kind}
    (settled :
      kind = if expectsOperand previous then operand else operator) :
    (OperandExpecting previous → kind = operand) ∧
      (¬ OperandExpecting previous → kind = operator) := by
  rw [settled, ← expectsOperand_iff]
  constructor
  · intro expected
    exact if_pos expected
  · intro unexpected
    exact if_neg unexpected

namespace Placed

variable {source front gap : Text} {offset : Nat} {scanner : Scanner}

/-- The current lexeme is what is taken off where it stands. -/
theorem munch (placed : Placed source offset scanner front gap) :
    Munch scanner.previousKind
      (scanner.current.text ++ scanner.unread)
      scanner.current.text scanner.current.result := by
  have read :=
    Lexeme.munch_read scanner.previousKind placed.ahead_not_blank
  rw [placed.read_eq] at read
  exact read

theorem kind_eq_remembered
    (placed : Placed source offset scanner front gap) :
    scanner.kind = Lexeme.remembered scanner.current.result := by
  have read :=
    Lexeme.kind_eq_remembered scanner.previousKind
      (scanner.current.text ++ scanner.unread)
  rw [placed.read_eq] at read
  exact read

theorem kind_of_malformed
    (placed : Placed source offset scanner front gap)
    {diagnostic : Diagnostic}
    (malformed : scanner.outcome = .error diagnostic) :
    scanner.kind = .unknown := by
  rw [placed.outcome_eq] at malformed
  rw [placed.kind_eq_remembered, Lexeme.result]
  cases fault : scanner.current.fault with
  | none =>
      rw [fault] at malformed
      cases malformed
  | some fault => rfl

theorem settled (placed : Placed source offset scanner front gap) :
    Settled scanner.previousKind scanner := by
  have munch := placed.munch
  have kind := placed.kind_eq_remembered
  have lexeme : ∀ {text : Text},
      scanner.lexeme? = some text → scanner.current.text = text := by
    intro text found
    rw [placed.lexeme?_eq] at found
    exact Option.some.inj found
  refine
    { star := ?_
      word := ?_
      reading := ?_
      qualified := ?_
      malformed := fun _ => placed.kind_of_malformed }
  · intro star
    rw [lexeme star] at munch
    exact settles_of_eq (kind.trans munch.star)
  · intro operator listed word
    rw [lexeme word] at munch
    exact settles_of_eq (kind.trans (munch.word listed))
  · intro reading
    rw [kind] at reading
    rw [placed.lexeme?_eq]
    rcases munch.of_reading reading with star | ⟨operator, listed, word⟩
    · exact Or.inl (congrArg some star)
    · exact Or.inr ⟨operator, listed, congrArg some word⟩
  · intro qualifier localPart named named_local found
    rw [lexeme found] at munch
    rw [kind]
    exact munch.qualified named named_local

/-- At the end there is nothing to settle. -/
theorem settled_of_eof
    (placed : Placed source offset scanner front gap)
    (ended : scanner.kind = .eof) (previous : Option Kind) :
    Settled previous scanner := by
  have settled := placed.settled
  have empty : scanner.lexeme? = some [] := by
    rw [placed.lexeme?_eq, placed.current_of_eof ended]
    rfl
  refine
    { star := ?_
      word := ?_
      reading := settled.reading
      qualified := settled.qualified
      malformed := settled.malformed }
  · intro star
    rw [empty] at star
    cases star
  · intro operator listed word
    rw [empty] at word
    have filled := Lexeme.isName_symbol listed
    rw [← Option.some.inj word] at filled
    cases filled

end Placed

/-- Each scanner of a run settles its lexeme by the one before it. -/
theorem settled_advanced {source : Text} {offset : Nat}
    {first : Scanner}
    (started : start? source offset = .ok first) (count : Nat) :
    Settled (kindBefore first count) (first.advanced count) := by
  cases count with
  | zero =>
      rcases placed_of_start? started with ⟨front, gap, placed, -⟩
      rcases eq_seek_of_start? started with
        ⟨_, behind, -, -, -, same, -⟩
      have settled := placed.settled
      rw [same] at settled ⊢
      exact settled
  | succ count =>
      have reached := (Reached.start started).advanced count
      rcases reached.exists_placed with ⟨front, gap, placed⟩
      rw [advanced_succ, kindBefore]
      by_cases ended : (first.advanced count).kind = .eof
      · rw [next_of_eof ended]
        exact placed.settled_of_eof ended _
      · have settled := (placed.next ended).settled
        rw [next_of_ne_eof ended] at settled ⊢
        exact settled

/-! ## Streams -/

/-- What may be yielded behind a token of the previous kind. -/
structure MayFollow (previous : Option Kind) (token : Token) : Prop where
  operator :
    OperandExpecting previous → token.kind ∉ operatorReadings
  operand :
    ¬ OperandExpecting previous →
      token.kind ≠ .star ∧
        ∀ operator ∈ wordOperators,
          token.kind = .name → token.text ≠ operator.symbol

/-- Every token may follow the one before it. -/
def Follow (previous : Option Kind) : List Token → Prop
  | [] => True
  | token :: tokens =>
      MayFollow previous token ∧ Follow (some token.kind) tokens

theorem Settled.mayFollow
    {source front gap : Text} {offset : Nat} {scanner : Scanner}
    {previous : Option Kind}
    (settled : Settled previous scanner)
    (placed : Placed source offset scanner front gap) :
    MayFollow previous scanner.token := by
  constructor
  · intro expecting reading
    change scanner.kind ∈ operatorReadings at reading
    rcases settled.reading (List.mem_cons_of_mem _ reading) with
      star | ⟨operator, listed, word⟩
    · rw [(settled.star star).1 expecting] at reading
      exact absurd reading (by decide)
    · rw [(settled.word operator listed word).1 expecting] at reading
      exact absurd reading (by decide)
  · intro unexpected
    constructor
    · intro kind
      change scanner.kind = .star at kind
      have reading : scanner.kind ∈ .star :: operatorReadings := by
        rw [kind]
        exact List.mem_cons_self
      rcases settled.reading reading with star | ⟨operator, listed, word⟩
      · rw [(settled.star star).2 unexpected] at kind
        cases kind
      · rw [(settled.word operator listed word).2 unexpected] at kind
        cases operator <;> cases kind
    · intro operator listed kind text
      change scanner.kind = .name at kind
      change scanner.spelling = operator.symbol at text
      have inside : scanner.kind ≠ .eof := by
        rw [kind]
        decide
      rw [spelling, if_neg inside] at text
      have word : scanner.lexeme? = some operator.symbol := by
        rw [placed.lexeme?_eq, text]
      rw [(settled.word operator listed word).2 unexpected] at kind
      cases operator <;> cases kind

theorem follow_yielded
    {source front gap : Text} {offset : Nat} {scanner : Scanner}
    {previous : Option Kind}
    (placed : Placed source offset scanner front gap)
    (settled : Settled previous scanner) :
    Follow previous (Stream.yielded ⟨scanner, .ready⟩) := by
  induction scanner using states.induct generalizing previous front gap with
  | case1 scanner ended =>
      rw [Stream.yielded_of_eof ended]
      exact ⟨settled.mayFollow placed, trivial⟩
  | case2 scanner inside induction =>
      have later := placed.next inside
      cases found : scanner.next.diagnostic? with
      | some diagnostic =>
          rw [Stream.yielded_of_malformed inside found]
          exact ⟨settled.mayFollow placed, trivial⟩
      | none =>
          rw [Stream.yielded_of_sound inside found]
          refine ⟨settled.mayFollow placed, induction later ?_⟩
          have settled := later.settled
          rw [next_of_ne_eof inside] at settled ⊢
          exact settled

/--
Along every run each lexeme is settled by the kind settled for the lexeme
before it; so in every stream that begins anywhere on a run, each token may
follow the one before it.
-/
theorem settled_of_start?
    {source : Text} {offset : Nat} {first : Scanner}
    (started : start? source offset = .ok first) (count : Nat) :
    Settled (kindBefore first count) (first.advanced count) ∧
      Follow (kindBefore first count)
        (Stream.yielded ⟨first.advanced count, .ready⟩) ∧
      ∀ tokens,
        Stream.tokens ⟨first.advanced count, .ready⟩ = .ok tokens →
          Follow (kindBefore first count) tokens := by
  have settled := settled_advanced started count
  rcases ((Reached.start started).advanced count).exists_placed with
    ⟨front, gap, placed⟩
  have follow := follow_yielded placed settled
  refine ⟨settled, follow, ?_⟩
  intro tokens sound
  rw [Stream.yielded_of_tokens sound] at follow
  exact follow

/-- Behind a star that is a name test, the first word is an operator. -/
theorem settled_behind_star :
    ∃ first,
      start? ['é', '*', ' ', 'o', 'r', ' ', 'o', 'r'] 2 = .ok first ∧
        kindBefore first 1 = some .star ∧
        (first.advanced 1).kind = .or ∧
        (first.advanced 2).kind = .name ∧
        Settled (some .star) (first.advanced 1) ∧
        Follow (some .star)
          (Stream.yielded ⟨first.advanced 1, .ready⟩) := by
  have started :
      start? ['é', '*', ' ', 'o', 'r', ' ', 'o', 'r'] 2 = .ok _ := rfl
  have laws := settled_of_start? started 1
  exact ⟨_, started, rfl, rfl, rfl, laws.1, laws.2.1⟩

end Scanner

end XPathScan
