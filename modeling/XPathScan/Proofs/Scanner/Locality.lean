import Mathlib.Data.List.Forall2
import XPathScan.Proofs.Lexeme.Lookback
import XPathScan.Proofs.Scanner.Items
import XPathScan.Proofs.Scanner.Run

/-!
# Runs depend on the unread text

What a scanner finds is determined by its unread text and by whether its
lexeme opens an operand.  `Alike` relates two scanners on two sources that
stand on the same lexeme in front of the same text, at a constant distance.
Seeking establishes it, every step keeps it, and scanners of runs that are
alike cannot be told apart but by the offsets in their spans.
-/

namespace XPathScan

/-- Two spans that lie alike behind two positions. -/
structure Span.Shifted
    (position position' : Nat) (span span' : Span) : Prop where
  start_eq : position + span'.start = position' + span.start
  stop_eq : position + span'.stop = position' + span.stop

namespace Scanner

/-- Two scanners that differ in their sources and offsets only. -/
structure Alike
    (position position' : Nat) (scanner scanner' : Scanner) : Prop where
  current_eq : scanner.current = scanner'.current
  unread_eq : scanner.unread = scanner'.unread
  start_eq : position + scanner'.start = position' + scanner.start

namespace Alike

variable {position position' : Nat} {scanner scanner' : Scanner}

theorem kind_eq (alike : Alike position position' scanner scanner') :
    scanner.kind = scanner'.kind := by
  rw [kind, kind, alike.current_eq]

theorem stop_eq (alike : Alike position position' scanner scanner') :
    position + scanner'.stop = position' + scanner.stop := by
  rw [stop, stop, size, size, alike.current_eq, ← Nat.add_assoc,
    ← Nat.add_assoc, alike.start_eq]

theorem span_shifted
    (alike : Alike position position' scanner scanner') :
    Span.Shifted position position' scanner.span scanner'.span :=
  ⟨alike.start_eq, alike.stop_eq⟩

end Alike

/-- Seeking in front of the same text finds the same. -/
theorem alike_seek
    {position position' offset offset' : Nat}
    {previous previous' : Option Kind}
    (source source' unread : Text)
    (same : expectsOperand previous = expectsOperand previous')
    (distance : position + offset' = position' + offset) :
    Alike position position' (seek source offset previous unread)
      (seek source' offset' previous' unread) where
  current_eq := congrArg Prod.fst (Lexeme.read_congr same _)
  unread_eq := congrArg Prod.snd (Lexeme.read_congr same _)
  start_eq := by
    change position + (offset' + _) = position' + (offset + _)
    rw [← Nat.add_assoc, ← Nat.add_assoc, distance]

/-- A step keeps scanners alike. -/
theorem Alike.next
    {position position' : Nat} {scanner scanner' : Scanner}
    (alike : Alike position position' scanner scanner') :
    Alike position position' scanner.next scanner'.next := by
  by_cases ended : scanner.kind = .eof
  · have ended' : scanner'.kind = .eof := by
      rw [← alike.kind_eq]
      exact ended
    rw [next_of_eof ended, next_of_eof ended']
    exact alike
  · have inside : scanner'.kind ≠ .eof := by
      rw [← alike.kind_eq]
      exact ended
    rw [next_of_ne_eof ended, next_of_ne_eof inside, ← alike.unread_eq,
      ← alike.kind_eq]
    exact alike_seek _ _ _ rfl alike.stop_eq

theorem Alike.advanced
    {position position' : Nat} {scanner scanner' : Scanner}
    (alike : Alike position position' scanner scanner') (count : Nat) :
    Alike position position' (scanner.advanced count)
      (scanner'.advanced count) := by
  induction count with
  | zero => exact alike
  | succ count induction => exact induction.next

/-! ## What can be told apart -/

/--
What is told about two sources, up to offsets: the same, or the same complaint
and so the same category and message, each about its whole source.
-/
inductive SameResult {Answer : Type} (same : Answer → Answer → Prop)
    (position position' : Nat) (source source' : Text) :
    Except Diagnostic Answer → Except Diagnostic Answer → Prop
  | ok {answer answer' : Answer} (agree : same answer answer') :
      SameResult same position position' source source'
        (.ok answer) (.ok answer')
  | error (complaint : Complaint) {span span' : Span}
      (shifted : Span.Shifted position position' span span') :
      SameResult same position position' source source'
        (.error ⟨complaint, source, span⟩)
        (.error ⟨complaint, source', span'⟩)

/-- Two tokens that differ in the offsets of their spans only. -/
structure SameToken
    (position position' : Nat) (token token' : Token) : Prop where
  kind_eq : token.kind = token'.kind
  text_eq : token.text = token'.text
  payload_eq : token.payload = token'.payload
  span_shifted :
    Span.Shifted position position' token.span token'.span

/-- All that two scanners show of their lexemes, up to offsets. -/
structure SameLexeme
    (position position' : Nat) (scanner scanner' : Scanner) : Prop where
  kind_eq : scanner.kind = scanner'.kind
  lexeme?_eq : scanner.lexeme? = scanner'.lexeme?
  qualifier_eq : scanner.qualifier = scanner'.qualifier
  name_eq : scanner.name = scanner'.name
  body_eq : scanner.body = scanner'.body
  axis_eq : scanner.axis = scanner'.axis
  callable_eq : scanner.callable = scanner'.callable
  span_shifted :
    Span.Shifted position position' scanner.span scanner'.span
  token : SameToken position position' scanner.token scanner'.token

/-- Two scanners from which every number of steps tells and finds the same. -/
def SameRun
    (position position' : Nat) (scanner scanner' : Scanner) : Prop :=
  ∀ count,
    SameResult Eq position position' scanner.source scanner'.source
        (scanner.advanced count).advance.1
        (scanner'.advanced count).advance.1 ∧
      SameLexeme position position'
        (scanner.advanced count).advance.2
        (scanner'.advanced count).advance.2

/-- Two scanners whose streams yield the same. -/
def SameItems
    (position position' : Nat) (scanner scanner' : Scanner) : Prop :=
  List.Forall₂
    (SameResult (SameToken position position') position position'
      scanner.source scanner'.source)
    (Stream.items ⟨scanner, .ready⟩) (Stream.items ⟨scanner', .ready⟩)

/--
Two starts that refuse the same, or from which all runs and streams are the
same.
-/
inductive SameStart
    (position position' : Nat) (source source' : Text) :
    Except ScanError Scanner → Except ScanError Scanner → Prop
  | ok {scanner scanner' : Scanner}
      (source_eq : scanner.source = source)
      (source_eq' : scanner'.source = source')
      (lexeme : SameLexeme position position' scanner scanner')
      (run : SameRun position position' scanner scanner')
      (items : SameItems position position' scanner scanner') :
      SameStart position position' source source'
        (.ok scanner) (.ok scanner')
  | malformed (complaint : Complaint) {span span' : Span}
      (shifted : Span.Shifted position position' span span') :
      SameStart position position' source source'
        (.error (.malformed ⟨complaint, source, span⟩))
        (.error (.malformed ⟨complaint, source', span'⟩))

section

variable {source source' front front' gap gap' unread : Text}
  {offset offset' position position' : Nat}
  {scanner scanner' : Scanner}

theorem Alike.sameOutcome
    (alike : Alike position position' scanner scanner')
    (placed : Placed source offset scanner front gap)
    (placed' : Placed source' offset' scanner' front' gap') :
    SameResult Eq position position' source source'
      scanner.outcome scanner'.outcome := by
  rw [placed.outcome_eq, placed'.outcome_eq, ← alike.current_eq,
    ← alike.kind_eq]
  cases scanner.current.fault with
  | none => exact .ok rfl
  | some fault => exact .error fault.complaint alike.span_shifted

theorem Alike.sameToken
    (alike : Alike position position' scanner scanner') :
    SameToken position position' scanner.token scanner'.token where
  kind_eq := alike.kind_eq
  text_eq := by
    rw [token, token, spelling, spelling, alike.kind_eq, alike.current_eq]
  payload_eq := congrArg Lexeme.payload alike.current_eq
  span_shifted := alike.span_shifted

theorem Alike.sameLexeme
    (alike : Alike position position' scanner scanner')
    (placed : Placed source offset scanner front gap)
    (placed' : Placed source' offset' scanner' front' gap') :
    SameLexeme position position' scanner scanner' where
  kind_eq := alike.kind_eq
  lexeme?_eq := by
    rw [placed.lexeme?_eq, placed'.lexeme?_eq, alike.current_eq]
  qualifier_eq := by rw [qualifier, qualifier, alike.current_eq]
  name_eq := by rw [name, name, alike.current_eq]
  body_eq := by rw [body, body, alike.current_eq]
  axis_eq := by rw [axis, axis, alike.current_eq]
  callable_eq := by rw [callable, callable, alike.current_eq]
  span_shifted := alike.span_shifted
  token := alike.sameToken

/-- Streams of alike scanners yield the same up to the end or a fault. -/
theorem Alike.sameItems
    (alike : Alike position position' scanner scanner')
    (placed : Placed source offset scanner front gap)
    (placed' : Placed source' offset' scanner' front' gap') :
    SameItems position position' scanner scanner' := by
  induction scanner using states.induct
      generalizing scanner' front gap front' gap' with
  | case1 scanner ended =>
      have ended' : scanner'.kind = .eof := by
        rw [← alike.kind_eq]
        exact ended
      rw [SameItems, Stream.items_of_eof ended, Stream.items_of_eof ended']
      exact .cons (.ok alike.sameToken) .nil
  | case2 scanner inside induction =>
      have inside' : scanner'.kind ≠ .eof := by
        rw [← alike.kind_eq]
        exact inside
      have later := placed.next inside
      have later' := placed'.next inside'
      have found := later.diagnostic?_eq
      have found' := later'.diagnostic?_eq
      rw [← alike.next.current_eq] at found'
      rw [SameItems, placed.source_eq, placed'.source_eq]
      cases malformed : scanner.next.current.fault with
      | none =>
          rw [malformed] at found found'
          have items := induction alike.next later later'
          rw [SameItems, later.source_eq, later'.source_eq] at items
          rw [Stream.items_of_sound inside found,
            Stream.items_of_sound inside' found']
          exact .cons (.ok alike.sameToken) items
      | some fault =>
          rw [malformed] at found found'
          rw [Stream.items_of_malformed inside found,
            Stream.items_of_malformed inside' found']
          refine .cons (.ok alike.sameToken) (.cons ?_ .nil)
          exact .error fault.complaint alike.next.span_shifted

/-- Scanners whose next lexemes are alike have the same runs. -/
theorem sameRun_of_alike_next
    (alike : Alike position position' scanner.next scanner'.next)
    (placed : Placed source offset scanner front gap)
    (placed' : Placed source' offset' scanner' front' gap') :
    SameRun position position' scanner scanner' := by
  intro count
  have later := alike.advanced count
  rw [advanced_next, advanced_next] at later
  rcases placed.exists_advanced (count + 1) with ⟨_, _, here⟩
  rcases placed'.exists_advanced (count + 1) with ⟨_, _, here'⟩
  rw [placed.source_eq, placed'.source_eq]
  exact ⟨later.sameOutcome here here', later.sameLexeme here here'⟩

/-- Starts that come to stand on alike scanners are the same. -/
theorem Alike.sameStart
    (alike : Alike position position' scanner scanner')
    (placed : Placed source offset scanner front gap)
    (placed' : Placed source' offset' scanner' front' gap') :
    SameStart position position' source source'
      scanner.answer scanner'.answer := by
  have outcome := alike.sameOutcome placed placed'
  rw [answer, answer]
  cases told : scanner.outcome with
  | ok kind =>
      rw [told] at outcome
      cases told' : scanner'.outcome with
      | ok kind' =>
          exact
            .ok placed.source_eq placed'.source_eq
              (alike.sameLexeme placed placed')
              (sameRun_of_alike_next alike.next placed placed')
              (alike.sameItems placed placed')
      | error diagnostic' =>
          rw [told'] at outcome
          cases outcome
  | error diagnostic =>
      rw [told] at outcome
      cases told' : scanner'.outcome with
      | ok kind' =>
          rw [told'] at outcome
          cases outcome
      | error diagnostic' =>
          rw [told'] at outcome
          cases outcome with
          | error complaint shifted => exact .malformed complaint shifted

/-- Two scanners in front of the same text have the same runs. -/
theorem sameRun_of_unread
    (placed : Placed source offset scanner front gap)
    (placed' : Placed source' offset' scanner' front' gap')
    (inside : scanner.kind ≠ .eof) (inside' : scanner'.kind ≠ .eof)
    (unread_eq : scanner.unread = scanner'.unread)
    (same :
      expectsOperand (some scanner.kind) =
        expectsOperand (some scanner'.kind)) :
    SameRun scanner.stop scanner'.stop scanner scanner' := by
  apply sameRun_of_alike_next _ placed placed'
  rw [next_of_ne_eof inside, next_of_ne_eof inside', unread_eq]
  exact alike_seek _ _ _ same (Nat.add_comm _ _)

/-- Starting behind a lexeme that opens an operand is stepping from it. -/
theorem Placed.sameStart_next
    (placed : Placed source offset scanner front gap)
    (before : scanner.stop < Text.size source)
    (expected : expectsOperand (some scanner.kind) = true) :
    SameStart scanner.stop scanner.stop source source
      (start? source scanner.stop) scanner.next.answer := by
  have inside : scanner.kind ≠ .eof := by
    intro ended
    rw [ended] at expected
    cases expected
  have filled : scanner.unread ≠ [] := by
    intro ended
    have total := congrArg Text.size placed.whole_at_stop
    rw [ended, List.append_nil, ← placed.stop_eq] at total
    exact Nat.ne_of_gt before total
  have start :=
    start?_eq_answer placed.whole_at_stop placed.stop_eq.symm filled
  have standing :=
    placed_seek none placed.whole_at_stop placed.stop_eq.symm
      (Nat.le_refl scanner.stop)
  rw [start]
  apply Alike.sameStart _ standing (placed.next inside)
  rw [next_of_ne_eof inside, placed.source_eq]
  exact alike_seek _ _ _ expected.symm rfl

/-- Starting inside a source is starting on the rest of it, shifted. -/
theorem sameStart_of_append
    (whole : source = front ++ unread)
    (size_front : Text.size front = position)
    (filled : unread ≠ []) :
    SameStart 0 position unread source
      (start? unread 0) (start? source position) := by
  have alone : unread = [] ++ unread := rfl
  have size_nil : Text.size [] = 0 := rfl
  rw [start?_eq_answer alone size_nil filled,
    start?_eq_answer whole size_front filled]
  apply
    Alike.sameStart _
      (placed_seek none alone size_nil (Nat.le_refl 0))
      (placed_seek none whole size_front (Nat.le_refl position))
  exact alike_seek _ _ _ rfl (Nat.add_comm _ _)

end

/--
All that a run looks back at is whether the lexeme before opens an operand.
Scanners of any two runs with the same unread text go on alike; starting at
the place of a scanner that expects an operand gives what the scanner finds
next; and starting inside a source gives what starting on the rest of the
source gives, shifted, with errors about the whole source.
-/
theorem runs_local :
    (∀ source source' offset offset' scanner scanner',
      Reached source offset scanner →
      Reached source' offset' scanner' →
      scanner.kind ≠ .eof →
      scanner'.kind ≠ .eof →
      (∃ front front' unread,
        source.splitAt? scanner.stop = some (front, unread) ∧
          source'.splitAt? scanner'.stop = some (front', unread)) →
      expectsOperand (some scanner.kind) =
        expectsOperand (some scanner'.kind) →
        SameRun scanner.stop scanner'.stop scanner scanner') ∧
    (∀ source offset scanner,
      Reached source offset scanner →
      scanner.stop < Text.size source →
      expectsOperand (some scanner.kind) = true →
        SameStart scanner.stop scanner.stop source source
          (start? source scanner.stop) scanner.advance.2.answer) ∧
    ∀ source position front unread,
      Text.splitAt? source position = some (front, unread) →
      unread ≠ [] →
        SameStart 0 position unread source
          (start? unread 0) (start? source position) := by
  refine ⟨?_, ?_, ?_⟩
  · intro source source' offset offset' scanner scanner' reached reached'
      inside inside' cuts same
    rcases reached.exists_placed with ⟨_, _, placed⟩
    rcases reached'.exists_placed with ⟨_, _, placed'⟩
    rcases cuts with ⟨front, front', unread, cut, cut'⟩
    rw [placed.splitAt?_stop, Option.some.injEq, Prod.mk.injEq] at cut
    rw [placed'.splitAt?_stop, Option.some.injEq, Prod.mk.injEq] at cut'
    exact
      sameRun_of_unread placed placed' inside inside'
        (cut.2.trans cut'.2.symm) same
  · intro source offset scanner reached before expected
    rcases reached.exists_placed with ⟨front, gap, placed⟩
    exact placed.sameStart_next before expected
  · intro source position front unread cut filled
    rcases Text.eq_append_of_splitAt? cut with ⟨whole, size_front⟩
    exact sameStart_of_append whole size_front filled

/-- A slash and a plus in front of the same text with a string left open. -/
theorem runs_local_behind_operators :
    ∃ first first',
      start? ['é', '/', ' ', '*', '\''] 2 = .ok first ∧
        start? ['*', '+', ' ', '*', '\''] 0 = .ok first' ∧
        SameRun 3 2 first first'.advance.2 ∧
        (first.advanced 1).advance.1 =
          .error
            ⟨.unclosedString, ['é', '/', ' ', '*', '\''], ⟨5, 6⟩⟩ ∧
        SameStart 3 3 ['é', '/', ' ', '*', '\'']
          ['é', '/', ' ', '*', '\'']
          (start? ['é', '/', ' ', '*', '\''] 3) first.advance.2.answer ∧
        SameStart 0 3 [' ', '*', '\''] ['é', '/', ' ', '*', '\'']
          (start? [' ', '*', '\''] 0)
          (start? ['é', '/', ' ', '*', '\''] 3) := by
  have started : start? ['é', '/', ' ', '*', '\''] 2 = .ok _ := rfl
  have started' : start? ['*', '+', ' ', '*', '\''] 0 = .ok _ := rfl
  rcases runs_local with ⟨same_run, same_step, same_rest⟩
  refine ⟨_, _, started, started', ?_, rfl, ?_, ?_⟩
  · apply same_run _ _ 2 0 _ _ (.start started) (.advance (.start started'))
    · decide
    · decide
    · exact ⟨_, _, _, rfl, rfl⟩
    · rfl
  · apply same_step _ 2 _ (.start started)
    · decide
    · rfl
  · exact same_rest _ 3 _ _ rfl (List.cons_ne_nil _ _)

end Scanner

end XPathScan
