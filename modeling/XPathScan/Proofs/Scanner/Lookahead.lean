import XPathScan.Proofs.Lexeme.Lookahead
import XPathScan.Proofs.Scanner.Spelling

/-!
# Lookahead and the next token

Two decisions about a token are taken by looking at the text behind it: whether
a word is an axis, and whether a name is called.  The next token is read by
itself, behind the blanks.  Both see the same (`lookahead_of_tokens`): an axis
is a word that is spelled like one with a separator as the next token, and a
name is called if an opening parenthesis is the next token and stands right
behind it.
-/

namespace XPathScan

namespace Scanner

open Lexeme (Form IsName SeparatorAhead Shaped symbols)

section

variable {source front gap : Text} {offset : Nat} {scanner : Scanner}

/-- A scanner stands on a separator if its token begins with one. -/
theorem Placed.separatorAhead_iff
    (placed : Placed source offset scanner front gap)
    (sound : scanner.diagnostic? = none) :
    SeparatorAhead scanner.token.text ↔
      scanner.token.kind = .doubleColon := by
  by_cases ended : scanner.kind = .eof
  · have kind : scanner.token.kind = .eof := ended
    have text : scanner.token.text = Kind.eofForm := if_pos ended
    rw [kind, text]
    decide
  · rcases placed.exists_shaped ended sound with ⟨form, shaped, kind, -⟩
    rw [shaped.separatorAhead_iff, kind]
    constructor
    · rintro rfl
      rfl
    · have listed : ([':', ':'], Kind.doubleColon) ∈ symbols := by decide
      exact Form.eq_symbol_of_kind listed

/-- A separator is ahead if it is the next token. -/
theorem Placed.separatorAhead_unread_iff
    (placed : Placed source offset scanner front gap)
    (inside : scanner.kind ≠ .eof)
    (sound : scanner.next.diagnostic? = none) :
    SeparatorAhead scanner.unread ↔
      scanner.next.token.kind = .doubleColon := by
  rw [Scanner.separatorAhead_unread_iff inside]
  exact (placed.next inside).separatorAhead_iff sound

/-- A scanner stands on an opening parenthesis if it has one in front of it. -/
theorem Placed.parenthesisFollows_iff
    (placed : Placed source offset scanner front gap)
    (sound : scanner.diagnostic? = none) :
    Lexeme.parenthesisFollows
        (scanner.current.text ++ scanner.unread) = true ↔
      scanner.token.kind = .leftParen := by
  by_cases ended : scanner.kind = .eof
  · have kind : scanner.token.kind = .eof := ended
    rw [kind, placed.kind_eq_eof_iff.1 ended]
    decide
  · have text : scanner.token.text = scanner.current.text := if_neg ended
    rcases placed.exists_shaped ended sound with ⟨form, shaped, kind, -⟩
    rw [text] at shaped
    rw [Lexeme.parenthesisFollows_append _ shaped.ne_nil,
      shaped.parenthesisFollows_iff, kind]
    constructor
    · rintro rfl
      rfl
    · have listed : (['('], Kind.leftParen) ∈ symbols := by decide
      exact Form.eq_symbol_of_kind listed

/-- The next token begins where the current one ends if no blank is between. -/
theorem Placed.start_next_eq_stop_iff
    (placed : Placed source offset scanner front gap)
    (inside : scanner.kind ≠ .eof) :
    scanner.next.token.span.start = scanner.token.span.stop ↔
      scanner.unread.takeWhile isBlank = [] := by
  have later := placed.next inside
  change scanner.next.start = scanner.stop ↔ _
  rw [later.start_eq, ← placed.stop_eq]
  constructor
  · intro adjacent
    apply Text.eq_nil_of_size_eq_zero
    omega
  · intro nothing
    rw [nothing]
    rfl

/-- A parenthesis is ahead if it is the next token and stands right behind. -/
theorem Placed.parenthesisFollows_unread_iff
    (placed : Placed source offset scanner front gap)
    (inside : scanner.kind ≠ .eof)
    (sound : scanner.next.diagnostic? = none) :
    Lexeme.parenthesisFollows scanner.unread = true ↔
      scanner.next.token.kind = .leftParen ∧
        scanner.next.token.span.start = scanner.token.span.stop := by
  have later := placed.next inside
  have unread := placed.whole_at_stop.symm.trans later.whole
  rw [List.append_cancel_left_eq] at unread
  rw [placed.start_next_eq_stop_iff inside]
  cases gap : scanner.unread.takeWhile isBlank with
  | nil =>
      rw [gap, List.nil_append] at unread
      rw [unread, later.parenthesisFollows_iff sound]
      exact (and_iff_left rfl).symm
  | cons blank gap' =>
      rw [gap] at unread
      have blank_first :
          ∀ first ∈ scanner.unread.head?, isBlank first = true := by
        rw [unread]
        rintro first ⟨⟩
        apply later.gap_blank
        rw [gap]
        exact List.mem_cons_self
      rw [Lexeme.parenthesisFollows_of_blank blank_first]
      simp

/-- A token is an axis if it is spelled like one and a separator is ahead. -/
theorem Placed.kind_eq_axis_iff
    (placed : Placed source offset scanner front gap)
    (inside : scanner.kind ≠ .eof) (sound : scanner.diagnostic? = none) :
    scanner.token.kind = .axis ↔
      (∃ axis : Axis, axis.spelling? = some scanner.token.text) ∧
        SeparatorAhead scanner.unread := by
  rcases placed.exists_shaped inside sound with ⟨form, shaped, kind, -⟩
  rw [kind]
  exact shaped.kind_eq_axis_iff scanner.previousKind

end

/-- A name knows whether the next token is a parenthesis right behind it. -/
def KnowsCall (token : Token) (following : Option Token) : Prop :=
  ∃ qualifier word callable,
    token.payload = .name qualifier word callable ∧
      (callable = true ↔
        ∃ next,
          following = some next ∧ next.kind = .leftParen ∧
            next.span.start = token.span.stop)

/--
What is decided about a token by looking ahead agrees with the next token.

In a text that is scanned to the end, a token is an axis if and only if it is
spelled like one and the next token is a separator, whatever blanks are between
them; and a name is called if and only if the next token is an opening
parenthesis that begins where the name ends.  So behind an axis there is always
a separator, and never behind a name that is spelled like an axis.
-/
theorem lookahead_of_tokens {source : Text} {offset : Nat}
    {stream : Stream} {tokens : List Token}
    (started : Stream.start? source offset = .ok stream)
    (scanned : stream.tokens = .ok tokens)
    (index : Nat) {token : Token}
    (found : tokens[index]? = some token) :
    (token.kind = .axis ↔
      (∃ axis : Axis, axis.spelling? = some token.text) ∧
        ∃ next,
          tokens[index + 1]? = some next ∧ next.kind = .doubleColon) ∧
    (token.kind = .name → KnowsCall token tokens[index + 1]?) := by
  rcases exists_pulled_of_tokens started scanned with
    ⟨first, front, gap, placed, sound, complete, rfl⟩
  rcases exists_pulledFrom placed sound complete found with
    ⟨standing, pulled⟩
  rcases pulled.placed with ⟨front', gap', here⟩
  rcases pulled with ⟨-, sound_here, rfl, nothing_behind, stepped⟩
  by_cases ended : standing.kind = .eof
  · have kind : standing.token.kind = .eof := ended
    rw [nothing_behind ended, kind]
    constructor
    · apply iff_of_false
      · decide
      · rintro ⟨-, next, absent, -⟩
        cases absent
    · intro name
      cases name
  · rcases stepped ended with ⟨sound_next, following⟩
    rw [following]
    constructor
    · rw [here.kind_eq_axis_iff ended sound_here,
        here.separatorAhead_unread_iff ended sound_next]
      simp
    · intro name
      rcases (here.agrees sound_here).name name with
        ⟨qualifier, word, callable, payload, -, -⟩
      refine ⟨qualifier, word, callable, payload, ?_⟩
      rcases here.exists_shaped ended sound_here with
        ⟨form, -, -, same⟩
      rw [payload] at same
      rw [Form.callable_eq same.symm,
        here.parenthesisFollows_unread_iff ended sound_next]
      simp

/-- Behind a name that is called, an axis and a blank before its separator. -/
theorem lookahead_of_tokens_axis :
    ∃ stream tokens token,
      Stream.start?
          ['é', 'f', '(', 's', 'e', 'l', 'f', '\t', ':', ':', ':'] 2 =
        .ok stream ∧
      stream.tokens = .ok tokens ∧ tokens[2]? = some token ∧
      token.kind = .axis ∧
      ∃ next, tokens[2 + 1]? = some next ∧ next.kind = .doubleColon := by
  let first : Scanner :=
    seek ['é', 'f', '(', 's', 'e', 'l', 'f', '\t', ':', ':', ':'] 2 none
      ['f', '(', 's', 'e', 'l', 'f', '\t', ':', ':', ':']
  have started :
      Stream.start?
          ['é', 'f', '(', 's', 'e', 'l', 'f', '\t', ':', ':', ':'] 2 =
        .ok ⟨first, .ready⟩ := rfl
  have scanned := tokens_ready first
  rw [pulled_of_sound (by decide) rfl, pulled_of_sound (by decide) rfl,
    pulled_of_sound (by decide) rfl, pulled_of_sound (by decide) rfl,
    pulled_of_sound (by decide) rfl, pulled_of_eof rfl] at scanned
  have laws := lookahead_of_tokens started scanned 2 rfl
  exact ⟨_, _, _, started, scanned, rfl, rfl, (laws.1.1 rfl).2⟩

end Scanner

end XPathScan
