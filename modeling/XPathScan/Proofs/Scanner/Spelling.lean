import XPathScan.Proofs.Lexeme.Spelling
import XPathScan.Proofs.Scanner.Pull
import XPathScan.Proofs.Scanner.Spacing

/-!
# Tokens agree with their texts

A token shows its kind, its place, its text and what it carries, and each of
them is made by another table or cut.  `Agrees` says, kind by kind, that they
tell the same; it holds of every token of a text that is scanned to the end
(`agrees_of_tokens`), because each token is that of a scanner that stands on a
sound lexeme.
-/

namespace XPathScan

namespace Scanner

open Lexeme (IsName IsNumeral IsQuote Shaped Written)

/-- What a token tells about itself agrees with its text in the source. -/
structure Agrees (source : Text) (token : Token) : Prop where
  /-- The form of the end is the text of nothing else. -/
  text_eq_eofForm_iff : token.text = Kind.eofForm ↔ token.kind = .eof
  slice :
    token.kind ≠ .eof → token.span.slice? source = some token.text
  kind_ne_unaryMinus : token.kind ≠ .unaryMinus
  operator :
    token.kind.isOperator = true →
      ∃ operator,
        token.kind.operator = .ok operator ∧
          operator.symbol = token.text
  fixed :
    token.kind ∉ [.eof, .name, .string] →
      ∀ form, token.kind.form = .ok form → form = token.text
  axis :
    token.kind = .axis →
      ∃ axis ∈ Axis.named,
        token.payload = .axis axis ∧ axis.spelling? = some token.text
  name :
    token.kind = .name →
      ∃ qualifier word callable,
        token.payload = .name qualifier word callable ∧
          (qualifier = [] → IsName word ∧ token.text = word) ∧
          (qualifier ≠ [] →
            IsName qualifier ∧ (IsName word ∨ word = ['*']) ∧
              token.text = qualifier ++ ':' :: word)
  string :
    token.kind = .string →
      ∃ quote body,
        IsQuote quote ∧ quote ∉ body ∧ token.payload = .string body ∧
          token.text = quote :: (body ++ [quote])
  number : token.kind = .number → IsNumeral token.text
  unknown :
    token.kind = .unknown →
      ∃ character,
        isBlank character = false ∧ token.text = [character]

/-- The end agrees with its form. -/
theorem agrees_of_eof (source : Text) {token : Token}
    (kind : token.kind = .eof) (text : token.text = Kind.eofForm) :
    Agrees source token := by
  constructor
  · exact iff_of_true text kind
  all_goals rw [kind]
  · intro inside
    exact absurd rfl inside
  · decide
  · intro is_operator
    cases is_operator
  · intro inside
    exact absurd List.mem_cons_self inside
  all_goals
    intro other
    cases other

/-- A lexeme that is written in one of the ways agrees with its text. -/
theorem agrees_of_written {source : Text} {token : Token}
    (written : Written token.kind token.text token.payload)
    (lexical : token.text ≠ Kind.eofForm)
    (slice : token.span.slice? source = some token.text) :
    Agrees source token where
  text_eq_eofForm_iff := iff_of_false lexical written.kind_ne_eof
  slice := fun _ => slice
  kind_ne_unaryMinus := written.kind_ne_unaryMinus
  operator := written.symbol_eq
  fixed := by
    intro unfixed form fixed
    simp only [List.mem_cons, List.not_mem_nil, or_false, not_or] at unfixed
    exact written.form_eq unfixed.2.1 unfixed.2.2 fixed
  axis := fun kind =>
    (written.literal_of_mem (by decide) kind).exists_axis
  name := fun kind =>
    (written.literal_of_mem (by decide) kind).exists_parts
  string := fun kind =>
    (written.literal_of_mem (by decide) kind).exists_body
  number := fun kind =>
    (written.literal_of_mem (by decide) kind).numeral
  unknown := fun kind =>
    (written.literal_of_mem (by decide) kind).exists_character

section

variable {source front gap : Text} {offset : Nat} {scanner : Scanner}

/-- The token of a sound scanner is that of its form. -/
theorem Placed.exists_shaped
    (placed : Placed source offset scanner front gap)
    (inside : scanner.kind ≠ .eof) (sound : scanner.diagnostic? = none) :
    ∃ form,
      Shaped scanner.token.text form ∧
        scanner.token.kind =
          form.kind scanner.previousKind scanner.unread ∧
        scanner.token.payload =
          form.payload scanner.previousKind scanner.unread := by
  have text : scanner.token.text = scanner.current.text := if_neg inside
  rcases placed.exists_form inside sound with ⟨form, shaped, same⟩
  rw [text]
  exact
    ⟨form, shaped, congrArg Lexeme.kind same,
      congrArg Lexeme.payload same⟩

/-- The token of a sound scanner is written in one of the ways. -/
theorem Placed.written
    (placed : Placed source offset scanner front gap)
    (inside : scanner.kind ≠ .eof)
    (sound : scanner.diagnostic? = none) :
    Written scanner.token.kind scanner.token.text
        scanner.token.payload ∧
      scanner.token.text ≠ Kind.eofForm := by
  rcases placed.exists_shaped inside sound with
    ⟨form, shaped, kind, payload⟩
  rw [kind, payload]
  constructor
  · exact shaped.written scanner.previousKind scanner.unread
  · intro eof
    rw [eof] at shaped
    exact Lexeme.not_isLexeme_eofForm ⟨form, shaped⟩

theorem Placed.agrees
    (placed : Placed source offset scanner front gap)
    (sound : scanner.diagnostic? = none) :
    Agrees source scanner.token := by
  by_cases ended : scanner.kind = .eof
  · exact agrees_of_eof source ended (if_pos ended)
  · rcases placed.written ended sound with ⟨written, lexical⟩
    apply agrees_of_written written lexical
    have text : scanner.token.text = scanner.current.text := if_neg ended
    rw [text, ← placed.source_eq]
    exact placed.lexeme?_eq

/-- The end lies behind all text. -/
theorem Placed.span_of_eof
    (placed : Placed source offset scanner front gap)
    (ended : scanner.kind = .eof) :
    scanner.span = ⟨Text.size source, Text.size source⟩ := by
  have start := placed.kind_eq_eof_iff_start.1 ended
  have size := placed.size_eq_zero_iff.2 ended
  rw [span, stop, size, start]
  rfl

end

/--
Every token of a text that is scanned to the end agrees with its text.  The end
is the last of the tokens and no other, and lies behind all text.
-/
theorem agrees_of_tokens {source : Text} {offset : Nat}
    {stream : Stream} {tokens : List Token}
    (started : Stream.start? source offset = .ok stream)
    (scanned : stream.tokens = .ok tokens) :
    (∃ before last,
      tokens = before ++ [last] ∧ last.kind = .eof ∧
        last.span = ⟨Text.size source, Text.size source⟩ ∧
        ∀ token ∈ before, token.kind ≠ .eof) ∧
    ∀ token ∈ tokens, Agrees source token := by
  rcases exists_pulled_of_tokens started scanned with
    ⟨first, front, gap, placed, sound, complete, rfl⟩
  constructor
  · rcases exists_end_of_pulled complete with
      ⟨before, last, tokens, kind, others⟩
    refine ⟨before, last, tokens, kind, ?_, others⟩
    have member : last ∈ first.pulled.tokens := by
      rw [tokens]
      exact List.mem_append_right before List.mem_cons_self
    rcases exists_placed_of_mem_pulled placed sound complete member with
      ⟨standing, front, gap, here, -, rfl⟩
    exact here.span_of_eof kind
  · intro token member
    rcases exists_placed_of_mem_pulled placed sound complete member with
      ⟨standing, front, gap, here, sound, rfl⟩
    exact here.agrees sound

/-- A star that is a local name, one that multiplies, and a quote in quotes. -/
theorem agrees_of_tokens_stars :
    ∃ stream tokens,
      Stream.start? ['é', 'x', ':', '*', '*', '\'', '"', '\''] 2 =
        .ok stream ∧
      stream.tokens = .ok tokens ∧
      tokens.map Token.kind = [.name, .multiply, .string, .eof] ∧
      ∀ token ∈ tokens,
        Agrees ['é', 'x', ':', '*', '*', '\'', '"', '\''] token := by
  let first : Scanner :=
    seek ['é', 'x', ':', '*', '*', '\'', '"', '\''] 2 none
      ['x', ':', '*', '*', '\'', '"', '\'']
  have started :
      Stream.start? ['é', 'x', ':', '*', '*', '\'', '"', '\''] 2 =
        .ok ⟨first, .ready⟩ := rfl
  have scanned := tokens_ready first
  rw [pulled_of_sound (by decide) rfl, pulled_of_sound (by decide) rfl,
    pulled_of_sound (by decide) rfl, pulled_of_eof rfl] at scanned
  exact
    ⟨_, _, started, scanned, rfl, (agrees_of_tokens started scanned).2⟩

end Scanner

end XPathScan
