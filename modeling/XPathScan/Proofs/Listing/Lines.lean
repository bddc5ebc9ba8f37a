import XPathScan.Listing
import XPathScan.Proofs.Scanner.Spelling
import XPathScan.Proofs.Text.Digits

/-!
# Lines of listings

A listing as text has one line for each token.  Strings are quoted on one line
whatever they contain, no other lexeme contains the end of a line, and neither
do labels and spans, so the only line feed of a line is its last character.
-/

namespace XPathScan

open Lexeme (Literal Shaped Written isName_of_spelling?)

namespace Text

/-- A text is quoted on one line. -/
theorem lineFeed_not_mem_quote (text : Text) : '\n' ∉ quote text := by
  have quoted : ∀ character, '\n' ∉ quoteChar character := by
    intro character
    unfold quoteChar
    split
    case h_7 no_lineFeed _ _ =>
      split
      · have no_digit : '\n' ∉ hexadecimal character.toNat :=
          lineFeed_not_mem_toDigits (by decide) character.toNat
        simpa [numbered] using no_digit
      · rw [List.mem_singleton]
        exact fun same => no_lineFeed same.symm
    all_goals decide
  simp only [quote, List.mem_cons, List.mem_append, List.mem_flatMap,
    List.not_mem_nil, or_false, List.cons_append]
  rintro (opening | ⟨character, -, inside⟩ | closing)
  · cases opening
  · exact quoted character inside
  · cases closing

theorem lineFeed_not_mem_of_not_blank {text : Text}
    (no_blank : ∀ character ∈ text, isBlank character = false) :
    '\n' ∉ text := by
  intro member
  cases no_blank '\n' member

end Text

namespace Listing

/-- The tokens of a sound scan: the end and lexemes that are written. -/
inductive Listable (token : Token) : Prop
  | ended
      (kind : token.kind = .eof)
      (text : token.text = Kind.eofForm)
      (payload : token.payload = .nothing)
  | lexeme
      (written : Written token.kind token.text token.payload)

/-- All but strings are shown as they are. -/
theorem detail?_of_written {kind : Kind} {text : Text} {payload : Payload}
    (written : Written kind text payload) (span : Span)
    (no_string : kind ≠ .string) :
    Token.detail? ⟨kind, span, text, payload⟩ = some text := by
  have inside := written.kind_ne_eof
  cases written with
  | operator => exact if_neg inside
  | mark => exact if_neg inside
  | literal literal =>
      cases literal with
      | string => exact absurd rfl no_string
      | qualified callable named =>
          -- a qualifier is never empty, so it is shown
          cases named with
          | mk => rfl
      | axis spelled =>
          exact congrArg (fun word => some (word.getD ['?'])) spelled
      | _ => rfl

theorem detail?_of_string {text : Text} {payload : Payload}
    (literal : Literal .string text payload) (span : Span) :
    ∃ body,
      payload = .string body ∧
        Token.detail? ⟨.string, span, text, payload⟩ = some body.quote := by
  cases literal with
  | string quoting closed => exact ⟨_, rfl, rfl⟩

/-- No lexeme but a string contains the end of a line. -/
theorem lineFeed_not_mem_text {kind : Kind} {text : Text}
    {payload : Payload} (written : Written kind text payload)
    (no_string : kind ≠ .string) : '\n' ∉ text := by
  cases written with
  | @operator operator => cases operator <;> decide
  | mark listed =>
      have without : ∀ entry ∈ Lexeme.symbols, '\n' ∉ entry.1 := by decide
      exact without _ listed
  | literal literal =>
      cases literal with
      | number numeric =>
          apply Text.lineFeed_not_mem_of_not_blank
          exact (Shaped.number numeric).not_blank nofun
      | string => exact absurd rfl no_string
      | word callable named =>
          apply Text.lineFeed_not_mem_of_not_blank
          exact (Shaped.word named).not_blank nofun
      | qualified callable named named_local =>
          apply Text.lineFeed_not_mem_of_not_blank
          exact (Shaped.qualified named named_local).not_blank nofun
      | axis spelled =>
          apply Text.lineFeed_not_mem_of_not_blank
          exact (Shaped.word (isName_of_spelling? spelled)).not_blank nofun
      | stray not_blank =>
          apply Text.lineFeed_not_mem_of_not_blank
          intro character member
          rw [List.mem_singleton.1 member]
          exact not_blank

/-- What is shown of a lexeme between parentheses ends no line. -/
theorem lineFeed_not_mem_detail? {kind : Kind} {text : Text}
    {payload : Payload} (written : Written kind text payload)
    (span : Span) :
    ∀ detail ∈ Token.detail? ⟨kind, span, text, payload⟩, '\n' ∉ detail := by
  intro detail member
  by_cases string : kind = .string
  · subst string
    rcases detail?_of_string (written.literal_of_mem (by decide) rfl) span with
      ⟨body, -, shown⟩
    rw [shown] at member
    cases member
    exact Text.lineFeed_not_mem_quote body
  · rw [detail?_of_written written span string] at member
    cases member
    exact lineFeed_not_mem_text written string

theorem lineFeed_not_mem_display {token : Token}
    (single : ∀ detail ∈ token.detail?, '\n' ∉ detail) :
    '\n' ∉ token.display := by
  have label : '\n' ∉ token.kind.label := by
    cases token.kind <;> decide
  rw [Token.display]
  split
  next detail shown =>
    simp only [List.mem_append, List.mem_cons, List.not_mem_nil, or_false]
    rintro ((before | opening | within) | closing)
    · exact label before
    · cases opening
    · exact single detail shown within
    · cases closing
  next => exact label

theorem Listable.detail?_of_ended {token : Token}
    (kind : token.kind = .eof) (payload : token.payload = .nothing) :
    token.detail? = none := by
  rw [Token.detail?, payload]
  exact if_pos kind

/-- Tokens of a sound scan are shown on one line. -/
theorem Listable.lineFeed_not_mem_display {token : Token}
    (listable : Listable token) : '\n' ∉ token.display := by
  apply Listing.lineFeed_not_mem_display
  cases listable with
  | ended kind text payload =>
      rw [detail?_of_ended kind payload]
      exact nofun
  | lexeme written => exact lineFeed_not_mem_detail? written token.span

theorem lineFeed_not_mem_alignRight (width : Nat) (span : Span) :
    '\n' ∉ Text.alignRight width span.display := by
  have digits (number : Nat) : '\n' ∉ Text.ofNat number :=
    Text.lineFeed_not_mem_toDigits (by decide) number
  simp only [Text.alignRight, List.leftpad, Span.display, List.mem_append,
    List.mem_replicate]
  rintro (⟨-, blank⟩ | (start | dots) | stop)
  · cases blank
  · exact digits span.start start
  · revert dots
    decide
  · exact digits span.stop stop

/-- The line for a token is one line. -/
theorem count_line (withSpan : Bool) {token : Token}
    (single : '\n' ∉ token.display) :
    (line withSpan token).count '\n' = 1 := by
  have display := List.count_eq_zero.2 single
  cases withSpan with
  | false =>
      rw [line, List.count_append, List.count_append, display]
      rfl
  | true =>
      have place :=
        List.count_eq_zero.2
          (lineFeed_not_mem_alignRight spanWidth token.span)
      rw [line, List.count_append, List.count_append, display, if_pos rfl,
        List.count_append, place]
      rfl

/-- A listing as text has as many lines as it shows tokens. -/
theorem count_renderLines (withSpans : Bool) {tokens : List Token}
    (single : ∀ token ∈ tokens, '\n' ∉ token.display) :
    (renderLines withSpans tokens).count '\n' = tokens.length := by
  induction tokens with
  | nil => rfl
  | cons token tokens induction =>
      rw [List.forall_mem_cons] at single
      rw [renderLines, List.flatMap_cons, List.count_append,
        count_line withSpans single.1, ← renderLines,
        induction single.2, List.length_cons, Nat.add_comm]

end Listing

namespace Scanner

/-- The tokens that a sound scan finds can be listed. -/
theorem Placed.listable {source front gap : Text} {offset : Nat}
    {scanner : Scanner}
    (placed : Placed source offset scanner front gap)
    (sound : scanner.diagnostic? = none) :
    Listing.Listable scanner.token := by
  by_cases ended : scanner.kind = .eof
  · apply Listing.Listable.ended ended
    · exact if_pos ended
    · exact congrArg Lexeme.payload (placed.current_of_eof ended)
  · exact .lexeme (placed.written ended sound).1

/-- If no step fails, all tokens that are pulled can be listed. -/
theorem Placed.listable_of_mem_pulled {source front gap : Text}
    {offset : Nat} {scanner : Scanner}
    (placed : Placed source offset scanner front gap)
    (sound : scanner.diagnostic? = none)
    (complete : scanner.pulled.failure = none) :
    ∀ token ∈ scanner.pulled.tokens, Listing.Listable token := by
  intro token member
  rcases exists_placed_of_mem_pulled placed sound complete member with
    ⟨standing, front, gap, here, sound, rfl⟩
  exact here.listable sound

end Scanner

end XPathScan
