import Mathlib.Data.List.Forall2
import XPathScan.Proofs.Listing.Lines
import XPathScan.Proofs.Text.Unquoted

/-!
# What a listing as text tells

A listing as text is read line by line, and each plain line tells the kind of
its token and what stands between the parentheses.  That determines the parts of
a name, the body of a string, the axis, and the text of any other lexeme
(`ShownAlike`), and nothing more: two plain listings are the same just where the
tokens are alike in this.  Places, parentheses behind names and the marks around
strings are not shown (`UnshownAlike`); a listing with spans adds the places.
-/

namespace XPathScan

open Lexeme (Literal Shaped Written)

/-! ## Parts of names -/

/-- The qualifier and the local name that a lexeme carries. -/
def Payload.parts? : Payload → Option (Text × Text)
  | .name qualifier word _ => some (qualifier, word)
  | _ => none

/-- The qualifier and the local name of a form. -/
def Lexeme.Form.parts? : Lexeme.Form → Option (Text × Text)
  | .word spelling => some ([], spelling)
  | .qualified qualifier localPart => some (qualifier, localPart)
  | _ => none

namespace Token

/-- Whether a parenthesis stands behind a name. -/
def callable? (token : Token) : Option Bool :=
  match token.payload with
  | .name _ _ callable => some callable
  | _ => none

theorem qualifier?_eq (token : Token) :
    token.qualifier? = token.payload.parts?.map Prod.fst := by
  rw [qualifier?]
  cases token.payload <;> rfl

theorem name?_eq (token : Token) :
    token.name? = token.payload.parts?.map Prod.snd := by
  rw [name?]
  cases token.payload <;> rfl

end Token

namespace Lexeme

section

variable {kind : Kind} {text text' : Text} {payload payload' : Payload}

/-- A name has a form with the parts that it carries. -/
theorem Literal.exists_parts_form (literal : Literal .name text payload) :
    ∃ form, Shaped text form ∧ payload.parts? = form.parts? := by
  cases literal with
  | word callable named => exact ⟨_, .word named, rfl⟩
  | qualified callable named named_local =>
      exact ⟨_, .qualified named named_local, rfl⟩

/-- The text of a name determines its parts, and they determine the text. -/
theorem Literal.parts?_eq_iff (literal : Literal .name text payload)
    (literal' : Literal .name text' payload') :
    payload.parts? = payload'.parts? ↔ text = text' := by
  constructor
  · intro same
    rcases literal.exists_parts with
      ⟨qualifier, word, callable, rfl, bare, prefixed⟩
    rcases literal'.exists_parts with
      ⟨qualifier', word', callable', rfl, bare', prefixed'⟩
    cases same
    by_cases absent : qualifier = []
    · rw [(bare absent).2, (bare' absent).2]
    · rw [(prefixed absent).2.2, (prefixed' absent).2.2]
  · rintro rfl
    rcases literal.exists_parts_form with ⟨form, shaped, parts⟩
    rcases literal'.exists_parts_form with ⟨form', shaped', parts'⟩
    rw [parts, parts', shaped.unique shaped']

/-- Only names, strings and axes carry something. -/
theorem Written.payload_eq_nothing (written : Written kind text payload)
    (plain : kind ∉ [.name, .string, .axis]) : payload = .nothing := by
  cases written with
  | operator => rfl
  | mark => rfl
  | literal literal =>
      cases literal with
      | number => rfl
      | stray => rfl
      | _ => simp at plain

end

end Lexeme

namespace Listing

/-! ## Lines of a text -/

/-- The lines of a text, each of which ends with a line feed. -/
structure LinesOf (listing : Text) (lines : List Text) : Prop where
  whole : listing = lines.flatMap (· ++ ['\n'])
  single : ∀ line ∈ lines, '\n' ∉ line

/-- A text has lines in one way only. -/
theorem LinesOf.unique {listing : Text} {lines lines' : List Text}
    (first : LinesOf listing lines) (second : LinesOf listing lines') :
    lines = lines' := by
  rcases first with ⟨rfl, single⟩
  rcases second with ⟨same, single'⟩
  induction lines generalizing lines' with
  | nil =>
      cases lines' with
      | nil => rfl
      | cons line' lines' => simp at same
  | cons line lines induction =>
      cases lines' with
      | nil => simp at same
      | cons line' lines' =>
          rw [List.forall_mem_cons] at single single'
          simp only [List.flatMap_cons, List.append_assoc,
            List.singleton_append] at same
          have inside := Text.bne_of_not_mem single.1
          have inside' := Text.bne_of_not_mem single'.1
          rcases Text.cut_unique inside inside' rfl rfl same with
            ⟨rfl, rest⟩
          rw [induction single.2 rest single'.2]

/--
A line with a span is the plain line behind two blanks and the two offsets,
which are aligned to the right in nine columns or more.
-/
inductive PlacedLine (token : Token) : Text → Prop
  | mk {blanks place : Text}
      (offsets :
        place =
          Text.ofNat token.span.start ++ ['.', '.'] ++
            Text.ofNat token.span.stop)
      (blank : ∀ character ∈ blanks, character = ' ')
      (width : blanks.length + place.length = max 9 place.length) :
      PlacedLine token (blanks ++ place ++ [' ', ' '] ++ token.display)

/-- What is on one line for each token makes up the lines of a listing. -/
theorem linesOf_flatMap {tokens : List Token} {shown : Token → Text}
    (single : ∀ token ∈ tokens, '\n' ∉ shown token) :
    LinesOf (tokens.flatMap fun token => shown token ++ ['\n'])
      (tokens.map shown) := by
  constructor
  · rw [List.flatMap_map]
  · intro line member
    rcases List.mem_map.1 member with ⟨token, inside, rfl⟩
    exact single token inside

theorem linesOf_plain {tokens : List Token}
    (listable : ∀ token ∈ tokens, Listable token) :
    LinesOf (renderLines false tokens) (tokens.map Token.display) :=
  linesOf_flatMap fun token member =>
    (listable token member).lineFeed_not_mem_display

/-- The line for a token with its span, without its line feed. -/
def placedLine (token : Token) : Text :=
  Text.alignRight spanWidth token.span.display ++ [' ', ' '] ++
    token.display

theorem placedLine_spec (token : Token) :
    PlacedLine token (placedLine token) := by
  apply PlacedLine.mk rfl
  · intro character member
    exact (List.mem_replicate.1 member).2
  · rw [List.length_replicate, spanWidth, Span.display]
    omega

theorem linesOf_placed {tokens : List Token}
    (listable : ∀ token ∈ tokens, Listable token) :
    LinesOf (renderLines true tokens) (tokens.map placedLine) := by
  refine @linesOf_flatMap tokens placedLine ?_
  intro token member
  have display := (listable token member).lineFeed_not_mem_display
  have place := lineFeed_not_mem_alignRight spanWidth token.span
  simp [placedLine, display, place]

/-! ## What a plain line tells -/

/-- Two tokens are alike in what plain lines tell of them. -/
structure ShownAlike (left right : Token) : Prop where
  kind : left.kind = right.kind
  name :
    left.kind = .name →
      left.qualifier? = right.qualifier? ∧ left.name? = right.name?
  string : left.kind = .string → left.body? = right.body?
  axis : left.kind = .axis → left.axis? = right.axis?
  text : left.kind ∉ [.name, .string, .axis] → left.text = right.text

/-- Two tokens are alike in what no plain line tells of them. -/
structure UnshownAlike (left right : Token) : Prop where
  span : left.span = right.span
  callable : left.callable? = right.callable?
  /-- The marks around strings are the same. -/
  mark : left.kind = .string → left.text.head? = right.text.head?

section

variable {left right : Token}

theorem parenthesis_not_mem_label (kind : Kind) : '(' ∉ kind.label := by
  cases kind <;> decide

/-- The label of a token is what stands in front of the parenthesis. -/
theorem takeWhile_display (token : Token) :
    token.display.takeWhile (· != '(') = token.kind.label := by
  have inside := Text.bne_of_not_mem (parenthesis_not_mem_label token.kind)
  rw [Token.display]
  split
  · rw [List.append_assoc, List.cons_append]
    exact Text.takeWhile_append_cons inside rfl
  · exact List.takeWhile_eq_self_iff.2 inside

/-- What stands behind the label tells the detail, if there is one. -/
theorem display_inj_of_kind (kind : left.kind = right.kind)
    (same : left.display = right.display) :
    left.detail? = right.detail? := by
  rw [Token.display, Token.display, kind] at same
  cases shown : left.detail? with
  | none =>
      cases shown' : right.detail? with
      | none => rfl
      | some detail' => simp [shown, shown'] at same
  | some detail =>
      cases shown' : right.detail? with
      | none => simp [shown, shown'] at same
      | some detail' =>
          rw [shown, shown'] at same
          dsimp only at same
          rw [List.append_assoc, List.append_assoc] at same
          have behind := List.append_cancel_left same
          rw [List.cons_append, List.cons_append, List.cons.injEq] at behind
          rw [List.append_cancel_right behind.2]

/-- A plain line tells the kind and what stands between the parentheses. -/
theorem display_eq_iff :
    left.display = right.display ↔
      left.kind = right.kind ∧ left.detail? = right.detail? := by
  constructor
  · intro same
    have labels := congrArg (List.takeWhile (· != '(')) same
    rw [takeWhile_display, takeWhile_display] at labels
    have kind := Kind.label_injective labels
    exact ⟨kind, display_inj_of_kind kind same⟩
  · rintro ⟨kind, detail⟩
    rw [Token.display, Token.display, ← kind, detail]

/-- The text of a name tells its parts, and they tell the text. -/
theorem text_eq_iff_of_name
    (literal : Literal .name left.text left.payload)
    (literal' : Literal .name right.text right.payload) :
    left.text = right.text ↔
      left.qualifier? = right.qualifier? ∧ left.name? = right.name? := by
  rw [← literal.parts?_eq_iff literal', Token.qualifier?_eq,
    Token.qualifier?_eq, Token.name?_eq, Token.name?_eq]
  constructor
  · intro same
    rw [same]
    exact ⟨rfl, rfl⟩
  · rcases literal.exists_parts with ⟨_, _, _, carried, -⟩
    rcases literal'.exists_parts with ⟨_, _, _, carried', -⟩
    rw [carried, carried']
    rintro ⟨qualifier, word⟩
    cases qualifier
    cases word
    rfl

/-- The text of an axis tells which axis it is. -/
theorem text_eq_iff_of_axis
    (literal : Literal .axis left.text left.payload)
    (literal' : Literal .axis right.text right.payload) :
    left.text = right.text ↔ left.axis? = right.axis? := by
  rcases literal.exists_axis with ⟨axis, -, carried, spelled⟩
  rcases literal'.exists_axis with ⟨axis', -, carried', spelled'⟩
  rw [Token.axis?, Token.axis?, carried, carried', Option.some.injEq]
  constructor
  · intro same
    rw [same] at spelled
    exact Axis.spelling?_injective spelled spelled'
  · rintro rfl
    exact Option.some.inj (spelled.symm.trans spelled')

/-- What is shown of a string tells its body, whatever it contains. -/
theorem detail?_eq_iff_of_string
    (literal : Literal .string left.text left.payload)
    (literal' : Literal .string right.text right.payload) :
    left.detail? = right.detail? ↔ left.body? = right.body? := by
  rcases literal.exists_body with ⟨_, body, -, -, carried, -⟩
  rcases literal'.exists_body with ⟨_, body', -, -, carried', -⟩
  rw [Token.detail?, Token.detail?, Token.body?, Token.body?, carried,
    carried', Option.some.injEq, Option.some.injEq]
  constructor
  · intro same
    exact Text.quote_injective same
  · intro same
    exact congrArg Text.quote same

theorem detail?_eq_iff (kind : left.kind = right.kind)
    (written : Written left.kind left.text left.payload)
    (written' : Written right.kind right.text right.payload) :
    left.detail? = right.detail? ↔ ShownAlike left right := by
  have literal {literal : Kind} (member : literal ∈ Lexeme.literalKinds)
      (same : left.kind = literal) :
      Literal literal left.text left.payload ∧
        Literal literal right.text right.payload :=
    ⟨written.literal_of_mem member same,
      written'.literal_of_mem member (kind.symm.trans same)⟩
  have shown (no_string : left.kind ≠ .string) :
      left.detail? = right.detail? ↔ left.text = right.text := by
    have left_shown := detail?_of_written written left.span no_string
    rw [kind] at no_string
    have right_shown := detail?_of_written written' right.span no_string
    rw [left_shown, right_shown, Option.some.injEq]
  constructor
  · intro same
    constructor
    · exact kind
    · intro name
      rcases literal (by decide) name with ⟨literal, literal'⟩
      rw [shown (by rw [name]; decide)] at same
      exact (text_eq_iff_of_name literal literal').1 same
    · intro string
      rcases literal (by decide) string with ⟨literal, literal'⟩
      exact (detail?_eq_iff_of_string literal literal').1 same
    · intro axis
      rcases literal (by decide) axis with ⟨literal, literal'⟩
      rw [shown (by rw [axis]; decide)] at same
      exact (text_eq_iff_of_axis literal literal').1 same
    · intro plain
      apply (shown ?_).1 same
      rintro string
      exact plain (by simp [string])
  · intro alike
    by_cases string : left.kind = .string
    · rcases literal (by decide) string with ⟨literal, literal'⟩
      exact
        (detail?_eq_iff_of_string literal literal').2 (alike.string string)
    rw [shown string]
    by_cases name : left.kind = .name
    · rcases literal (by decide) name with ⟨literal, literal'⟩
      exact (text_eq_iff_of_name literal literal').2 (alike.name name)
    by_cases axis : left.kind = .axis
    · rcases literal (by decide) axis with ⟨literal, literal'⟩
      exact (text_eq_iff_of_axis literal literal').2 (alike.axis axis)
    · apply alike.text
      simp [string, name, axis]

/-- Tokens of one kind are both the end or both lexemes. -/
theorem Listable.both (listable : Listable left)
    (listable' : Listable right) (kind : left.kind = right.kind) :
    (left.kind = .eof ∧ left.text = right.text ∧
        left.payload = right.payload) ∨
      left.kind ≠ .eof ∧
        Written left.kind left.text left.payload ∧
          Written right.kind right.text right.payload := by
  cases listable with
  | ended ended text payload =>
      cases listable' with
      | ended _ text' payload' =>
          exact
            .inl
              ⟨ended, text.trans text'.symm, payload.trans payload'.symm⟩
      | lexeme written =>
          exact absurd (kind.symm.trans ended) written.kind_ne_eof
  | lexeme written =>
      have inside := written.kind_ne_eof
      cases listable' with
      | ended ended => exact absurd (kind.trans ended) inside
      | lexeme written' => exact .inr ⟨inside, written, written'⟩

/-- The plain lines of two tokens are the same where the tokens are alike. -/
theorem Listable.display_eq_iff (listable : Listable left)
    (listable' : Listable right) :
    left.display = right.display ↔ ShownAlike left right := by
  rw [Listing.display_eq_iff]
  constructor
  · rintro ⟨kind, detail⟩
    rcases listable.both listable' kind with
      ⟨ended, text, -⟩ | ⟨inside, written, written'⟩
    · constructor
      · exact kind
      · intro name
        cases ended.symm.trans name
      · intro string
        cases ended.symm.trans string
      · intro axis
        cases ended.symm.trans axis
      · intro _
        exact text
    · exact (detail?_eq_iff kind written written').1 detail
  · intro alike
    refine ⟨alike.kind, ?_⟩
    rcases listable.both listable' alike.kind with
      ⟨ended, text, payload⟩ | ⟨-, written, written'⟩
    · rw [Token.detail?, Token.detail?, ← alike.kind, ← text, ← payload]
    · exact (detail?_eq_iff alike.kind written written').2 alike

/-- What a lexeme carries is told by the line, save for the parenthesis. -/
theorem payload_eq_of_alike
    (written : Written left.kind left.text left.payload)
    (written' : Written right.kind right.text right.payload)
    (shown : ShownAlike left right)
    (callable : left.callable? = right.callable?) :
    left.payload = right.payload := by
  by_cases plain : left.kind ∉ [.name, .string, .axis]
  · rw [written.payload_eq_nothing plain]
    rw [shown.kind] at plain
    exact (written'.payload_eq_nothing plain).symm
  simp only [List.mem_cons, List.not_mem_nil, or_false, not_not] at plain
  rcases plain with name | string | axis
  · have name' := shown.kind.symm.trans name
    have same := shown.name name
    rcases (written.literal_of_mem (by decide) name).exists_parts with
      ⟨_, _, _, carried, -⟩
    rcases (written'.literal_of_mem (by decide) name').exists_parts with
      ⟨_, _, _, carried', -⟩
    simp only [Token.qualifier?, Token.name?, carried, carried',
      Option.some.injEq] at same
    simp only [Token.callable?, carried, carried', Option.some.injEq]
      at callable
    rw [carried, carried', same.1, same.2, callable]
  · have string' := shown.kind.symm.trans string
    have same := shown.string string
    rcases (written.literal_of_mem (by decide) string).exists_body with
      ⟨_, _, -, -, carried, -⟩
    rcases (written'.literal_of_mem (by decide) string').exists_body with
      ⟨_, _, -, -, carried', -⟩
    simp only [Token.body?, carried, carried', Option.some.injEq] at same
    rw [carried, carried', same]
  · have axis' := shown.kind.symm.trans axis
    have same := shown.axis axis
    rcases (written.literal_of_mem (by decide) axis).exists_axis with
      ⟨_, -, carried, -⟩
    rcases (written'.literal_of_mem (by decide) axis').exists_axis with
      ⟨_, -, carried', -⟩
    simp only [Token.axis?, carried, carried', Option.some.injEq] at same
    rw [carried, carried', same]

/-- The text of a lexeme is told by the line, save for the marks of strings. -/
theorem text_eq_of_alike (kind : left.kind = right.kind)
    (written : Written left.kind left.text left.payload)
    (written' : Written right.kind right.text right.payload)
    (shown : ShownAlike left right)
    (mark : left.kind = .string → left.text.head? = right.text.head?) :
    left.text = right.text := by
  have detail := (detail?_eq_iff kind written written').2 shown
  by_cases string : left.kind = .string
  · have string' := kind.symm.trans string
    have same := shown.string string
    have marks := mark string
    rcases (written.literal_of_mem (by decide) string).exists_body with
      ⟨_, _, -, -, carried, text⟩
    rcases (written'.literal_of_mem (by decide) string').exists_body with
      ⟨_, _, -, -, carried', text'⟩
    simp only [Token.body?, carried, carried', Option.some.injEq] at same
    simp only [text, text', List.head?_cons, Option.some.injEq] at marks
    rw [text, text', same, marks]
  · have shown_left := detail?_of_written written left.span string
    rw [kind] at string
    have shown_right := detail?_of_written written' right.span string
    rw [shown_left, shown_right, Option.some.injEq] at detail
    exact detail

/-- What is shown of a token and what is not are all that there is of it. -/
theorem Listable.eq_of_alike (listable : Listable left)
    (listable' : Listable right) (shown : ShownAlike left right)
    (unshown : UnshownAlike left right) : left = right := by
  have same : left.text = right.text ∧ left.payload = right.payload := by
    rcases listable.both listable' shown.kind with
      ⟨-, same⟩ | ⟨-, written, written'⟩
    · exact same
    · constructor
      · exact
          text_eq_of_alike shown.kind written written' shown unshown.mark
      · exact
          payload_eq_of_alike written written' shown unshown.callable
  have kind := shown.kind
  have span := unshown.span
  cases left
  cases right
  rw [Token.mk.injEq]
  exact ⟨kind, span, same⟩

end

/-! ## What a listing tells -/

section

variable {tokens tokens' : List Token}

/-- The plain lines of tokens are the same where the tokens are alike. -/
theorem map_display_eq_iff (listable : ∀ token ∈ tokens, Listable token)
    (listable' : ∀ token ∈ tokens', Listable token) :
    tokens.map Token.display = tokens'.map Token.display ↔
      List.Forall₂ ShownAlike tokens tokens' := by
  induction tokens generalizing tokens' with
  | nil => simp
  | cons token tokens induction =>
      cases tokens' with
      | nil => simp
      | cons token' tokens' =>
          rw [List.forall_mem_cons] at listable listable'
          rw [List.map_cons, List.map_cons, List.cons.injEq,
            List.forall₂_cons, listable.1.display_eq_iff listable'.1,
            induction listable.2 listable'.2]

/-- The tokens of a sound scan can be listed. -/
theorem listable_of_tokens {source : Text} {offset : Nat} {stream : Stream}
    (started : Stream.start? source offset = .ok stream)
    (scanned : stream.tokens = .ok tokens) :
    ∀ token ∈ tokens, Listable token := by
  rcases Scanner.exists_pulled_of_tokens started scanned with
    ⟨first, front, gap, placed, sound, complete, rfl⟩
  exact placed.listable_of_mem_pulled sound complete

/-- Two plain listings are the same where their tokens are alike. -/
theorem renderLines_eq_iff (listable : ∀ token ∈ tokens, Listable token)
    (listable' : ∀ token ∈ tokens', Listable token) :
    renderLines false tokens = renderLines false tokens' ↔
      List.Forall₂ ShownAlike tokens tokens' := by
  have plain := linesOf_plain listable
  have plain' := linesOf_plain listable'
  rw [← map_display_eq_iff listable listable']
  constructor
  · intro same
    rw [same] at plain
    exact plain.unique plain'
  · intro same
    rw [plain.whole, plain'.whole, same]

theorem eq_of_forall₂_alike (listable : ∀ token ∈ tokens, Listable token)
    (listable' : ∀ token ∈ tokens', Listable token)
    (shown : List.Forall₂ ShownAlike tokens tokens')
    (unshown : List.Forall₂ UnshownAlike tokens tokens') :
    tokens = tokens' := by
  induction shown with
  | nil => rfl
  | cons alike shown induction =>
      rw [List.forall_mem_cons] at listable listable'
      rw [List.forall₂_cons] at unshown
      rw [listable.1.eq_of_alike listable'.1 alike unshown.1,
        induction listable.2 listable'.2 unshown.2]

end

/--
What a listing as text tells of the tokens of a sound scan.

With spans or without, there are as many line feeds as tokens.  The lines of the
plain listing are the tokens as they are shown, and a listing with spans has the
same lines, each one behind the two offsets of its token.  Two plain listings
are the same where the tokens are as many and alike in what is shown.  So tokens
are determined by their plain listing together with their spans, the
parentheses behind names and the marks around strings.
-/
theorem renderLines_tells {source : Text} {offset : Nat} {stream : Stream}
    {tokens : List Token}
    (started : Stream.start? source offset = .ok stream)
    (scanned : stream.tokens = .ok tokens) :
    (∀ withSpans,
      (renderLines withSpans tokens).count '\n' = tokens.length) ∧
    LinesOf (renderLines false tokens) (tokens.map Token.display) ∧
    (∃ lines,
      LinesOf (renderLines true tokens) lines ∧
        List.Forall₂ PlacedLine tokens lines) ∧
    ∀ source' offset' stream' tokens',
      Stream.start? source' offset' = .ok stream' →
        stream'.tokens = .ok tokens' →
          (renderLines false tokens = renderLines false tokens' ↔
            List.Forall₂ ShownAlike tokens tokens') ∧
          (tokens = tokens' ↔
            renderLines false tokens = renderLines false tokens' ∧
              List.Forall₂ UnshownAlike tokens tokens') := by
  have listable := listable_of_tokens started scanned
  refine ⟨?_, linesOf_plain listable, ?_, ?_⟩
  · intro withSpans
    apply count_renderLines
    intro token member
    exact (listable token member).lineFeed_not_mem_display
  · refine ⟨tokens.map placedLine, linesOf_placed listable, ?_⟩
    rw [List.forall₂_map_right_iff, List.forall₂_same]
    intro token _
    exact placedLine_spec token
  · intro source' offset' stream' tokens' started' scanned'
    have listable' := listable_of_tokens started' scanned'
    have same_iff := renderLines_eq_iff listable listable'
    refine ⟨same_iff, ?_⟩
    constructor
    · rintro rfl
      refine ⟨rfl, ?_⟩
      rw [List.forall₂_same]
      intro token _
      exact ⟨rfl, rfl, fun _ => rfl⟩
    · rintro ⟨same, unshown⟩
      exact
        eq_of_forall₂_alike listable listable' (same_iff.1 same) unshown

/-- Other quotes, other places and no parenthesis give the same listing. -/
theorem renderLines_tells_quotes :
    ∃ stream stream' tokens tokens',
      Stream.start? ['"', 'a', '\n', '"', 'b', '('] 0 = .ok stream ∧
      Stream.start? ['\'', 'a', '\n', '\'', ' ', 'b', ' ', '('] 0 =
        .ok stream' ∧
      stream.tokens = .ok tokens ∧ stream'.tokens = .ok tokens' ∧
      (renderLines true tokens).count '\n' = 4 ∧
      renderLines false tokens = renderLines false tokens' ∧
      List.Forall₂ ShownAlike tokens tokens' ∧
      tokens.map Token.callable? ≠ tokens'.map Token.callable? := by
  let first : Scanner :=
    Scanner.seek ['"', 'a', '\n', '"', 'b', '('] 0 none
      ['"', 'a', '\n', '"', 'b', '(']
  let first' : Scanner :=
    Scanner.seek ['\'', 'a', '\n', '\'', ' ', 'b', ' ', '('] 0 none
      ['\'', 'a', '\n', '\'', ' ', 'b', ' ', '(']
  have started :
      Stream.start? ['"', 'a', '\n', '"', 'b', '('] 0 =
        .ok ⟨first, .ready⟩ := rfl
  have started' :
      Stream.start? ['\'', 'a', '\n', '\'', ' ', 'b', ' ', '('] 0 =
        .ok ⟨first', .ready⟩ := rfl
  have scanned := Scanner.tokens_ready first
  rw [Scanner.pulled_of_sound (by decide) rfl,
    Scanner.pulled_of_sound (by decide) rfl,
    Scanner.pulled_of_sound (by decide) rfl,
    Scanner.pulled_of_eof rfl] at scanned
  have scanned' := Scanner.tokens_ready first'
  rw [Scanner.pulled_of_sound (by decide) rfl,
    Scanner.pulled_of_sound (by decide) rfl,
    Scanner.pulled_of_sound (by decide) rfl,
    Scanner.pulled_of_eof rfl] at scanned'
  rcases renderLines_tells started scanned with ⟨counts, -, -, tells⟩
  have alike := (tells _ _ _ _ started' scanned').1
  refine ⟨_, _, _, _, started, started', scanned, scanned', counts true, ?_⟩
  refine ⟨?_, alike.1 ?_, ?_⟩
  all_goals decide +kernel

end Listing

end XPathScan
