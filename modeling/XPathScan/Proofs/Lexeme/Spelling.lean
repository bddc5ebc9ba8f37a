import XPathScan.Proofs.Lexeme.Form
import XPathScan.Proofs.Lexeme.Lookback
import XPathScan.Token

/-!
# How lexemes are written

The kind of a sound lexeme, its text and what it carries belong together:
`Written` lists the ways in which they can.  Operators are written as their
symbols, axes as their spellings, names and strings as their parts, and every
other kind has one text or one class of texts.  Whatever has a form is written
in one of these ways (`Shaped.written`), so the tables of kinds, operators and
axes never say anything else than the text.
-/

namespace XPathScan

namespace Lexeme

/-- How the lexemes are written whose texts are not fixed. -/
inductive Literal : Kind → Text → Payload → Prop
  | number {text : Text}
      (numeric : IsNumeral text) :
      Literal .number text .nothing
  | string {quote : Char} {body : Text}
      (quoting : IsQuote quote)
      (closed : quote ∉ body) :
      Literal .string (quote :: (body ++ [quote])) (.string body)
  | word {word : Text} (callable : Bool)
      (named : IsName word) :
      Literal .name word (.name [] word callable)
  | qualified {qualifier word : Text} (callable : Bool)
      (named : IsName qualifier)
      (named_local : IsName word ∨ word = ['*']) :
      Literal .name (qualifier ++ ':' :: word)
        (.name qualifier word callable)
  | axis {axis : Axis} {text : Text}
      (spelled : axis.spelling? = some text) :
      Literal .axis text (.axis axis)
  | stray {character : Char}
      (not_blank : isBlank character = false) :
      Literal .unknown [character] .nothing

/-- The kinds of lexemes whose texts are not fixed. -/
def literalKinds : List Kind :=
  [.number, .string, .name, .axis, .unknown]

/-- The ways in which lexemes are written, with what they carry. -/
inductive Written : Kind → Text → Payload → Prop
  | operator {operator : Operator}
      (binary : operator ≠ .unaryMinus) :
      Written operator.kind operator.symbol .nothing
  | mark {text : Text} {kind : Kind}
      (listed : (text, kind) ∈ symbols)
      (no_operator : kind.isOperator = false) :
      Written kind text .nothing
  | literal {kind : Kind} {text : Text} {payload : Payload}
      (literal : Literal kind text payload) :
      Written kind text payload

/-! ## Forms are written -/

/-- An operator that is listed as a symbol is listed with its own symbol. -/
theorem symbol_of_mem_symbols {text : Text} {kind : Kind}
    (listed : (text, kind) ∈ symbols)
    (is_operator : kind.isOperator = true) :
    ∃ operator : Operator,
      operator ≠ .unaryMinus ∧ operator.kind = kind ∧
        operator.symbol = text := by
  have own :
      ∀ entry ∈ symbols, entry.2.isOperator = true →
        (Operator.ofKind? entry.2).map Operator.symbol =
            some entry.1 ∧
          Operator.ofKind? entry.2 ≠ some .unaryMinus := by
    decide
  rcases own _ listed is_operator with ⟨symbol, binary⟩
  rcases Option.map_eq_some_iff.1 symbol with ⟨operator, found, written⟩
  refine ⟨operator, ?_, Operator.ofKind?_eq_some_iff.1 found, written⟩
  rintro rfl
  exact binary found

theorem written_symbol (previous : Option Kind) (behind : Text)
    {text : Text} {kind : Kind} (listed : (text, kind) ∈ symbols) :
    Written ((Form.symbol kind).kind previous behind) text .nothing := by
  rw [Form.kind]
  split
  next reading =>
    have alone :
        ∀ entry ∈ symbols, entry.2 = .star → entry.1 = ['*'] := by
      decide
    have text_eq : text = ['*'] := alone _ listed reading.1
    rw [text_eq]
    have binary : Operator.multiply ≠ .unaryMinus := by decide
    exact .operator binary
  next =>
    by_cases is_operator : kind.isOperator
    · rcases symbol_of_mem_symbols listed is_operator with
        ⟨operator, binary, rfl, rfl⟩
      exact .operator binary
    · rw [Bool.not_eq_true] at is_operator
      exact .mark listed is_operator

theorem written_word (previous : Option Kind) (behind : Text)
    {spelling : Text} (named : IsName spelling) :
    Written ((Form.word spelling).kind previous behind) spelling
      ((Form.word spelling).payload previous behind) := by
  have plain :
      (Form.word spelling).kind previous behind = .name →
        Written ((Form.word spelling).kind previous behind) spelling
          ((Form.word spelling).payload previous behind) := by
    intro kind
    rw [Form.payload, kind]
    exact .literal (.word _ named)
  by_cases separated :
      Axis.ofSpelling spelling ≠ .unknown ∧ SeparatorAhead behind
  · have kind : (Form.word spelling).kind previous behind = .axis := by
      rw [Form.kind, if_pos separated]
    rw [Form.payload, kind]
    exact .literal (.axis (Axis.spelling?_ofSpelling separated.1))
  · cases found : wordOperator? spelling with
    | none =>
        apply plain
        rw [Form.kind, if_neg separated, found]
    | some operator =>
        by_cases expected : expectsOperand previous
        · apply plain
          rw [Form.kind, if_neg separated, found]
          exact if_pos expected
        · have kind :
              (Form.word spelling).kind previous behind =
                operator.kind := by
            rw [Form.kind, if_neg separated, found]
            exact if_neg expected
          rcases symbol_of_wordOperator? found with ⟨listed, rfl⟩
          have carries :
              operator ≠ .unaryMinus ∧ operator.kind ≠ .name ∧
                operator.kind ≠ .axis := by
            revert listed
            cases operator <;> decide
          rcases carries with ⟨binary, no_name, no_axis⟩
          have nothing :
              (Form.word operator.symbol).payload previous behind =
                .nothing := by
            rw [Form.payload, kind]
            split
            next name => exact absurd name no_name
            next axis => exact absurd axis no_axis
            next => rfl
          rw [kind, nothing]
          exact .operator binary

/-- What has a form is written in one of the ways. -/
theorem Shaped.written (previous : Option Kind) (behind : Text)
    {text : Text} {form : Form} (shaped : Shaped text form) :
    Written (form.kind previous behind) text
      (form.payload previous behind) := by
  cases shaped with
  | symbol listed => exact written_symbol previous behind listed
  | number numeric => exact .literal (.number numeric)
  | string quoting closed => exact .literal (.string quoting closed)
  | word named => exact written_word previous behind named
  | qualified named named_local =>
      exact .literal (.qualified _ named named_local)
  | stray lone => exact .literal (.stray lone.not_blank)

/-! ## Symbols and axes -/

theorem not_mem_literalKinds {text : Text} {kind : Kind}
    (listed : (text, kind) ∈ symbols) :
    kind ∉ literalKinds := by
  have apart : ∀ entry ∈ symbols, entry.2 ∉ literalKinds := by decide
  exact apart _ listed

/-- Only a symbol is of the kind of a symbol that stays what it is. -/
theorem Form.eq_symbol_of_kind {previous : Option Kind}
    {text behind : Text} {kind : Kind} {form : Form}
    (listed : (text, kind) ∈ symbols)
    (same : form.kind previous behind = kind) :
    form = .symbol kind := by
  have no_literal := not_mem_literalKinds listed
  have no_reading :
      ∀ entry ∈ symbols,
        entry.2 ∉ .multiply :: wordOperators.map Operator.kind := by
    decide
  have no_operator := no_reading _ listed
  cases form with
  | symbol kind' =>
      rw [Form.kind] at same
      split at same
      next =>
        rw [← same] at no_operator
        exact absurd List.mem_cons_self no_operator
      next => rw [same]
  | word spelling =>
      rw [Form.kind] at same
      split at same
      · rw [← same] at no_literal
        exact absurd (by decide) no_literal
      · split at same
        next operator found =>
          split at same
          · rw [← same] at no_literal
            exact absurd (by decide) no_literal
          · have member := (symbol_of_wordOperator? found).1
            rw [← same] at no_operator
            apply absurd _ no_operator
            exact List.mem_cons_of_mem _ (List.mem_map_of_mem member)
        next =>
          rw [← same] at no_literal
          exact absurd (by decide) no_literal
  | _ =>
      rw [← same] at no_literal
      exact absurd (by simp [Form.kind, literalKinds]) no_literal

theorem isName_of_spelling? {axis : Axis} {word : Text}
    (spelled : axis.spelling? = some word) : IsName word := by
  cases axis <;> cases spelled <;> exact .mk rfl (List.all_eq_true.1 rfl)

/-- What begins with the separator is the separator. -/
theorem Shaped.separatorAhead_iff {text : Text} {form : Form}
    (shaped : Shaped text form) :
    SeparatorAhead text ↔ form = .symbol .doubleColon := by
  constructor
  · intro ahead
    rcases List.exists_cons_of_ne_nil shaped.ne_nil with ⟨first, rest, rfl⟩
    have no_blank : ¬ isBlank first = true := by
      rw [shaped.first_not_blank]
      exact Bool.false_ne_true
    rw [SeparatorAhead, List.dropWhile_cons_of_neg no_blank] at ahead
    rcases ahead with ⟨behind, whole⟩
    rw [List.cons_append, List.cons.injEq] at whole
    rcases whole with ⟨rfl, rfl⟩
    have other : ¬ IsQuote ':' := by
      rintro (quote | quote) <;> cases quote
    rcases shaped.of_other other rfl rfl with
      ⟨kind, listed, rfl⟩ | ⟨-, point, -⟩ | ⟨alone, -⟩
    · have separator :
          ∀ entry ∈ symbols,
            SeparatorAhead entry.1 → entry.2 = .doubleColon := by
        decide
      have begins : SeparatorAhead (':' :: ([':'] ++ behind)) :=
        ⟨behind, rfl⟩
      exact congrArg Form.symbol (separator _ listed begins)
    · cases point
    · cases alone
  · rintro rfl
    cases shaped with
    | symbol listed =>
        have separator :
            ∀ entry ∈ symbols,
              entry.2 = .doubleColon → SeparatorAhead entry.1 := by
          decide
        exact separator _ listed rfl

/-- What begins with an opening parenthesis is this parenthesis. -/
theorem Shaped.parenthesisFollows_iff {text : Text} {form : Form}
    (shaped : Shaped text form) :
    parenthesisFollows text = true ↔ form = .symbol .leftParen := by
  constructor
  · intro follows
    unfold parenthesisFollows at follows
    split at follows
    next rest =>
      have other : ¬ IsQuote '(' := by
        rintro (quote | quote) <;> cases quote
      rcases shaped.of_other other rfl rfl with
        ⟨kind, listed, rfl⟩ | ⟨-, point, -⟩ | ⟨-, lone, -⟩
      · have opening :
            ∀ entry ∈ symbols,
              parenthesisFollows entry.1 = true →
                entry.2 = .leftParen := by
          decide
        exact congrArg Form.symbol (opening _ listed rfl)
      · cases point
      · exact absurd (by decide) (lone.not_symbol .leftParen)
    next => cases follows
  · rintro rfl
    cases shaped with
    | symbol listed =>
        have opening :
            ∀ entry ∈ symbols,
              entry.2 = .leftParen → parenthesisFollows entry.1 = true := by
          decide
        exact opening _ listed rfl

/-- The form of the end is no lexeme. -/
theorem not_isLexeme_eofForm : ¬ IsLexeme Kind.eofForm := by
  rintro ⟨form, shaped⟩
  have other : ¬ IsQuote '<' := by
    rintro (quote | quote) <;> cases quote
  rcases shaped.of_other other rfl rfl with
    ⟨kind, listed, -⟩ | ⟨-, point, -⟩ | ⟨alone, -⟩
  · have unlisted : ∀ entry ∈ symbols, entry.1 ≠ Kind.eofForm := by
      decide
    exact unlisted _ listed rfl
  · cases point
  · cases alone

/-! ## What is written by kind -/

section

variable {kind : Kind} {text : Text} {payload : Payload}

namespace Literal

theorem kind_mem (literal : Literal kind text payload) :
    kind ∈ literalKinds := by
  cases literal <;> decide

theorem numeral (literal : Literal .number text payload) :
    IsNumeral text := by
  cases literal with
  | number numeric => exact numeric

/-- A string is its body between two quotes. -/
theorem exists_body (literal : Literal .string text payload) :
    ∃ quote body,
      IsQuote quote ∧ quote ∉ body ∧ payload = .string body ∧
        text = quote :: (body ++ [quote]) := by
  cases literal with
  | string quoting closed => exact ⟨_, _, quoting, closed, rfl, rfl⟩

/-- A name is its local part, behind its qualifier if it has one. -/
theorem exists_parts (literal : Literal .name text payload) :
    ∃ qualifier word callable,
      payload = .name qualifier word callable ∧
        (qualifier = [] → IsName word ∧ text = word) ∧
        (qualifier ≠ [] →
          IsName qualifier ∧ (IsName word ∨ word = ['*']) ∧
            text = qualifier ++ ':' :: word) := by
  cases literal with
  | word callable named =>
      refine ⟨[], text, callable, rfl, ?_, ?_⟩
      · intro _
        exact ⟨named, rfl⟩
      · intro filled
        exact absurd rfl filled
  | @qualified qualifier word callable named named_local =>
      refine ⟨qualifier, word, callable, rfl, ?_, ?_⟩
      · rintro rfl
        cases named
      · intro _
        exact ⟨named, named_local, rfl⟩

theorem exists_axis (literal : Literal .axis text payload) :
    ∃ axis ∈ Axis.named,
      payload = .axis axis ∧ axis.spelling? = some text := by
  cases literal with
  | axis spelled =>
      have listed := Axis.mem_named_iff.2 (Option.isSome_of_eq_some spelled)
      exact ⟨_, listed, rfl, spelled⟩

theorem exists_character (literal : Literal .unknown text payload) :
    ∃ character, isBlank character = false ∧ text = [character] := by
  cases literal with
  | stray not_blank => exact ⟨_, not_blank, rfl⟩

end Literal

namespace Written

theorem kind_ne_eof (written : Written kind text payload) :
    kind ≠ .eof := by
  cases written with
  | @operator operator => cases operator <;> decide
  | mark listed =>
      have apart : ∀ entry ∈ symbols, entry.2 ≠ .eof := by decide
      exact apart _ listed
  | literal literal =>
      rintro rfl
      exact absurd literal.kind_mem (by decide)

theorem kind_ne_unaryMinus (written : Written kind text payload) :
    kind ≠ .unaryMinus := by
  cases written with
  | @operator operator binary =>
      intro same
      have found := Operator.ofKind?_eq_some_iff.2 same
      exact binary (Option.some.inj found).symm
  | mark listed =>
      have apart : ∀ entry ∈ symbols, entry.2 ≠ .unaryMinus := by decide
      exact apart _ listed
  | literal literal =>
      rintro rfl
      exact absurd literal.kind_mem (by decide)

/-- Operators are written as their symbols. -/
theorem symbol_eq (written : Written kind text payload)
    (is_operator : kind.isOperator = true) :
    ∃ operator,
      kind.operator = .ok operator ∧ operator.symbol = text := by
  cases written with
  | @operator operator =>
      refine ⟨operator, ?_, rfl⟩
      rw [Kind.operator, Operator.ofKind?_eq_some_iff.2 rfl]
  | mark listed no_operator =>
      rw [no_operator] at is_operator
      cases is_operator
  | literal literal =>
      have apart : ∀ kind ∈ literalKinds, kind.isOperator = false := by
        decide
      rw [apart kind literal.kind_mem] at is_operator
      cases is_operator

/-- Kinds with a fixed form are written like it, save names and strings. -/
theorem form_eq (written : Written kind text payload)
    (no_name : kind ≠ .name) (no_string : kind ≠ .string) {form : Text}
    (fixed : kind.form = .ok form) :
    form = text := by
  cases written with
  | @operator operator => cases operator <;> cases fixed
  | mark listed =>
      have own :
          ∀ entry ∈ symbols,
            entry.2.form? = none ∨ entry.2.form? = some entry.1 := by
        decide
      rcases own _ listed with unfixed | own
      · rw [Kind.form, unfixed] at fixed
        cases fixed
      · rw [Kind.form, own] at fixed
        exact (Except.ok.inj fixed).symm
  | literal literal =>
      cases literal with
      | string => exact absurd rfl no_string
      | word => exact absurd rfl no_name
      | qualified => exact absurd rfl no_name
      | _ => cases fixed

/-- Neither operators nor marks are of a literal kind. -/
theorem literal_of_mem {kind' : Kind}
    (written : Written kind text payload)
    (member : kind' ∈ literalKinds) (same : kind = kind') :
    Literal kind' text payload := by
  subst same
  cases written with
  | @operator operator =>
      have apart : operator.kind ∉ literalKinds := by
        cases operator <;> decide
      exact absurd member apart
  | mark listed => exact absurd member (not_mem_literalKinds listed)
  | literal literal => exact literal

end Written

end

/-- An axis is a word that is spelled like one, with a separator ahead. -/
theorem Shaped.kind_eq_axis_iff (previous : Option Kind)
    {text behind : Text} {form : Form} (shaped : Shaped text form) :
    form.kind previous behind = .axis ↔
      (∃ axis : Axis, axis.spelling? = some text) ∧
        SeparatorAhead behind := by
  have word_of_spelled :
      (∃ axis : Axis, axis.spelling? = some text) →
        form = .word text ∧ Axis.ofSpelling text ≠ .unknown := by
    rintro ⟨axis, spelled⟩
    exact
      ⟨shaped.unique (.word (isName_of_spelling? spelled)),
        Axis.ofSpelling_ne_unknown_iff.2 ⟨axis, spelled⟩⟩
  constructor
  · intro kind
    have written := shaped.written previous behind
    have literal := written.literal_of_mem (by decide) kind
    rcases literal.exists_axis with ⟨axis, -, -, spelled⟩
    refine ⟨⟨axis, spelled⟩, ?_⟩
    by_contra absent
    rcases word_of_spelled ⟨axis, spelled⟩ with ⟨rfl, -⟩
    rw [Form.kind, if_neg fun both => absent both.2] at kind
    split at kind
    next operator found =>
      have listed := (symbol_of_wordOperator? found).1
      have apart : ∀ operator ∈ wordOperators, operator.kind ≠ .axis := by
        decide
      split at kind
      · cases kind
      · exact apart operator listed kind
    next => cases kind
  · rintro ⟨spelled, ahead⟩
    rcases word_of_spelled spelled with ⟨rfl, found⟩
    exact if_pos ⟨found, ahead⟩

end Lexeme

end XPathScan
