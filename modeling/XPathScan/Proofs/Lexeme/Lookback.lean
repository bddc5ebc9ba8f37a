import XPathScan.Proofs.Lexeme.Munch

/-!
# Lexemes that depend on the one before them

A star and four words are read as operators or not, and nothing but the kind
of the lexeme before them decides which.  `OperandExpecting` lists the kinds
behind which an operand must stand.  What is taken off a text is one of the
five operators only if it is a star or one of the four words, whatever stands
behind it.
-/

namespace XPathScan

/-- The kinds besides operators behind which an operand must stand. -/
def operandOpeners : List Kind :=
  [.unknown, .slash, .doubleSlash, .atSign, .doubleColon, .leftParen,
    .leftBracket, .comma, .dollar]

/-- An operand must stand at the front, behind operators and openers. -/
inductive OperandExpecting : Option Kind → Prop
  | front : OperandExpecting none
  | operator (operator : Operator) :
      OperandExpecting (some operator.kind)
  | opener {kind : Kind} (listed : kind ∈ operandOpeners) :
      OperandExpecting (some kind)

theorem expectsOperand_iff (previous : Option Kind) :
    expectsOperand previous = true ↔ OperandExpecting previous := by
  constructor
  · intro expected
    cases previous with
    | none => exact .front
    | some kind =>
        by_cases listed : kind ∈ operandOpeners
        · exact .opener listed
        · have operator : kind.isOperator = true := by
            revert expected listed
            cases kind <;> decide
          rw [Kind.isOperator_eq_isSome] at operator
          rcases Option.isSome_iff_exists.1 operator with
            ⟨operator, found⟩
          rw [← Operator.ofKind?_eq_some_iff.1 found]
          exact .operator operator
  · intro expecting
    cases expecting with
    | front => rfl
    | operator operator => cases operator <;> rfl
    | @opener kind listed =>
        revert listed
        cases kind <;> decide

/-- The operators that stars and words may be read as. -/
def operatorReadings : List Kind :=
  [.multiply, .or, .and, .divide, .modulo]

namespace Lexeme

theorem isName_symbol {operator : Operator}
    (listed : operator ∈ wordOperators) :
    IsName operator.symbol := by
  have spelled :
      ∀ operator ∈ wordOperators,
        (operator.symbol.head?.any isNameStart &&
          operator.symbol.all isNameChar) = true := by
    decide
  have classed := spelled operator listed
  rw [Bool.and_eq_true, List.all_eq_true] at classed
  cases symbol : operator.symbol with
  | nil =>
      rw [symbol] at classed
      cases classed.1
  | cons first rest =>
      rw [symbol] at classed
      exact
        .mk classed.1 fun character member =>
          classed.2 character (List.mem_cons_of_mem first member)

theorem not_axis_of_mem_wordOperators {operator : Operator}
    (listed : operator ∈ wordOperators) :
    Axis.ofSpelling operator.symbol = .unknown := by
  revert listed
  cases operator <;> decide

theorem wordOperator?_symbol {operator : Operator}
    (listed : operator ∈ wordOperators) :
    wordOperator? operator.symbol = some operator := by
  revert listed
  cases operator <;> decide

theorem symbol_of_wordOperator? {word : Text} {operator : Operator}
    (found : wordOperator? word = some operator) :
    operator ∈ wordOperators ∧ operator.symbol = word := by
  have spelled := List.find?_some found
  rw [beq_iff_eq] at spelled
  exact ⟨List.mem_of_find?_eq_some found, spelled⟩

namespace Munch

variable {previous : Option Kind} {unread text : Text}
  {result : Except Fault Kind}

theorem star (munch : Munch previous unread ['*'] result) :
    remembered result =
      if expectsOperand previous then .star else .multiply := by
  have shaped : Shaped ['*'] (.symbol .star) := .symbol (by decide)
  rcases munch.ok_of_shaped shaped with ⟨behind, -, rfl⟩
  rw [remembered, Form.kind]
  cases expectsOperand previous <;> rfl

theorem word {operator : Operator}
    (listed : operator ∈ wordOperators)
    (munch : Munch previous unread operator.symbol result) :
    remembered result =
      if expectsOperand previous then .name else operator.kind := by
  have shaped : Shaped operator.symbol (.word operator.symbol) :=
    .word (isName_symbol listed)
  rcases munch.ok_of_shaped shaped with ⟨behind, -, rfl⟩
  have no_axis :
      ¬ (Axis.ofSpelling operator.symbol ≠ .unknown ∧
        SeparatorAhead behind) :=
    fun both => both.1 (not_axis_of_mem_wordOperators listed)
  rw [remembered, Form.kind, if_neg no_axis, wordOperator?_symbol listed]

theorem qualified {qualifier localPart : Text}
    (named : IsName qualifier)
    (named_local : IsName localPart ∨ localPart = ['*'])
    (munch : Munch previous unread (qualifier ++ ':' :: localPart) result) :
    remembered result = .name := by
  rcases munch.ok_of_shaped (.qualified named named_local) with
    ⟨behind, -, rfl⟩
  rfl

/-- Nothing else is read as a star or as one of the five operators. -/
theorem of_reading
    (munch : Munch previous unread text result)
    (reading : remembered result ∈ .star :: operatorReadings) :
    text = ['*'] ∨
      ∃ operator ∈ wordOperators, text = operator.symbol := by
  cases munch with
  | eof ended => exact absurd reading (by decide)
  | unclosed opens quoting absent => exact absurd reading (by decide)
  | scientific longest shaped follows marked whole =>
      exact absurd reading (by decide)
  | lexeme longest shaped follows unmarked =>
      rw [remembered] at reading
      cases shaped with
      | @symbol _ kind listed =>
          have only_star :
              ∀ entry ∈ symbols,
                entry.2 ∈ Kind.star :: operatorReadings →
                  entry.1 = ['*'] := by
            decide
          left
          apply only_star _ listed
          rw [Form.kind] at reading
          split at reading
          next star =>
            rw [star.1]
            exact List.mem_cons_self
          next => exact reading
      | number numeric =>
          change Kind.number ∈ Kind.star :: operatorReadings at reading
          exact absurd reading (by decide)
      | string quoting closed =>
          change Kind.string ∈ Kind.star :: operatorReadings at reading
          exact absurd reading (by decide)
      | word named =>
          rw [Form.kind] at reading
          split at reading
          next => exact absurd reading (by decide)
          next =>
            split at reading
            next operator found =>
              rcases symbol_of_wordOperator? found with ⟨listed, same⟩
              exact Or.inr ⟨operator, listed, same.symm⟩
            next => exact absurd reading (by decide)
      | qualified named named_local =>
          change Kind.name ∈ Kind.star :: operatorReadings at reading
          exact absurd reading (by decide)
      | stray lone =>
          change Kind.unknown ∈ Kind.star :: operatorReadings at reading
          exact absurd reading (by decide)

end Munch

/-! ## Reading looks back no further -/

section

variable {previous previous' : Option Kind}

theorem settle_congr
    (same : expectsOperand previous = expectsOperand previous')
    (candidate : Kind) (word qualifier : Text) :
    settle candidate word qualifier previous =
      settle candidate word qualifier previous' := by
  rw [settle, settle, same]

theorem ofName_congr
    (same : expectsOperand previous = expectsOperand previous')
    (qualifier word text behind : Text) :
    ofName previous qualifier word text behind =
      ofName previous' qualifier word text behind := by
  rw [ofName, ofName, settle_congr same]

theorem readName_congr
    (same : expectsOperand previous = expectsOperand previous')
    (unread : Text) :
    readName previous unread = readName previous' unread := by
  cases found : splitLocalPart? (unread.dropWhile isNameChar) with
  | none =>
      rw [readName_of_none _ found, readName_of_none _ found, ofWord,
        ofWord, ofName_congr same]
  | some taken =>
      rw [readName_of_some _ found, readName_of_some _ found, ofQualified,
        ofQualified, ofName_congr same]

theorem readSymbol_congr
    (same : expectsOperand previous = expectsOperand previous')
    (first : Char) (behind : Text) :
    readSymbol previous first behind =
      readSymbol previous' first behind := by
  have single : ofSingle previous first = ofSingle previous' first := by
    rw [ofSingle, ofSingle, settle_congr same]
  unfold readSymbol
  rw [single]

/-- All that reading asks of the lexeme before is whether to expect an operand. -/
theorem read_congr
    (same : expectsOperand previous = expectsOperand previous')
    (unread : Text) :
    read previous unread = read previous' unread := by
  cases unread with
  | nil => rfl
  | cons first behind =>
      rw [read, read, readName_congr same, readSymbol_congr same]

end

end Lexeme

end XPathScan
