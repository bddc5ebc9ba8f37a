import XPathScan.Operator

/-!
# Operand positions

A star is a name test where an operand must stand and a multiplication
elsewhere; likewise the words `or`, `and`, `div` and `mod` are names or
operators.  The kind of the lexeme just before decides which, and nothing else
does.
-/

namespace XPathScan

namespace Kind

/-- Whether an operand must follow a lexeme of this kind. -/
def opensOperand (kind : Kind) : Bool :=
  kind.isOperator ||
    match kind with
    | .unknown | .slash | .doubleSlash | .atSign | .doubleColon | .leftParen
    | .leftBracket | .comma | .dollar => true
    | _ => false

end Kind

/--
Whether the next lexeme stands where an operand must: at the front of the
expression, or behind a lexeme that an operand must follow.
-/
def expectsOperand : Option Kind → Bool
  | none => true
  | some previous => previous.opensOperand

/-- The operator that a word spells, in lower case only. -/
def keyword? : Text → Option Kind
  | ['o', 'r'] => some .or
  | ['a', 'n', 'd'] => some .and
  | ['d', 'i', 'v'] => some .divide
  | ['m', 'o', 'd'] => some .modulo
  | _ => none

/--
The operator that a star or an unqualified word would be where no operand is
expected.
-/
def operatorReading? (candidate : Kind) (word qualifier : Text) :
    Option Kind :=
  match candidate, qualifier with
  | .star, _ => some .multiply
  | .name, [] => keyword? word
  | _, _ => none

/--
Settle the kind of a lexeme by the kind of the lexeme before it: where no
operand is expected, the operator reading wins.
-/
def settle
    (candidate : Kind) (word qualifier : Text) (previous : Option Kind) :
    Kind :=
  if expectsOperand previous then
    candidate
  else
    (operatorReading? candidate word qualifier).getD candidate

/-- Only four words are operators. -/
theorem keyword?_cases {word : Text} {kind : Kind}
    (found : keyword? word = some kind) :
    kind = .or ∨ kind = .and ∨ kind = .divide ∨ kind = .modulo := by
  unfold keyword? at found
  split at found <;> simp_all

/-- The operator reading is one of five operators. -/
theorem operatorReading?_cases {candidate kind : Kind} {word qualifier : Text}
    (found : operatorReading? candidate word qualifier = some kind) :
    kind = .multiply ∨ kind = .or ∨ kind = .and ∨ kind = .divide ∨
      kind = .modulo := by
  unfold operatorReading? at found
  split at found
  · simp_all
  · exact Or.inr (keyword?_cases found)
  · simp at found

/-- Settling keeps a kind or makes it one of five operators. -/
theorem settle_cases
    (candidate : Kind) (word qualifier : Text) (previous : Option Kind) :
    settle candidate word qualifier previous = candidate ∨
      ∃ kind, operatorReading? candidate word qualifier = some kind ∧
        settle candidate word qualifier previous = kind := by
  unfold settle
  split
  · exact Or.inl rfl
  · cases found : operatorReading? candidate word qualifier with
    | none => exact Or.inl rfl
    | some kind => exact Or.inr ⟨kind, rfl, rfl⟩

/-- Settling never makes the end of the expression. -/
theorem settle_ne_eof
    {candidate : Kind} (word qualifier : Text) (previous : Option Kind)
    (inside : candidate ≠ .eof) :
    settle candidate word qualifier previous ≠ .eof := by
  rcases settle_cases candidate word qualifier previous with
    kept | ⟨kind, found, settled⟩
  · rw [kept]
    exact inside
  · rw [settled]
    rcases operatorReading?_cases found with
      rfl | rfl | rfl | rfl | rfl <;> decide

end XPathScan
