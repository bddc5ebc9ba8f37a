import XPathScan.Kind

/-!
# Operators

The fifteen operators of expressions, each with its symbol and its kind of
lexeme.  `ofKind?` is the partial inverse of `kind`, and `Kind.isOperator` lists
the kinds for which it has an answer.
-/

namespace XPathScan

/-- The operators of expressions. -/
inductive Operator
  | or
  | and
  | eq
  | ne
  | lt
  | le
  | gt
  | ge
  | plus
  | minus
  | multiply
  | divide
  | modulo
  | unaryMinus
  | union
  deriving DecidableEq

namespace Operator

/-- The kind of the lexeme for an operator. -/
def kind : Operator → Kind
  | .or => .or
  | .and => .and
  | .eq => .eq
  | .ne => .ne
  | .lt => .lt
  | .le => .le
  | .gt => .gt
  | .ge => .ge
  | .plus => .plus
  | .minus => .minus
  | .multiply => .multiply
  | .divide => .divide
  | .modulo => .modulo
  | .unaryMinus => .unaryMinus
  | .union => .union

/-- How an operator is written in an expression. -/
def symbol : Operator → Text
  | .or => ['o', 'r']
  | .and => ['a', 'n', 'd']
  | .eq => ['=']
  | .ne => ['!', '=']
  | .lt => ['<']
  | .le => ['<', '=']
  | .gt => ['>']
  | .ge => ['>', '=']
  | .plus => ['+']
  | .minus => ['-']
  | .multiply => ['*']
  | .divide => ['d', 'i', 'v']
  | .modulo => ['m', 'o', 'd']
  | .unaryMinus => ['-']
  | .union => ['|']

/-- The operator that a kind of lexeme stands for. -/
def ofKind? : Kind → Option Operator
  | .or => some .or
  | .and => some .and
  | .eq => some .eq
  | .ne => some .ne
  | .lt => some .lt
  | .le => some .le
  | .gt => some .gt
  | .ge => some .ge
  | .plus => some .plus
  | .minus => some .minus
  | .multiply => some .multiply
  | .divide => some .divide
  | .modulo => some .modulo
  | .unaryMinus => some .unaryMinus
  | .union => some .union
  | _ => none

theorem ofKind?_eq_some_iff {kind : Kind} {operator : Operator} :
    ofKind? kind = some operator ↔ operator.kind = kind := by
  constructor
  · intro found
    cases kind <;> cases found <;> rfl
  · rintro rfl
    cases operator <;> rfl

end Operator

/-- Whether a kind of lexeme is one of the fifteen operators. -/
def Kind.isOperator : Kind → Bool
  | .or | .and | .eq | .ne | .lt | .le | .gt | .ge | .plus | .minus
  | .multiply | .divide | .modulo | .unaryMinus | .union => true
  | _ => false

/-- The kinds that are operators are those that stand for one. -/
theorem Kind.isOperator_eq_isSome (kind : Kind) :
    kind.isOperator = (Operator.ofKind? kind).isSome := by
  cases kind <;> rfl

end XPathScan
