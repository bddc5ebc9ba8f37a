import XPathScan.Text.Basic

/-!
# Kinds of lexemes

Every lexeme of an expression has one of thirty-five kinds.  `label` is the
word for a kind in listings, and `form?` is the fixed form in which messages
show a kind, where it has one.  The labels of different kinds differ, so
`ofLabel?` finds a kind by its label.
-/

namespace XPathScan

/-- The kinds of lexemes. -/
inductive Kind
  | or
  | and
  | eq
  | ne
  | lt
  | le
  | gt
  | ge
  | plus
  | minus
  | multiply
  | divide
  | modulo
  | unaryMinus
  | union
  | doubleDot
  | doubleColon
  | doubleSlash
  | leftParen
  | rightParen
  | leftBracket
  | rightBracket
  | dot
  | atSign
  | comma
  | star
  | slash
  | dollar
  | rightBrace
  | number
  | string
  | name
  | axis
  | eof
  | unknown
  deriving DecidableEq

namespace Kind

/-- All kinds, operators first. -/
def all : List Kind :=
  [.or, .and, .eq, .ne, .lt, .le, .gt, .ge, .plus, .minus, .multiply, .divide,
    .modulo, .unaryMinus, .union, .doubleDot, .doubleColon, .doubleSlash,
    .leftParen, .rightParen, .leftBracket, .rightBracket, .dot, .atSign,
    .comma, .star, .slash, .dollar, .rightBrace, .number, .string, .name,
    .axis, .eof, .unknown]

/-- The word for a kind in listings. -/
def label : Kind → Text
  | .or => "Or".toList
  | .and => "And".toList
  | .eq => "Eq".toList
  | .ne => "Ne".toList
  | .lt => "Lt".toList
  | .le => "Le".toList
  | .gt => "Gt".toList
  | .ge => "Ge".toList
  | .plus => "Plus".toList
  | .minus => "Minus".toList
  | .multiply => "Multiply".toList
  | .divide => "Divide".toList
  | .modulo => "Modulo".toList
  | .unaryMinus => "UnaryMinus".toList
  | .union => "Union".toList
  | .doubleDot => "DoubleDot".toList
  | .doubleColon => "DoubleColon".toList
  | .doubleSlash => "DoubleSlash".toList
  | .leftParen => "LParens".toList
  | .rightParen => "RParens".toList
  | .leftBracket => "LBracket".toList
  | .rightBracket => "RBracket".toList
  | .dot => "Dot".toList
  | .atSign => "At".toList
  | .comma => "Comma".toList
  | .star => "Star".toList
  | .slash => "Slash".toList
  | .dollar => "Dollar".toList
  | .rightBrace => "RBrace".toList
  | .number => "Number".toList
  | .string => "String".toList
  | .name => "Name".toList
  | .axis => "Axis".toList
  | .eof => "Eof".toList
  | .unknown => "Unknown".toList

/-- The kind with a given label. -/
def ofLabel? (word : Text) : Option Kind :=
  all.find? fun kind => kind.label == word

/-- How the end of the expression is shown. -/
def eofForm : Text :=
  "<eof>".toList

/-- The fixed form in which messages show a kind, where it has one. -/
def form? : Kind → Option Text
  | .leftParen => some ['(']
  | .rightParen => some [')']
  | .leftBracket => some ['[']
  | .rightBracket => some [']']
  | .dot => some ['.']
  | .atSign => some ['@']
  | .comma => some [',']
  | .star => some ['*']
  | .slash => some ['/']
  | .dollar => some ['$']
  | .rightBrace => some ['}']
  | .name => some "<name>".toList
  | .string => some "<string literal>".toList
  | .eof => some eofForm
  | _ => none

theorem mem_all (kind : Kind) : kind ∈ all := by
  cases kind <;> decide

theorem ofLabel?_label (kind : Kind) : ofLabel? kind.label = some kind := by
  cases kind <;> decide

/-- Different kinds have different labels. -/
theorem label_injective {left right : Kind}
    (same : left.label = right.label) : left = right := by
  have found := ofLabel?_label left
  rw [same, ofLabel?_label right] at found
  exact (Option.some.inj found).symm

end Kind

end XPathScan
