import XPathScan.Lexeme
import XPathScan.Text.Quoted

/-!
# Tokens

A token is a lexeme together with its place in the expression, ready to be
kept or listed.  `Misuse` names the questions that a lexeme of another kind has
no answer to.
-/

namespace XPathScan

/-- A lexeme with its place in the expression. -/
structure Token where
  kind : Kind
  span : Span
  /-- The characters of the lexeme, or the form of the end. -/
  text : Text
  payload : Payload
  deriving DecidableEq

namespace Token

/-- The local name of a name. -/
def name? (token : Token) : Option Text :=
  match token.payload with
  | .name _ word _ => some word
  | _ => none

/-- The qualifier of a name; empty if the name has none. -/
def qualifier? (token : Token) : Option Text :=
  match token.payload with
  | .name qualifier _ _ => some qualifier
  | _ => none

/-- The body of a string. -/
def body? (token : Token) : Option Text :=
  match token.payload with
  | .string body => some body
  | _ => none

/-- The axis that a word names. -/
def axis? (token : Token) : Option Axis :=
  match token.payload with
  | .axis axis => some axis
  | _ => none

/--
What a listing shows of a token between parentheses: the parts of a qualified
name, the body of a string, the word for an axis, and else the text.  There is
nothing to show of the end.
-/
def detail? (token : Token) : Option Text :=
  match token.payload with
  | .name (first :: qualifier) word _ =>
      some (first :: qualifier ++ ':' :: word)
  | .string body => some body.quote
  | .axis axis => some (axis.spelling?.getD ['?'])
  | _ => if token.kind = .eof then none else some token.text

/-- A token is written as its label with its detail in parentheses. -/
def display (token : Token) : Text :=
  match token.detail? with
  | some detail => token.kind.label ++ '(' :: detail ++ [')']
  | none => token.kind.label

end Token

/-- A question that a lexeme of the given kind has no answer to. -/
inductive Misuse
  | notAnAxis
  | notAName
  | notAString
  | noFixedForm
  | notAnOperator
  deriving DecidableEq

/-- The wording of a misuse. -/
def Misuse.message (misuse : Misuse) : Text :=
  "invalid usage: ".toList ++
    match misuse with
    | notAnAxis => "not an axis".toList
    | notAName => "not a name".toList
    | notAString => "not a string value".toList
    | noFixedForm => "token kind has no fixed display form".toList
    | notAnOperator => "token kind is not an operator".toList

namespace Kind

/-- The fixed form of a kind, or a misuse if it has none. -/
def form (kind : Kind) : Except Misuse Text :=
  match kind.form? with
  | some form => .ok form
  | none => .error .noFixedForm

/-- The operator that a kind stands for, or a misuse if it is none. -/
def operator (kind : Kind) : Except Misuse Operator :=
  match Operator.ofKind? kind with
  | some operator => .ok operator
  | none => .error .notAnOperator

end Kind

end XPathScan
