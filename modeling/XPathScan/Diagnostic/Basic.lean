import XPathScan.Diagnostic.Category
import XPathScan.Diagnostic.Context

/-!
# Diagnostics

A diagnostic says what is wrong with an expression and where: a complaint, the
whole expression, and the span of the offending lexeme.  Complaints are causes;
their wording is in `Complaint.message`, and `Diagnostic.report` adds the
context of the span.
-/

namespace XPathScan

/-- What may be wrong with an expression. -/
inductive Complaint
  | unexpectedToken (found : Text)
  | nodeTestExpected (found : Text)
  | predicateAfterDot
  | predicateAfterDotDot
  | scientificNotation
  | unclosedString
  | endExpected (found : Text)
  | tokenExpected (expected found : Text)
  | custom (category : Category) (message : Text)
  deriving DecidableEq

namespace Complaint

/-- The category of a complaint. -/
def category : Complaint → Category
  | unexpectedToken _ => .unexpectedToken
  | nodeTestExpected _ => .nodeTestExpected
  | predicateAfterDot => .predicateAfterDot
  | predicateAfterDotDot => .predicateAfterDotDot
  | scientificNotation => .scientificNotation
  | unclosedString => .unclosedString
  | endExpected _ => .endExpected
  | tokenExpected _ _ => .tokenExpected
  | custom category _ => category

/-- The wording of a complaint. -/
def message : Complaint → Text
  | unexpectedToken found =>
      "Unexpected token '".toList ++ found ++ "' in the expression.".toList
  | nodeTestExpected found =>
      "Expected a node test, found '".toList ++ found ++ "'.".toList
  | predicateAfterDot =>
      "Abbreviated step '.' cannot be followed by a predicate. ".toList ++
        "Use the full form 'self::node()[predicate]' instead.".toList
  | predicateAfterDotDot =>
      "Abbreviated step '..' cannot be followed by a predicate. ".toList ++
        "Use the full form 'parent::node()[predicate]' instead.".toList
  | scientificNotation => "Scientific notation is not allowed.".toList
  | unclosedString => "String literal was not closed.".toList
  | endExpected found =>
      "Expected end of the expression, found '".toList ++ found ++ "'.".toList
  | tokenExpected expected found =>
      "Expected token '".toList ++ expected ++ "', found '".toList ++ found ++
        "'.".toList
  | custom _ message => message

end Complaint

/-- A complaint about a part of an expression. -/
structure Diagnostic where
  /-- What is wrong. -/
  complaint : Complaint
  /-- The whole expression. -/
  source : Text
  /-- The part of the expression that is wrong. -/
  span : Span
  deriving DecidableEq

namespace Diagnostic

/-- The category of a diagnostic. -/
def category (diagnostic : Diagnostic) : Category :=
  diagnostic.complaint.category

/-- The bare message of a diagnostic. -/
def message (diagnostic : Diagnostic) : Text :=
  diagnostic.complaint.message

/-- Where in the expression the mistake lies. -/
def context (diagnostic : Diagnostic) : Text :=
  renderContext diagnostic.source diagnostic.span

/-- The message with the context on a line of its own, where there is one. -/
def report (diagnostic : Diagnostic) : Text :=
  match diagnostic.context, diagnostic.message with
  | [], message => message
  | context, [] => context
  | context, message => message ++ '\n' :: context

end Diagnostic

/-- A place in an expression to which complaints can be attached. -/
structure Anchor where
  /-- The whole expression. -/
  source : Text
  /-- The part of the expression meant. -/
  span : Span
  deriving DecidableEq

/--
The diagnostic for a complaint about an anchored place.  Its span is clamped
to the expression.
-/
def Anchor.complain (anchor : Anchor) (complaint : Complaint) : Diagnostic :=
  ⟨complaint, anchor.source, anchor.span.clampTo anchor.source.size⟩

end XPathScan
