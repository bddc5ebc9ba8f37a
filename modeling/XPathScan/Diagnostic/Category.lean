import XPathScan.Text.Basic

/-!
# Categories of diagnostics

Every diagnostic belongs to one of eight categories, each with a name and a
numbered code.  Two of them arise while lexemes are read.
-/

namespace XPathScan

/-- What kind of mistake a diagnostic reports. -/
inductive Category
  | unexpectedToken
  | nodeTestExpected
  | predicateAfterDot
  | predicateAfterDotDot
  | scientificNotation
  | unclosedString
  | endExpected
  | tokenExpected
  deriving DecidableEq

namespace Category

/-- The categories in the order of their codes. -/
def all : List Category :=
  [unexpectedToken, nodeTestExpected, predicateAfterDot, predicateAfterDotDot,
    scientificNotation, unclosedString, endExpected, tokenExpected]

/-- The name of a category. -/
def name : Category → Text
  | unexpectedToken => "unexpected_token".toList
  | nodeTestExpected => "node_test_expected".toList
  | predicateAfterDot => "predicate_after_dot".toList
  | predicateAfterDotDot => "predicate_after_dot_dot".toList
  | scientificNotation => "scientific_notation".toList
  | unclosedString => "unclosed_string".toList
  | endExpected => "eof_expected".toList
  | tokenExpected => "token_expected".toList

/-- The numbered code of a category. -/
def code : Category → Text
  | unexpectedToken => "XP0001".toList
  | nodeTestExpected => "XP0002".toList
  | predicateAfterDot => "XP0003".toList
  | predicateAfterDotDot => "XP0004".toList
  | scientificNotation => "XP0005".toList
  | unclosedString => "XP0006".toList
  | endExpected => "XP0007".toList
  | tokenExpected => "XP0008".toList

/-- Whether mistakes of this category are found while lexemes are read. -/
def isLexical : Category → Bool
  | scientificNotation | unclosedString => true
  | _ => false

/-- A category is written as its name with the code in brackets. -/
def display (category : Category) : Text :=
  category.name ++ '[' :: category.code ++ [']']

/-- The category with a given name. -/
def ofName? (word : Text) : Option Category :=
  all.find? fun category => category.name == word

theorem ofName?_name (category : Category) :
    ofName? category.name = some category := by
  cases category <;> decide

end Category

end XPathScan
