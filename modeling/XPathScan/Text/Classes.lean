/-!
# Character classes of expressions

Blanks separate lexemes, digits make numbers, and names are made of ASCII
letters, digits and a few marks.  Every class is a set of ASCII characters, so
any other character of an expression is a lexeme of its own.
-/

namespace XPathScan

/-- Space, tab, carriage return and line feed. -/
def isBlank (character : Char) : Bool :=
  character == ' ' || character == '\t' || character == '\r' ||
    character == '\n'

/-- The ten ASCII digits. -/
def isDigit (character : Char) : Bool :=
  '0' ≤ character && character ≤ '9'

/-- The characters that may begin a name: ASCII letters and the underscore. -/
def isNameStart (character : Char) : Bool :=
  ('a' ≤ character && character ≤ 'z') ||
    ('A' ≤ character && character ≤ 'Z') || character == '_'

/-- The characters that may go on in a name. -/
def isNameChar (character : Char) : Bool :=
  isNameStart character || isDigit character || character == '-' ||
    character == '.'

/-- A character that begins a name may also go on in one. -/
theorem isNameChar_of_isNameStart {character : Char}
    (start : isNameStart character) : isNameChar character := by
  simp [isNameChar, start]

end XPathScan
