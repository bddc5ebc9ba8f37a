import XPathScan.Text.Basic
import XPathScan.Text.Hidden

/-!
# Quoted text

A text is quoted on one line between double quotes.  A backslash introduces
the few characters with a letter of their own, a quote and a backslash; hidden
characters are given by number in braces.
-/

namespace XPathScan

namespace Text

/-- The hexadecimal digits of a number, in lower case. -/
def hexadecimal (number : Nat) : Text :=
  Nat.toDigits 16 number

/-- A hidden character by number. -/
def numbered (character : Char) : Text :=
  '\\' :: 'u' :: '{' :: hexadecimal character.toNat ++ ['}']

/-- One character between quotes. -/
def quoteChar (character : Char) : Text :=
  match character with
  | '\x00' => ['\\', '0']
  | '\t' => ['\\', 't']
  | '\r' => ['\\', 'r']
  | '\n' => ['\\', 'n']
  | '"' => ['\\', '"']
  | '\\' => ['\\', '\\']
  | other => if isHidden other then numbered other else [other]

/-- A text between quotes, with the quotes. -/
def quote (text : Text) : Text :=
  '"' :: text.flatMap quoteChar ++ ['"']

end Text

end XPathScan
