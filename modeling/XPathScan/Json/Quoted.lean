import XPathScan.Text.Basic

/-!
# Quoted text in JSON

JSON puts a text between double quotes.  A quote and a backslash are preceded
by a backslash, five controls have a letter, and the other controls below
U+0020 are given by four hexadecimal digits.  Every other character stands for
itself.
-/

namespace XPathScan

namespace Json

/-- The four hexadecimal digits of a small number, in lower case. -/
def fourDigits (number : Nat) : Text :=
  (Nat.toDigits 16 number).leftpad 4 '0'

/-- One character between quotes. -/
def quoteChar (character : Char) : Text :=
  match character with
  | '"' => ['\\', '"']
  | '\\' => ['\\', '\\']
  | '\x08' => ['\\', 'b']
  | '\x0c' => ['\\', 'f']
  | '\n' => ['\\', 'n']
  | '\r' => ['\\', 'r']
  | '\t' => ['\\', 't']
  | other =>
      if other.toNat < 0x20 then
        '\\' :: 'u' :: fourDigits other.toNat
      else
        [other]

/-- A text between quotes, with the quotes. -/
def quote (text : Text) : Text :=
  '"' :: text.flatMap quoteChar ++ ['"']

end Json

end XPathScan
