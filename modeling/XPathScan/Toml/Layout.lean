import XPathScan.Text.Basic

/-!
# Layout of TOML documents

Blanks, line ends and comments.  A line end is a line feed, alone or behind a
carriage return; a carriage return alone is none.  Comments run up to the line
end and hold no controls but the tab.  Readers take the unread text and give
back what they leave of it.
-/

namespace XPathScan

namespace Toml

/-- A reader takes something off a text, or refuses the text. -/
abbrev Reader (α : Type) := Text → Option (α × Text)

/-- The blanks of a line: space and tab. -/
def isBlank (character : Char) : Bool :=
  character == ' ' || character == '\t'

/-- The characters that stand for themselves in strings and comments. -/
def isPlain (character : Char) : Bool :=
  character == '\t' ||
    (0x20 ≤ character.toNat && character.toNat != 0x7f)

/-- Pass over the blanks of a line. -/
def skipBlanks (unread : Text) : Text :=
  unread.dropWhile isBlank

/-- Take off one line end. -/
def newline? : Text → Option Text
  | '\n' :: rest => some rest
  | '\r' :: '\n' :: rest => some rest
  | _ => none

/-- Take off one line end, or stay at the end of the document. -/
def lineEnd? : Text → Option Text
  | [] => some []
  | unread => newline? unread

/-- Pass over a comment, if one begins here. -/
def skipComment : Text → Text
  | '#' :: rest => rest.dropWhile isPlain
  | unread => unread

/-- Take off the rest of a line that holds nothing more but a comment. -/
def restOfLine? (unread : Text) : Option Text :=
  lineEnd? (skipComment (skipBlanks unread))

/-- Take off one expected character. -/
def expect? (expected : Char) : Text → Option Text
  | first :: rest => if first = expected then some rest else none
  | [] => none

/--
Pass over blanks, line ends and comments.  The flag tells whether the text
begins inside a comment.
-/
def skipSpace : Bool → Text → Text
  | _, [] => []
  | _, '\n' :: rest => skipSpace false rest
  | _, '\r' :: rest =>
      match rest with
      | '\n' :: _ => skipSpace false rest
      | _ => '\r' :: rest
  | true, first :: rest =>
      if isPlain first then skipSpace true rest else first :: rest
  | false, first :: rest =>
      if isBlank first then
        skipSpace false rest
      else if first = '#' then
        skipSpace true rest
      else
        first :: rest

end Toml

end XPathScan
