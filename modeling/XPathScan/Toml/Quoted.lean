import XPathScan.Toml.Layout

/-!
# Strings of TOML documents

Basic strings stand between double quotes and have escapes; literal strings
stand between single quotes and have none.  Three quotes open a string that may
run over several lines: its first line end is dropped if nothing stands before
it, every other line end is read as a line feed, and one or two quotes may
stand inside or in front of the closing three.
-/

namespace XPathScan

namespace Toml

/-- The value of a hexadecimal digit. -/
def hexValue? (digit : Char) : Option Nat :=
  if '0' ≤ digit ∧ digit ≤ '9' then
    some (digit.toNat - '0'.toNat)
  else if 'a' ≤ digit ∧ digit ≤ 'f' then
    some (digit.toNat - 'a'.toNat + 10)
  else if 'A' ≤ digit ∧ digit ≤ 'F' then
    some (digit.toNat - 'A'.toNat + 10)
  else
    none

/-- The number that hexadecimal digits spell. -/
def hexNumber? (digits : Text) : Option Nat :=
  digits.foldlM (fun number digit =>
    (hexValue? digit).map (16 * number + ·)) 0

/-- The character with a number, if it has one. -/
def charOfNat? (number : Nat) : Option Char :=
  if number.isValidChar then some (Char.ofNat number) else none

/-- Take off a fixed number of hexadecimal digits that name a character. -/
def readNumbered (count : Nat) : Reader Char := fun unread =>
  if unread.length < count then
    none
  else
    ((hexNumber? (unread.take count)).bind charOfNat?).map
      (·, unread.drop count)

/-- Take off what follows the backslash of an escape. -/
def readEscape : Reader Char
  | 'b' :: rest => some ('\x08', rest)
  | 't' :: rest => some ('\t', rest)
  | 'n' :: rest => some ('\n', rest)
  | 'f' :: rest => some ('\x0c', rest)
  | 'r' :: rest => some ('\r', rest)
  | '"' :: rest => some ('"', rest)
  | '\\' :: rest => some ('\\', rest)
  | 'u' :: rest => readNumbered 4 rest
  | 'U' :: rest => readNumbered 8 rest
  | _ => none

/-- How a string is delimited. -/
structure Style where
  /-- The quote that opens and closes the string. -/
  quote : Char
  /-- Whether three quotes delimit the string, which may then have lines. -/
  multiline : Bool
  deriving DecidableEq

/-- Whether backslashes introduce escapes. -/
def Style.hasEscapes (style : Style) : Bool :=
  style.quote == '"'

/--
The quotes that belong to a string and the text behind it, if the closing
delimiter is reached.
-/
def closing? (style : Style) (unread : Text) : Option (Text × Text) :=
  let quotes := (unread.takeWhile (· == style.quote)).length
  if style.multiline then
    if quotes < 3 then
      none
    else
      let inside := min (quotes - 3) 2
      some (List.replicate inside style.quote, unread.drop (inside + 3))
  else if quotes = 0 then
    none
  else
    some ([], unread.drop 1)

/-- Whether a line ends here, blanks aside. -/
def endsLine (unread : Text) : Bool :=
  (newline? (skipBlanks unread)).isSome

/-- Pass over blanks and line ends. -/
def skipLines : Text → Text
  | [] => []
  | '\r' :: '\n' :: rest => skipLines rest
  | first :: rest =>
      if isBlank first || first == '\n' then
        skipLines rest
      else
        first :: rest

/--
Take off one step of a body: a character, a line end, an escape, or nothing
for a backslash that joins lines.
-/
def readPiece (style : Style) : Reader Text
  | [] => none
  | '\\' :: rest =>
      if ¬style.hasEscapes then
        some (['\\'], rest)
      else if style.multiline ∧ endsLine rest then
        some ([], skipLines rest)
      else
        (readEscape rest).map fun (character, behind) => ([character], behind)
  | first :: rest =>
      if isPlain first then
        some ([first], rest)
      else if style.multiline then
        (newline? (first :: rest)).map (['\n'], ·)
      else
        none

/-- Read a body up to its closing delimiter in at most `steps` steps. -/
def readBody (style : Style) : Nat → Reader Text
  | 0, _ => none
  | steps + 1, unread =>
      match closing? style unread with
      | some (quotes, rest) => some (quotes, rest)
      | none => do
          let (piece, behind) ← readPiece style unread
          let (body, rest) ← readBody style steps behind
          return (piece ++ body, rest)

/-- Read a string behind its opening delimiter. -/
def readDelimited (style : Style) (unread : Text) : Option (Text × Text) :=
  let body :=
    if style.multiline then (newline? unread).getD unread else unread
  readBody style (body.length + 1) body

/-- Read a string on one line. -/
def readLineString : Reader Text
  | '"' :: rest => readDelimited ⟨'"', false⟩ rest
  | '\'' :: rest => readDelimited ⟨'\'', false⟩ rest
  | _ => none

/-- Read a string of either style. -/
def readString : Reader Text
  | '"' :: '"' :: '"' :: rest => readDelimited ⟨'"', true⟩ rest
  | '\'' :: '\'' :: '\'' :: rest => readDelimited ⟨'\'', true⟩ rest
  | unread => readLineString unread

end Toml

end XPathScan
