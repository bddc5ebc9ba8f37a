import XPathScan.Text.Basic
import XPathScan.Text.Classes

/-!
# Reading JSON

A document is read by the grammar of JSON: a value with blanks around it.
Readers take something off the front of a text and leave the rest; they refuse a
text that does not begin with what they read.  A number is given as it is
written, and the fields of an object in their order.  No reader goes deeper than
it is told to, which a text that is long enough for its levels never notices.
-/

namespace XPathScan

namespace Json

/-- What a document says. -/
inductive Value
  | null
  | flag (holds : Bool)
  | number (literal : Text)
  | text (content : Text)
  | array (members : List Value)
  | object (fields : List (Text × Value))

/-- What is taken off the front of a text, with the rest of the text. -/
abbrev Reader (α : Type) := Text → Option (α × Text)

/-- What is left of a text behind the blanks in front. -/
def skip (text : Text) : Text :=
  text.dropWhile isBlank

/-- One more item in front of those that have been read. -/
def prepend {α : Type} (item : α) (found : Option (List α × Text)) :
    Option (List α × Text) :=
  found.map fun (items, rest) => (item :: items, rest)

/-! ## Strings -/

/-- The letters that follow a backslash, with what they stand for. -/
def escapes : List (Char × Char) :=
  [('"', '"'), ('\\', '\\'), ('/', '/'), ('b', '\x08'), ('f', '\x0c'),
    ('n', '\n'), ('r', '\r'), ('t', '\t')]

/-- The value of a hexadecimal digit in upper or lower case. -/
def hexDigit? (character : Char) : Option Nat :=
  let place := "0123456789abcdef".toList.idxOf character.toLower
  if place < 16 then some place else none

/-- Read four hexadecimal digits. -/
def readUnit : Reader Nat
  | first :: second :: third :: fourth :: rest =>
      ([first, second, third, fourth].mapM hexDigit?).map fun digits =>
        (digits.foldl (fun unit digit => 16 * unit + digit) 0, rest)
  | _ => none

/-- Whether a unit is the first of the two that stand for one character. -/
def isLeading (unit : Nat) : Bool :=
  0xd800 ≤ unit && unit < 0xdc00

/-- Whether a unit is the second of the two that stand for one character. -/
def isTrailing (unit : Nat) : Bool :=
  0xdc00 ≤ unit && unit < 0xe000

/-- Read a character that is given by one unit or by two of them. -/
def readNumbered (text : Text) : Option (Char × Text) :=
  (readUnit text).bind fun (unit, rest) =>
    if isTrailing unit then
      none
    else if isLeading unit then
      match rest with
      | '\\' :: 'u' :: behind =>
          (readUnit behind).bind fun (second, rest) =>
            if isTrailing second then
              let code :=
                0x10000 + 0x400 * (unit - 0xd800) + (second - 0xdc00)
              some (Char.ofNat code, rest)
            else
              none
      | _ => none
    else
      some (Char.ofNat unit, rest)

/-- Read what follows a backslash. -/
def readEscape : Reader Char
  | 'u' :: rest => readNumbered rest
  | letter :: rest =>
      (escapes.lookup letter).map fun character => (character, rest)
  | [] => none

/-- Whether a character never stands for itself between quotes. -/
def isControl (character : Char) : Bool :=
  character.toNat < 0x20

/-- Read what stands behind an opening quote, with the closing quote. -/
def readBody (text : Text) : Option (Text × Text) :=
  match text with
  | [] => none
  | '"' :: rest => some ([], rest)
  | '\\' :: escape =>
      match readEscape escape with
      | none => none
      | some (character, rest) =>
          if rest.length ≤ escape.length then
            prepend character (readBody rest)
          else
            none
  | character :: rest =>
      if isControl character then
        none
      else
        prepend character (readBody rest)
termination_by text.length
decreasing_by
  · exact Nat.lt_succ_of_le ‹_›
  · exact Nat.lt_succ_self _

/-! ## Numbers -/

/-- Read digits, as many as there are and at least one. -/
def readDigits (text : Text) : Option (Text × Text) :=
  match text.takeWhile isDigit with
  | [] => none
  | digits => some (digits, text.dropWhile isDigit)

/-- Read one of some signs, which may be left out. -/
def readSign (signs : List Char) : Reader Text
  | [] => some ([], [])
  | sign :: rest =>
      if sign ∈ signs then some ([sign], rest) else some ([], sign :: rest)

/-- Read a whole number, which has no zero in front of other digits. -/
def readWhole : Reader Text
  | '0' :: rest => some (['0'], rest)
  | text => readDigits text

/-- Read a fraction, which may be left out. -/
def readFraction : Reader Text
  | '.' :: rest =>
      (readDigits rest).map fun (digits, rest) => ('.' :: digits, rest)
  | text => some ([], text)

/-- Read an exponent, which may be left out. -/
def readExponent : Reader Text
  | [] => some ([], [])
  | mark :: rest =>
      if mark = 'e' ∨ mark = 'E' then do
        let (sign, rest) ← readSign ['+', '-'] rest
        let (digits, rest) ← readDigits rest
        some (mark :: sign ++ digits, rest)
      else
        some ([], mark :: rest)

/-- Read a number. -/
def readNumber (text : Text) : Option (Text × Text) := do
  let (sign, rest) ← readSign ['-'] text
  let (whole, rest) ← readWhole rest
  let (fraction, rest) ← readFraction rest
  let (exponent, rest) ← readExponent rest
  some (sign ++ whole ++ fraction ++ exponent, rest)

/-! ## Arrays and objects -/

section

variable {α : Type}

/-- Read items with commas between them and a closing mark behind them. -/
def readItems (read : Reader α) (close : Char) (text : Text) :
    Option (List α × Text) :=
  match read (skip text) with
  | none => none
  | some (item, rest) =>
      match skip rest with
      | [] => none
      | mark :: behind =>
          if mark = close then
            some ([item], behind)
          else if mark = ',' ∧ behind.length < text.length then
            prepend item (readItems read close behind)
          else
            none
termination_by text.length
decreasing_by exact ‹_ ∧ _›.2

/-- Read items, or only the closing mark. -/
def readList (read : Reader α) (close : Char) (text : Text) :
    Option (List α × Text) :=
  match skip text with
  | [] => none
  | mark :: behind =>
      if mark = close then some ([], behind) else readItems read close text

end

/-- Read a field: a string, a colon and a value. -/
def readField (read : Reader Value) : Reader (Text × Value)
  | '"' :: rest =>
      (readBody rest).bind fun (name, rest) =>
        match skip rest with
        | ':' :: rest =>
            (read (skip rest)).map fun (value, rest) => ((name, value), rest)
        | _ => none
  | _ => none

/-! ## Documents -/

/-- Read a value that has no more levels than allowed. -/
def readValue : Nat → Reader Value
  | 0, _ => none
  | levels + 1, text =>
      match text with
      | '"' :: rest =>
          (readBody rest).map fun (content, rest) => (.text content, rest)
      | '[' :: rest =>
          (readList (readValue levels) ']' rest).map
            fun (members, rest) => (.array members, rest)
      | '{' :: rest =>
          (readList (readField (readValue levels)) '}' rest).map
            fun (fields, rest) => (.object fields, rest)
      | 'n' :: 'u' :: 'l' :: 'l' :: rest => some (.null, rest)
      | 't' :: 'r' :: 'u' :: 'e' :: rest => some (.flag true, rest)
      | 'f' :: 'a' :: 'l' :: 's' :: 'e' :: rest => some (.flag false, rest)
      | other =>
          (readNumber other).map fun (literal, rest) =>
            (.number literal, rest)

/-- What a document says, if it is well formed. -/
def read? (document : Text) : Option Value :=
  (readValue document.length (skip document)).bind fun (value, rest) =>
    if skip rest = [] then some value else none

end Json

end XPathScan
