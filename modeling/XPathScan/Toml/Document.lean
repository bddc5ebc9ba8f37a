import XPathScan.Toml.Date
import XPathScan.Toml.Quoted
import XPathScan.Toml.Value

/-!
# TOML documents

A document is read line by line: blank lines, headers, and keys with their
values.  Arrays and inline tables nest no deeper than a fixed limit, and keys
have no more parts than that.  `Toml.parse?` gives the entries of the whole
document, or nothing if any part of it is malformed.
-/

namespace XPathScan

namespace Toml

/-- How deep values nest and how many parts a key has, at most. -/
def depthLimit : Nat := 79

/-! ## Keys -/

/-- The characters of a key without quotes. -/
def isKeyChar (character : Char) : Bool :=
  isNameStart character || isDigit character || character == '-'

/-- Read one part of a key. -/
def readKeyPart : Reader Text := fun unread =>
  match unread.takeWhile isKeyChar with
  | [] => readLineString unread
  | part => some (part, unread.dropWhile isKeyChar)

/-- Read the parts of a key, of which there are at most `limit`. -/
def readKeyParts : Nat → Reader (List Text)
  | 0, _ => none
  | limit + 1, unread => do
      let (part, behind) ← readKeyPart (skipBlanks unread)
      match skipBlanks behind with
      | '.' :: rest =>
          let (parts, behind) ← readKeyParts limit rest
          return (part :: parts, behind)
      | rest => return ([part], rest)

/-- Read a key with the blanks around it. -/
def readKey : Reader Key := fun unread => do
  let (parts, rest) ← readKeyParts depthLimit unread
  let last ← parts.getLast?
  return (⟨parts.dropLast, last⟩, rest)

/-! ## Values without brackets or quotes -/

/-- The characters of numbers, dates and flags. -/
def isRunChar (character : Char) : Bool :=
  isKeyChar character || character == '+' || character == '.' ||
    character == ':'

/--
Take off a run of characters.  A time may follow its date behind one space.
-/
def splitRun (unread : Text) : Text × Text :=
  let run := unread.takeWhile isRunChar
  match unread.dropWhile isRunChar with
  | ' ' :: digit :: rest =>
      if isDate run ∧ isDigit digit then
        (run ++ ' ' :: (digit :: rest).takeWhile isRunChar,
          (digit :: rest).dropWhile isRunChar)
      else
        (run, ' ' :: digit :: rest)
  | rest => (run, rest)

/-- The value that a run of characters spells. -/
def ofRun? (run : Text) : Option Value :=
  if run = "true".toList then
    some (.boolean true)
  else if run = "false".toList then
    some (.boolean false)
  else if isMoment run then
    some .moment
  else if isFloat run then
    some .float
  else
    (integer? run).map .integer

/-! ## All values -/

/-- Read the members of an array behind its bracket, in at most `steps`. -/
def readMembers (readMember : Reader Value) : Nat → Reader (List Value)
  | 0, _ => none
  | steps + 1, unread =>
      match skipSpace false unread with
      | ']' :: rest => some ([], rest)
      | unread => do
          let (member, behind) ← readMember unread
          match skipSpace false behind with
          | ']' :: rest => return ([member], rest)
          | ',' :: rest =>
              let (members, behind) ← readMembers readMember steps rest
              return (member :: members, behind)
          | _ => none

/-- Read a key, an equals sign and a value. -/
def readPair (readValue : Reader Value) : Reader (Key × Value) :=
  fun unread => do
    let (key, behindKey) ← readKey unread
    let behindSign ← expect? '=' behindKey
    let (value, rest) ← readValue (skipBlanks behindSign)
    return ((key, value), rest)

/-- Read the pairs of an inline table that has some, in at most `steps`. -/
def readPairs (readValue : Reader Value) : Nat → Entries → Reader Entries
  | 0, _, _ => none
  | steps + 1, entries, unread => do
      let ((key, value), behind) ← readPair readValue unread
      let entries ← assign key value .headed entries
      match skipBlanks behind with
      | '\x7d' :: rest => return (entries, rest)
      | ',' :: rest => readPairs readValue steps entries rest
      | _ => none

/-- Read a value that nests at most `depth` deep. -/
def readValue : Nat → Reader Value
  | _, [] => none
  | depth, first :: rest =>
      if first = '"' ∨ first = '\'' then
        (readString (first :: rest)).map fun (content, behind) =>
          (.string content, behind)
      else if first = '[' then
        match depth with
        | 0 => none
        | depth + 1 =>
            (readMembers (readValue depth) (rest.length + 1) rest).map
              fun (members, behind) => (.array members, behind)
      else if first = '\x7b' then
        match depth with
        | 0 => none
        | depth + 1 =>
            match skipBlanks rest with
            | '\x7d' :: behind => some (.table .inline [], behind)
            | body =>
                (readPairs (readValue depth) (body.length + 1) [] body).map
                  fun (entries, behind) => (.table .inline entries, behind)
      else
        let run := splitRun (first :: rest)
        (ofRun? run.1).map (·, run.2)

/-! ## Lines -/

/-- What has been read of a document. -/
structure Draft where
  entries : Entries
  /-- The path of the last header. -/
  header : List Text

/-- Read the header of a table behind its bracket. -/
def readHeader (draft : Draft) (unread : Text) : Option (Draft × Text) := do
  let (key, behind) ← readKey unread
  let rest ← expect? ']' behind
  let entries ← openTable key draft.entries
  return (⟨entries, key.path ++ [key.last]⟩, ← restOfLine? rest)

/-- Read the header of an array of tables behind its brackets. -/
def readArrayHeader (draft : Draft) (unread : Text) :
    Option (Draft × Text) := do
  let (key, behind) ← readKey unread
  let inner ← expect? ']' behind
  let rest ← expect? ']' inner
  let entries ← addTable key draft.entries
  return (⟨entries, key.path ++ [key.last]⟩, ← restOfLine? rest)

/-- Read a key with its value. -/
def readAssignment (draft : Draft) (unread : Text) :
    Option (Draft × Text) := do
  let ((key, value), behind) ← readPair (readValue depthLimit) unread
  let entries ← assignUnder draft.header key value draft.entries
  return ({ draft with entries := entries }, ← restOfLine? behind)

/-- Read one line from its first character that is no blank. -/
def readLine (draft : Draft) (unread : Text) : Option (Draft × Text) :=
  match unread with
  | '[' :: '[' :: rest => readArrayHeader draft rest
  | '[' :: rest => readHeader draft rest
  | '#' :: _ | '\n' :: _ | '\r' :: _ => (restOfLine? unread).map (draft, ·)
  | _ => readAssignment draft unread

/-- Read lines up to the end of the document, at most `count` of them. -/
def readLines : Nat → Draft → Text → Option Entries
  | 0, _, _ => none
  | count + 1, draft, unread =>
      match skipBlanks unread with
      | [] => some draft.entries
      | line => do
          let (draft, rest) ← readLine draft line
          readLines count draft rest

/-- Pass over the mark of a byte order at the front of a document. -/
def skipByteOrderMark : Text → Text
  | '\uFEFF' :: rest => rest
  | document => document

/-- The entries of a document, if it is well formed. -/
def parse? (document : Text) : Option Entries :=
  let body := skipByteOrderMark document
  readLines (body.length + 1) ⟨[], []⟩ body

end Toml

end XPathScan
