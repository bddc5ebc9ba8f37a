import XPathScan.Checked.Cursor
import XPathScan.Lexeme

/-!
# Checked reading

A lexeme is read by moving a checked cursor over it.  No text is taken off: what
the lexeme carries is cut out of the whole source between the offsets at which
the cursor has stood, and the place of a complaint is the span from the front
of the lexeme to the cursor.  A string without a closing quote sends the cursor
to the end of the source at once.
-/

namespace XPathScan

/--
What a lexeme carries, field by field.  The fields are cleared before a lexeme
is read, and reading it sets those that it has.
-/
structure Detail where
  qualifier : Text
  word : Text
  body : Text
  callable : Bool
  axis : Axis
  deriving DecidableEq

/-- The fields where nothing has been set. -/
def Detail.nothing : Detail :=
  ⟨[], [], [], false, .unknown⟩

/-- What comes of reading a lexeme. -/
structure Reading where
  /-- The cursor behind the lexeme. -/
  cursor : Cursor
  /-- The kind of the lexeme, or what is wrong with it. -/
  outcome : Except Diagnostic Kind
  /-- The fields as reading leaves them. -/
  detail : Detail

/-- The kind of what has been read; unknown if something is wrong with it. -/
def Reading.kind (reading : Reading) : Kind :=
  match reading.outcome with
  | .ok kind => kind
  | .error _ => .unknown

namespace Checked

/-- A lexeme that sets no field. -/
def bare (kind : Kind) (detail : Detail) (cursor : Cursor) : Reading :=
  ⟨cursor, .ok kind, detail⟩

/-- The place between an offset and a cursor. -/
def anchor (start : Nat) (cursor : Cursor) : Checked Anchor := do
  let covered ← span start cursor.position
  pure ⟨cursor.source.toList, covered⟩

/-! ## Strings -/

/-- The number of bytes in front of the first occurrence of a character. -/
def find? (wanted : Char) (text : Text) : Option Nat :=
  if wanted ∈ text then
    some (Text.size (text.takeWhile (· != wanted)))
  else
    none

/-- Read a string from its opening quote on.  One that is closed sets its body. -/
def readString
    (quote : Char) (start : Nat) (detail : Detail) (cursor : Cursor) :
    Checked Reading := do
  let opened ← advance cursor
  let behind ← remaining opened
  match find? quote behind with
  | none =>
      let ended ← moveTo cursor.source.utf8ByteSize opened
      let here ← anchor start ended
      let covered ← span start cursor.source.utf8ByteSize
      let moved : Anchor := { here with span := covered }
      pure ⟨ended, .error (moved.complain .unclosedString), detail⟩
  | some width =>
      let stop ← add opened.position width
      let body ← slice cursor.source.toList opened.position stop
      let filled ← moveTo stop opened
      let closed ← advance filled
      pure ⟨closed, .ok .string, { detail with body := body }⟩

/-! ## Numbers -/

/-- Pass over digits, and at most one point with more digits. -/
def passNumeral (cursor : Cursor) : Checked Cursor := do
  let whole ← eatWhile isDigit cursor
  let (pointed, behind) ← accept '.' whole
  if pointed then eatWhile isDigit behind else pure behind

/-- Pass over a sign, if there is one. -/
def passSign (cursor : Cursor) : Checked Cursor := do
  let sign ← current cursor
  if sign = '+' ∨ sign = '-' then advance cursor else pure cursor

/-- Read a number.  One with an exponent is a fault. -/
def readNumber (start : Nat) (detail : Detail) (cursor : Cursor) :
    Checked Reading := do
  let numeral ← passNumeral cursor
  let mark ← current numeral
  if mark = 'e' ∨ mark = 'E' then
    let marked ← advance numeral
    let signed ← passSign marked
    let ended ← eatWhile isDigit signed
    let here ← anchor start ended
    pure ⟨ended, .error (here.complain .scientificNotation), detail⟩
  else
    pure (bare .number detail numeral)

/-! ## Names -/

/-- Pass over a name without colons, and cut it out. -/
def eatName (cursor : Cursor) : Checked (Text × Cursor) := do
  let begun ← advance cursor
  let ended ← eatWhile isNameChar begun
  let word ← sliceFrom ended cursor.position
  pure (word, ended)

/-- Whether a separator of axis and node test follows, blanks aside. -/
def atSeparator (cursor : Cursor) : Checked Bool := do
  let behind ← remaining cursor
  pure (Lexeme.separatorFollows behind)

/--
A name that ends at the cursor and whose parts are set.  If it is read as an
operator, its local part is taken back.
-/
def finishName
    (previous : Option Kind) (detail : Detail) (cursor : Cursor) :
    Checked Reading := do
  let next ← current cursor
  let called := { detail with callable := next = '(' }
  let kind := settle .name called.word called.qualifier previous
  if kind = .name then
    pure ⟨cursor, .ok kind, called⟩
  else
    pure ⟨cursor, .ok kind, { called with word := [], callable := false }⟩

/--
An unqualified word that ends at the cursor: a name, or an axis, for which the
local part is taken back.
-/
def finishWord
    (previous : Option Kind) (word : Text) (detail : Detail)
    (cursor : Cursor) : Checked Reading := do
  let named := { detail with word := word }
  let separated ← atSeparator cursor
  let axis := Axis.ofSpelling word
  if separated = true ∧ axis ≠ .unknown then
    pure ⟨cursor, .ok .axis, { named with axis := axis, word := [] }⟩
  else
    finishName previous named cursor

/--
Go on behind a name without colons: with a colon and a local part behind it, it
is the qualifier of a name, and by itself it is a word.
-/
def readTail
    (previous : Option Kind) (first : Text) (detail : Detail)
    (cursor : Cursor) : Checked Reading := do
  let colon ← current cursor
  if colon = ':' then
    let second ← charAt cursor 1
    if isNameStart second then
      let localPart ← advance cursor
      let (word, ended) ← eatName localPart
      finishName previous { detail with qualifier := first, word := word }
        ended
    else if second = '*' then
      let star ← advance cursor
      let ended ← advance star
      let stop ← add star.position 1
      let word ← slice star.source.toList star.position stop
      finishName previous { detail with qualifier := first, word := word }
        ended
    else
      finishWord previous first detail cursor
  else
    finishWord previous first detail cursor

/-- Read a name, an axis, or an operator that is spelled like a name. -/
def readName (previous : Option Kind) (detail : Detail) (cursor : Cursor) :
    Checked Reading := do
  let (first, ended) ← eatName cursor
  readTail previous first detail ended

/-! ## Symbols -/

/-- What makes a longer symbol of a character, and of which kind. -/
def longer? : Char → Option (Char × Kind)
  | '.' => some ('.', .doubleDot)
  | ':' => some (':', .doubleColon)
  | '/' => some ('/', .doubleSlash)
  | '!' => some ('=', .ne)
  | '<' => some ('=', .le)
  | '>' => some ('=', .ge)
  | _ => none

/-- Read a symbol, the longer one where two are possible. -/
def readSymbol
    (previous : Option Kind) (first : Char) (detail : Detail)
    (cursor : Cursor) : Checked Reading := do
  let behind ← advance cursor
  let alone := (Lexeme.ofSingle previous first).kind
  match longer? first with
  | none => pure (bare alone detail behind)
  | some (second, kind) =>
      let (paired, ended) ← accept second behind
      pure (bare (if paired then kind else alone) detail ended)

/-- Read a number or a symbol that begins with a point. -/
def readPoint
    (previous : Option Kind) (start : Nat) (detail : Detail)
    (cursor : Cursor) : Checked Reading := do
  let second ← charAt cursor 1
  if isDigit second then
    readNumber start detail cursor
  else
    readSymbol previous '.' detail cursor

/-! ## All lexemes -/

/-- Read the lexeme on which a cursor stands, which is the offset `start`. -/
def read
    (previous : Option Kind) (start : Nat) (detail : Detail)
    (cursor : Cursor) : Checked Reading :=
  if cursor.atEnd then
    pure (bare .eof detail cursor)
  else do
    let first ← current cursor
    if first = '"' ∨ first = '\'' then
      readString first start detail cursor
    else if first = '.' then
      readPoint previous start detail cursor
    else if isDigit first then
      readNumber start detail cursor
    else if isNameStart first then
      readName previous detail cursor
    else
      readSymbol previous first detail cursor

end Checked

end XPathScan
