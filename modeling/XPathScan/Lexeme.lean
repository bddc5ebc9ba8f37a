import XPathScan.Axis
import XPathScan.Diagnostic.Basic
import XPathScan.Operand
import XPathScan.Text.Classes

/-!
# Lexemes

A lexeme is the longest piece at the front of a text that belongs together:
a symbol, a number, a string, a name or a single character that nothing else
accounts for.  `Lexeme.read` takes one lexeme off a text that begins with no
blank and gives back the rest of the text.  Text that can be no lexeme is taken
off as well, with a fault.  The two main statements, `text_append_read` and
`text_read_ne_nil`, say that reading loses nothing and always moves on.
-/

namespace XPathScan

/-- What a lexeme carries besides its kind and its text. -/
inductive Payload
  | nothing
  /-- A name, its qualifier, and whether `(` follows at once. -/
  | name (qualifier word : Text) (callable : Bool)
  /-- The body of a string, without its quotes. -/
  | string (body : Text)
  | axis (axis : Axis)
  deriving DecidableEq

/-- The two ways in which text can fail to be a lexeme. -/
inductive Fault
  | scientificNotation
  | unclosedString
  deriving DecidableEq

/-- The complaint about a fault. -/
def Fault.complaint : Fault → Complaint
  | scientificNotation => .scientificNotation
  | unclosedString => .unclosedString

/-- A piece of an expression that belongs together. -/
structure Lexeme where
  /-- The kind; unknown if there is a fault. -/
  kind : Kind
  /-- What the lexeme carries; nothing if there is a fault. -/
  payload : Payload
  /-- The characters of the lexeme. -/
  text : Text
  /-- Why the text is no lexeme, if it is none. -/
  fault : Option Fault
  deriving DecidableEq

namespace Lexeme

/-- The lexeme without characters at the end of an expression. -/
def eof : Lexeme :=
  ⟨.eof, .nothing, [], none⟩

/-- A lexeme that carries nothing. -/
def bare (kind : Kind) (text : Text) : Lexeme :=
  ⟨kind, .nothing, text, none⟩

/-- Text that is no lexeme. -/
def faulty (fault : Fault) (text : Text) : Lexeme :=
  ⟨.unknown, .nothing, text, some fault⟩

/-! ## Strings -/

/-- Read a string whose opening quote has been taken off. -/
def readString (quote : Char) (unread : Text) : Lexeme × Text :=
  let body := unread.takeWhile (· != quote)
  match unread.dropWhile (· != quote) with
  | [] => (faulty .unclosedString (quote :: body), [])
  | closing :: rest =>
      (⟨.string, .string body, quote :: body ++ [closing], none⟩, rest)

/-! ## Numbers -/

/-- Take off a numeral: digits, and at most one point with more digits. -/
def splitNumeral (unread : Text) : Text × Text :=
  let whole := unread.takeWhile isDigit
  match unread.dropWhile isDigit with
  | '.' :: rest =>
      (whole ++ '.' :: rest.takeWhile isDigit, rest.dropWhile isDigit)
  | rest => (whole, rest)

/-- Take off a sign, if there is one. -/
def splitSign : Text → Text × Text
  | '+' :: rest => (['+'], rest)
  | '-' :: rest => (['-'], rest)
  | unread => ([], unread)

/-- Take off an exponent: its mark, an optional sign and any digits. -/
def splitExponent? : Text → Option (Text × Text)
  | [] => none
  | mark :: unread =>
      if mark = 'e' ∨ mark = 'E' then
        some
          (mark :: (splitSign unread).1 ++
              (splitSign unread).2.takeWhile isDigit,
            (splitSign unread).2.dropWhile isDigit)
      else
        none

/-- Read a number.  One with an exponent is a fault. -/
def readNumber (unread : Text) : Lexeme × Text :=
  match splitExponent? (splitNumeral unread).2 with
  | some (exponent, rest) =>
      (faulty .scientificNotation ((splitNumeral unread).1 ++ exponent), rest)
  | none => (bare .number (splitNumeral unread).1, (splitNumeral unread).2)

/-! ## Names -/

/-- Whether a separator of axis and node test follows, blanks aside. -/
def separatorFollows (behind : Text) : Bool :=
  [':', ':'].isPrefixOf (behind.dropWhile isBlank)

/-- Whether an opening parenthesis follows at once. -/
def parenthesisFollows : Text → Bool
  | '(' :: _ => true
  | _ => false

/-- Take off the local part of a qualified name, with the colon before it. -/
def splitLocalPart? : Text → Option (Text × Text)
  | ':' :: '*' :: rest => some (['*'], rest)
  | ':' :: first :: rest =>
      if isNameStart first then
        some (first :: rest.takeWhile isNameChar, rest.dropWhile isNameChar)
      else
        none
  | _ => none

/--
A name in front of `behind`, unless it is read as an operator: then it carries
nothing.
-/
def ofName
    (previous : Option Kind) (qualifier word text behind : Text) : Lexeme :=
  match settle .name word qualifier previous with
  | .name =>
      ⟨.name, .name qualifier word (parenthesisFollows behind), text, none⟩
  | operator => bare operator text

/--
An unqualified word in front of `behind`: an axis if it is spelled like one and
a separator follows, else a name.
-/
def ofWord (previous : Option Kind) (word behind : Text) : Lexeme :=
  if separatorFollows behind = true ∧ Axis.ofSpelling word ≠ .unknown then
    ⟨.axis, .axis (Axis.ofSpelling word), word, none⟩
  else
    ofName previous [] word word behind

/-- A qualified name in front of `behind`. -/
def ofQualified
    (previous : Option Kind) (qualifier word behind : Text) : Lexeme :=
  ofName previous qualifier word (qualifier ++ ':' :: word) behind

/-- Read a name, an axis, or an operator that is spelled like a name. -/
def readName (previous : Option Kind) (unread : Text) : Lexeme × Text :=
  match splitLocalPart? (unread.dropWhile isNameChar) with
  | some (localPart, rest) =>
      (ofQualified previous (unread.takeWhile isNameChar) localPart rest, rest)
  | none =>
      (ofWord previous (unread.takeWhile isNameChar)
          (unread.dropWhile isNameChar),
        unread.dropWhile isNameChar)

/-! ## Symbols -/

/-- The symbols of two characters. -/
def pairKind? : Char → Char → Option Kind
  | '.', '.' => some .doubleDot
  | ':', ':' => some .doubleColon
  | '/', '/' => some .doubleSlash
  | '!', '=' => some .ne
  | '<', '=' => some .le
  | '>', '=' => some .ge
  | _, _ => none

/-- The kind of a character that stands alone. -/
def singleKind : Char → Kind
  | '(' => .leftParen
  | ')' => .rightParen
  | '[' => .leftBracket
  | ']' => .rightBracket
  | '@' => .atSign
  | ',' => .comma
  | '$' => .dollar
  | '}' => .rightBrace
  | '|' => .union
  | '+' => .plus
  | '-' => .minus
  | '=' => .eq
  | '.' => .dot
  | '*' => .star
  | '/' => .slash
  | '<' => .lt
  | '>' => .gt
  | _ => .unknown

/-- A character that stands alone.  A star may be a multiplication. -/
def ofSingle (previous : Option Kind) (character : Char) : Lexeme :=
  bare (settle (singleKind character) [character] [] previous) [character]

/-- Read a symbol, the longer one where two are possible. -/
def readSymbol
    (previous : Option Kind) (first : Char) (behind : Text) : Lexeme × Text :=
  match behind with
  | [] => (ofSingle previous first, [])
  | second :: rest =>
      match pairKind? first second with
      | some kind => (bare kind [first, second], rest)
      | none => (ofSingle previous first, second :: rest)

/-! ## All lexemes -/

/-- Whether a text begins with a digit. -/
def digitFollows : Text → Bool
  | first :: _ => isDigit first
  | [] => false

/--
Read one lexeme off a text that begins with no blank, given the kind of the
lexeme before it.
-/
def read (previous : Option Kind) : Text → Lexeme × Text
  | [] => (eof, [])
  | first :: behind =>
      if first = '"' ∨ first = '\'' then
        readString first behind
      else if isDigit first ∨ (first = '.' ∧ digitFollows behind) then
        readNumber (first :: behind)
      else if isNameStart first then
        readName previous (first :: behind)
      else
        readSymbol previous first behind

/-! ## Reading loses nothing -/

theorem text_append_readString (quote : Char) (unread : Text) :
    (readString quote unread).1.text ++ (readString quote unread).2 =
      quote :: unread := by
  have whole :
      unread.takeWhile (· != quote) ++ unread.dropWhile (· != quote) =
        unread :=
    List.takeWhile_append_dropWhile
  unfold readString
  split
  next ended =>
    rw [ended, List.append_nil] at whole
    simp [faulty, whole]
  next closing rest found =>
    rw [found] at whole
    simp [whole]

theorem splitNumeral_append (unread : Text) :
    (splitNumeral unread).1 ++ (splitNumeral unread).2 = unread := by
  have whole : unread.takeWhile isDigit ++ unread.dropWhile isDigit = unread :=
    List.takeWhile_append_dropWhile
  unfold splitNumeral
  split
  next rest found =>
    rw [found] at whole
    simpa using whole
  next => exact whole

theorem splitSign_append (unread : Text) :
    (splitSign unread).1 ++ (splitSign unread).2 = unread := by
  unfold splitSign
  split <;> rfl

theorem splitExponent?_append {unread exponent rest : Text}
    (found : splitExponent? unread = some (exponent, rest)) :
    exponent ++ rest = unread := by
  cases unread with
  | nil => simp [splitExponent?] at found
  | cons mark unread =>
      have whole := splitSign_append unread
      rw [splitExponent?] at found
      split at found
      · simp only [Option.some.injEq, Prod.mk.injEq] at found
        obtain ⟨rfl, rfl⟩ := found
        simpa using whole
      · simp at found

theorem text_append_readNumber (unread : Text) :
    (readNumber unread).1.text ++ (readNumber unread).2 = unread := by
  have whole := splitNumeral_append unread
  unfold readNumber
  split
  next exponent rest found =>
    simpa [faulty, splitExponent?_append found] using whole
  next => exact whole

theorem splitLocalPart?_append {behind localPart rest : Text}
    (found : splitLocalPart? behind = some (localPart, rest)) :
    ':' :: localPart ++ rest = behind := by
  unfold splitLocalPart? at found
  split at found
  · simp only [Option.some.injEq, Prod.mk.injEq] at found
    obtain ⟨rfl, rfl⟩ := found
    rfl
  · split at found
    · simp only [Option.some.injEq, Prod.mk.injEq] at found
      obtain ⟨rfl, rfl⟩ := found
      simp
    · simp at found
  · simp at found

@[simp]
theorem text_ofName
    (previous : Option Kind) (qualifier word text behind : Text) :
    (ofName previous qualifier word text behind).text = text := by
  unfold ofName
  split <;> rfl

@[simp]
theorem text_ofWord (previous : Option Kind) (word behind : Text) :
    (ofWord previous word behind).text = word := by
  unfold ofWord
  split <;> simp

theorem text_append_readName (previous : Option Kind) (unread : Text) :
    (readName previous unread).1.text ++ (readName previous unread).2 =
      unread := by
  have whole :
      unread.takeWhile isNameChar ++ unread.dropWhile isNameChar = unread :=
    List.takeWhile_append_dropWhile
  unfold readName
  split
  next localPart rest found =>
    have behind := splitLocalPart?_append found
    rw [← behind] at whole
    simpa [ofQualified] using whole
  next => simp

theorem text_append_readSymbol
    (previous : Option Kind) (first : Char) (behind : Text) :
    (readSymbol previous first behind).1.text ++
        (readSymbol previous first behind).2 =
      first :: behind := by
  unfold readSymbol
  split
  · rfl
  · split <;> rfl

/-- A lexeme and the text left behind it make up the text that was read. -/
theorem text_append_read (previous : Option Kind) (unread : Text) :
    (read previous unread).1.text ++ (read previous unread).2 = unread := by
  unfold read
  split
  · rfl
  · split
    · exact text_append_readString _ _
    · split
      · exact text_append_readNumber _
      · split
        · exact text_append_readName _ _
        · exact text_append_readSymbol _ _ _

/-! ## Reading always moves on -/

theorem splitNumeral_ne_nil {first : Char} {behind : Text}
    (numeric : isDigit first ∨ (first = '.' ∧ digitFollows behind)) :
    (splitNumeral (first :: behind)).1 ≠ [] := by
  unfold splitNumeral
  by_cases digit : isDigit first
  · split <;> simp [digit]
  · obtain ⟨rfl, _⟩ := numeric.resolve_left digit
    simp [digit]

/-- A lexeme that is read off some text has at least one character. -/
theorem text_read_ne_nil
    (previous : Option Kind) (first : Char) (behind : Text) :
    (read previous (first :: behind)).1.text ≠ [] := by
  rw [read]
  split
  · unfold readString
    split <;> simp [faulty]
  · split
    next numeric =>
      have filled := splitNumeral_ne_nil numeric
      unfold readNumber
      split <;> simp [faulty, bare, filled]
    · split
      next start =>
        have char := isNameChar_of_isNameStart start
        unfold readName
        split <;> simp [char, ofQualified]
      · unfold readSymbol
        split
        · simp [ofSingle, bare]
        · split <;> simp [ofSingle, bare]

/-- Reading a lexeme off some text leaves less text behind. -/
theorem length_rest_read_lt
    (previous : Option Kind) {unread : Text} (some_text : unread ≠ []) :
    (read previous unread).2.length < unread.length := by
  cases unread with
  | nil => exact absurd rfl some_text
  | cons first behind =>
      have whole := congrArg List.length
        (text_append_read previous (first :: behind))
      have filled := List.length_pos_iff.2
        (text_read_ne_nil previous first behind)
      simp only [List.length_append] at whole
      omega

/-! ## The end of the expression -/

theorem kind_ofName_ne_eof
    (previous : Option Kind) (qualifier word text behind : Text) :
    (ofName previous qualifier word text behind).kind ≠ .eof := by
  have inside : Kind.name ≠ .eof := by decide
  have settled := settle_ne_eof word qualifier previous inside
  unfold ofName
  split
  · simp
  · exact settled

theorem kind_ofWord_ne_eof
    (previous : Option Kind) (word behind : Text) :
    (ofWord previous word behind).kind ≠ .eof := by
  unfold ofWord
  split
  · simp
  · exact kind_ofName_ne_eof _ _ _ _ _

theorem kind_ofSingle_ne_eof (previous : Option Kind) (character : Char) :
    (ofSingle previous character).kind ≠ .eof := by
  refine settle_ne_eof _ _ _ ?_
  unfold singleKind
  split <;> decide

theorem kind_readSymbol_ne_eof
    (previous : Option Kind) (first : Char) (behind : Text) :
    (readSymbol previous first behind).1.kind ≠ .eof := by
  unfold readSymbol
  split
  · exact kind_ofSingle_ne_eof _ _
  · split
    next kind found =>
      unfold pairKind? at found
      split at found <;> cases found <;> simp [bare]
    · exact kind_ofSingle_ne_eof _ _

/-- Only the end of the text is read as the end of the expression. -/
theorem kind_read_eq_eof_iff (previous : Option Kind) (unread : Text) :
    (read previous unread).1.kind = .eof ↔ unread = [] := by
  cases unread with
  | nil => simp [read, eof]
  | cons first behind =>
      simp only [reduceCtorEq, iff_false]
      rw [read]
      split
      · unfold readString
        split <;> simp [faulty]
      · split
        · unfold readNumber
          split <;> simp [faulty, bare]
        · split
          · unfold readName
            split
            · exact kind_ofName_ne_eof _ _ _ _ _
            · exact kind_ofWord_ne_eof _ _ _
          · exact kind_readSymbol_ne_eof _ _ _

end Lexeme

end XPathScan
