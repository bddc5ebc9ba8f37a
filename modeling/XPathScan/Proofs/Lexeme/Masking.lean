import Mathlib.Data.List.TakeWhile
import XPathScan.Lexeme

/-!
# Nulls are read like any other stray character

U+0000 is also what is seen at the end of a text, so a reader could take the one
for the other.  Masking puts `#`, a character without a meaning, in the place of
every U+0000.  No class of characters tells the two apart, and so each reader
finds in a masked text what it finds in the text, masked: `read_masked` is the
main statement.
-/

namespace XPathScan

/-- A character, or `#` for U+0000. -/
def maskNull (character : Char) : Char :=
  if character = '\x00' then '#' else character

/-- A text with `#` in the place of every U+0000. -/
def Text.masked (text : Text) : Text :=
  text.map maskNull

/-! ## Characters and their classes -/

theorem maskNull_of_ne {character : Char} (visible : character ≠ '\x00') :
    maskNull character = character :=
  if_neg visible

/-- A character that is neither U+0000 nor `#` is not masked. -/
theorem maskNull_eq_iff {character other : Char}
    (visible : other ≠ '\x00') (apart : other ≠ '#') :
    maskNull character = other ↔ character = other := by
  by_cases null : character = '\x00'
  · simp [maskNull, null, visible.symm, apart.symm]
  · simp [maskNull, null]

theorem maskNull_ne {character other : Char} (visible : other ≠ '\x00')
    (apart : other ≠ '#') (ne : character ≠ other) :
    maskNull character ≠ other :=
  mt (maskNull_eq_iff visible apart).1 ne

@[simp]
theorem utf8Size_maskNull (character : Char) :
    (maskNull character).utf8Size = character.utf8Size := by
  by_cases null : character = '\x00'
  · subst null
    rfl
  · rw [maskNull_of_ne null]

namespace Text

@[simp]
theorem masked_nil : masked [] = [] := rfl

@[simp]
theorem masked_cons (head : Char) (tail : Text) :
    masked (head :: tail) = maskNull head :: masked tail := rfl

@[simp]
theorem masked_append (front back : Text) :
    masked (front ++ back) = masked front ++ masked back :=
  List.map_append

@[simp]
theorem size_masked (text : Text) : size (masked text) = size text := by
  induction text with
  | nil => rfl
  | cons head tail induction => simp [induction]

theorem masked_of_not_mem {text : Text} (absent : '\x00' ∉ text) :
    masked text = text := by
  induction text with
  | nil => rfl
  | cons head tail induction =>
      simp only [List.mem_cons, not_or] at absent
      rw [masked_cons, maskNull_of_ne (Ne.symm absent.1), induction absent.2]

section

variable {inClass : Char → Bool}

/-- A class that holds both or none of them does not tell them apart. -/
theorem inClass_maskNull (same : inClass '\x00' = inClass '#')
    (character : Char) :
    inClass (maskNull character) = inClass character := by
  by_cases null : character = '\x00'
  · subst null
    exact same.symm
  · rw [maskNull_of_ne null]

theorem takeWhile_masked (same : inClass '\x00' = inClass '#')
    (text : Text) :
    (masked text).takeWhile inClass = masked (text.takeWhile inClass) := by
  have kept : inClass ∘ maskNull = inClass :=
    funext (inClass_maskNull same)
  simp only [masked, List.takeWhile_map, kept]

theorem dropWhile_masked (same : inClass '\x00' = inClass '#')
    (text : Text) :
    (masked text).dropWhile inClass = masked (text.dropWhile inClass) := by
  have kept : inClass ∘ maskNull = inClass :=
    funext (inClass_maskNull same)
  simp only [masked, List.dropWhile_map, kept]

/-- What is taken of a class without U+0000 is not masked. -/
theorem masked_takeWhile (null : inClass '\x00' = false) (text : Text) :
    masked (text.takeWhile inClass) = text.takeWhile inClass := by
  apply masked_of_not_mem
  intro member
  rw [List.mem_takeWhile_imp member] at null
  cases null

end

end Text

/-- What a lexeme carries, masked.  Names and axes hold no U+0000. -/
def Payload.masked : Payload → Payload
  | .string body => .string body.masked
  | payload => payload

/-- A lexeme, masked. -/
def Lexeme.masked (lexeme : Lexeme) : Lexeme :=
  { lexeme with
    payload := lexeme.payload.masked
    text := lexeme.text.masked }

namespace Lexeme

open Text (masked)

/-- A lexeme and the text behind it, masked. -/
def maskedReading (reading : Lexeme × Text) : Lexeme × Text :=
  (reading.1.masked, Text.masked reading.2)

/-! ## Strings and numbers -/

theorem readString_masked {quote : Char} (visible : quote ≠ '\x00')
    (apart : quote ≠ '#') (unread : Text) :
    readString quote (Text.masked unread) =
      maskedReading (readString quote unread) := by
  have same : ('\x00' != quote) = ('#' != quote) := by
    rw [bne_iff_ne.2 visible.symm, bne_iff_ne.2 apart.symm]
  rw [readString, readString, Text.takeWhile_masked same,
    Text.dropWhile_masked same]
  cases unread.dropWhile (· != quote) with
  | nil =>
      simp [maskedReading, Lexeme.masked, faulty, Payload.masked,
        maskNull_of_ne visible]
  | cons closing rest =>
      simp [maskedReading, Lexeme.masked, Payload.masked,
        maskNull_of_ne visible]

theorem splitNumeral_masked (unread : Text) :
    splitNumeral (Text.masked unread) =
      (Text.masked (splitNumeral unread).1,
        Text.masked (splitNumeral unread).2) := by
  have same : isDigit '\x00' = isDigit '#' := rfl
  simp only [splitNumeral, Text.takeWhile_masked same,
    Text.dropWhile_masked same]
  cases unread.dropWhile isDigit with
  | nil => rfl
  | cons first rest =>
      by_cases point : first = '.'
      · subst point
        simp [Text.takeWhile_masked same, Text.dropWhile_masked same,
          maskNull]
      · have point' : maskNull first ≠ '.' :=
          maskNull_ne (by decide) (by decide) point
        simp [point, point']

theorem splitSign_masked (unread : Text) :
    splitSign (Text.masked unread) =
      (Text.masked (splitSign unread).1,
        Text.masked (splitSign unread).2) := by
  cases unread with
  | nil => rfl
  | cons first rest =>
      by_cases plus : first = '+'
      · subst plus
        rfl
      · by_cases minus : first = '-'
        · subst minus
          rfl
        · have plus' : maskNull first ≠ '+' :=
            maskNull_ne (by decide) (by decide) plus
          have minus' : maskNull first ≠ '-' :=
            maskNull_ne (by decide) (by decide) minus
          simp [splitSign, plus, minus, plus', minus']

theorem splitExponent?_masked (unread : Text) :
    splitExponent? (Text.masked unread) =
      (splitExponent? unread).map fun (exponent, rest) =>
        (Text.masked exponent, Text.masked rest) := by
  have same : isDigit '\x00' = isDigit '#' := rfl
  cases unread with
  | nil => rfl
  | cons mark unread =>
      have small : maskNull mark = 'e' ↔ mark = 'e' :=
        maskNull_eq_iff (by decide) (by decide)
      have capital : maskNull mark = 'E' ↔ mark = 'E' :=
        maskNull_eq_iff (by decide) (by decide)
      by_cases marked : mark = 'e' ∨ mark = 'E'
      · simp [splitExponent?, small, capital, marked, splitSign_masked,
          Text.takeWhile_masked same, Text.dropWhile_masked same]
      · simp [splitExponent?, small, capital, marked]

theorem readNumber_masked (unread : Text) :
    readNumber (Text.masked unread) =
      maskedReading (readNumber unread) := by
  simp only [readNumber, splitNumeral_masked, splitExponent?_masked]
  cases splitExponent? (splitNumeral unread).2 with
  | none => rfl
  | some taken =>
      simp [maskedReading, Lexeme.masked, faulty, Payload.masked]

/-! ## Names -/

theorem separatorFollows_masked (behind : Text) :
    separatorFollows (Text.masked behind) = separatorFollows behind := by
  have same : isBlank '\x00' = isBlank '#' := rfl
  have colon (character : Char) :
      (':' == maskNull character) = (':' == character) :=
    @Text.inClass_maskNull (':' == ·) rfl character
  rw [separatorFollows, separatorFollows, Text.dropWhile_masked same]
  rcases behind.dropWhile isBlank with _ | ⟨first, _ | ⟨second, rest⟩⟩
  · rfl
  · simp [List.isPrefixOf]
  · simp [List.isPrefixOf, colon]

theorem parenthesisFollows_masked (behind : Text) :
    parenthesisFollows (Text.masked behind) =
      parenthesisFollows behind := by
  cases behind with
  | nil => rfl
  | cons first rest =>
      by_cases opening : first = '('
      · subst opening
        rfl
      · have opening' : maskNull first ≠ '(' :=
          maskNull_ne (by decide) (by decide) opening
        simp [parenthesisFollows, opening, opening']

theorem ofName_masked
    (previous : Option Kind) (qualifier word text behind : Text) :
    ofName previous qualifier word (Text.masked text)
        (Text.masked behind) =
      (ofName previous qualifier word text behind).masked := by
  unfold ofName
  split
  · simp [Lexeme.masked, Payload.masked, parenthesisFollows_masked]
  · simp [Lexeme.masked, Payload.masked, bare]

theorem ofWord_masked {word : Text} (same : Text.masked word = word)
    (previous : Option Kind) (behind : Text) :
    ofWord previous word (Text.masked behind) =
      (ofWord previous word behind).masked := by
  have named := ofName_masked previous [] word word behind
  rw [same] at named
  rw [ofWord, ofWord, separatorFollows_masked]
  split
  · simp [Lexeme.masked, Payload.masked, same]
  · exact named

theorem splitLocalPart?_masked (unread : Text) :
    splitLocalPart? (Text.masked unread) =
      (splitLocalPart? unread).map fun (localPart, rest) =>
        (localPart, Text.masked rest) := by
  have same : isNameChar '\x00' = isNameChar '#' := rfl
  have colon : maskNull ':' = ':' := rfl
  have inside (character : Char) :
      isNameStart (maskNull character) = isNameStart character :=
    Text.inClass_maskNull rfl character
  rcases unread with _ | ⟨mark, _ | ⟨first, rest⟩⟩
  · rfl
  · simp [splitLocalPart?]
  · by_cases separated : mark = ':'
    · subst separated
      by_cases star : first = '*'
      · subst star
        rfl
      · have star' : maskNull first ≠ '*' :=
          maskNull_ne (by decide) (by decide) star
        by_cases start : isNameStart first = true
        · have visible : first ≠ '\x00' := by
            rintro rfl
            cases start
          have kept : Text.masked (rest.takeWhile isNameChar) =
              rest.takeWhile isNameChar :=
            Text.masked_takeWhile rfl rest
          simp [splitLocalPart?, colon, start, maskNull_of_ne visible,
            Text.takeWhile_masked same, Text.dropWhile_masked same, kept]
        · simp [splitLocalPart?, colon, start, inside]
    · have separated' : maskNull mark ≠ ':' :=
        maskNull_ne (by decide) (by decide) separated
      simp [splitLocalPart?, separated, separated']

theorem masked_localPart {unread localPart rest : Text}
    (found : splitLocalPart? unread = some (localPart, rest)) :
    Text.masked localPart = localPart := by
  unfold splitLocalPart? at found
  split at found
  · cases found
    rfl
  · split at found
    next first behind _ start =>
      cases found
      have visible : first ≠ '\x00' := by
        rintro rfl
        cases start
      rw [Text.masked_cons, maskNull_of_ne visible,
        Text.masked_takeWhile rfl]
    next => cases found
  · cases found

theorem readName_masked (previous : Option Kind) (unread : Text) :
    readName previous (Text.masked unread) =
      maskedReading (readName previous unread) := by
  have same : isNameChar '\x00' = isNameChar '#' := rfl
  have word : Text.masked (unread.takeWhile isNameChar) =
      unread.takeWhile isNameChar :=
    Text.masked_takeWhile rfl unread
  unfold readName
  rw [Text.takeWhile_masked same, Text.dropWhile_masked same, word,
    splitLocalPart?_masked]
  cases found : splitLocalPart? (unread.dropWhile isNameChar) with
  | none =>
      exact congrArg (·, Text.masked (unread.dropWhile isNameChar))
        (ofWord_masked word previous _)
  | some parts =>
      rcases parts with ⟨localPart, rest⟩
      have named := ofName_masked previous
        (unread.takeWhile isNameChar) localPart
        (unread.takeWhile isNameChar ++ ':' :: localPart) rest
      rw [Text.masked_append, Text.masked_cons, word,
        masked_localPart found] at named
      exact congrArg (·, Text.masked rest) named

/-! ## Symbols -/

theorem pairKind?_maskNull (first second : Char) :
    pairKind? (maskNull first) (maskNull second) =
      pairKind? first second := by
  unfold maskNull
  split <;> split <;> subst_vars <;> simp [pairKind?]

theorem ofSingle_masked (previous : Option Kind) (character : Char) :
    ofSingle previous (maskNull character) =
      (ofSingle previous character).masked := by
  by_cases null : character = '\x00'
  · subst null
    rfl
  · simp [ofSingle, bare, Lexeme.masked, Payload.masked,
      maskNull_of_ne null]

theorem readSymbol_masked
    (previous : Option Kind) (first : Char) (behind : Text) :
    readSymbol previous (maskNull first) (Text.masked behind) =
      maskedReading (readSymbol previous first behind) := by
  cases behind with
  | nil =>
      exact congrArg (·, []) (ofSingle_masked previous first)
  | cons second rest =>
      simp only [readSymbol, Text.masked_cons, pairKind?_maskNull]
      cases found : pairKind? first second with
      | none =>
          exact congrArg (·, Text.masked (second :: rest))
            (ofSingle_masked previous first)
      | some kind =>
          simp [maskedReading, Lexeme.masked, Payload.masked, bare]

/-! ## All lexemes -/

theorem digitFollows_masked (behind : Text) :
    digitFollows (Text.masked behind) = digitFollows behind := by
  cases behind with
  | nil => rfl
  | cons first rest =>
      show isDigit (maskNull first) = isDigit first
      exact Text.inClass_maskNull rfl first

/-- What is read off a masked text is what is read off the text, masked. -/
theorem read_masked (previous : Option Kind) (unread : Text) :
    read previous (Text.masked unread) =
      maskedReading (read previous unread) := by
  cases unread with
  | nil => rfl
  | cons first behind =>
      have numeric : isDigit (maskNull first) = isDigit first :=
        Text.inClass_maskNull rfl first
      have start : isNameStart (maskNull first) = isNameStart first :=
        Text.inClass_maskNull rfl first
      have double : maskNull first = '\"' ↔ first = '\"' :=
        maskNull_eq_iff (by decide) (by decide)
      have single : maskNull first = '\'' ↔ first = '\'' :=
        maskNull_eq_iff (by decide) (by decide)
      have point : maskNull first = '.' ↔ first = '.' :=
        maskNull_eq_iff (by decide) (by decide)
      simp only [Text.masked_cons, read, numeric, start, double, single,
        point, digitFollows_masked]
      split
      next quoting =>
        have visible : first ≠ '\x00' := by
          rintro rfl
          revert quoting
          decide
        have apart : first ≠ '#' := by
          rintro rfl
          revert quoting
          decide
        rw [maskNull_of_ne visible]
        exact readString_masked visible apart behind
      · split
        · exact readNumber_masked (first :: behind)
        · split
          · exact readName_masked previous (first :: behind)
          · exact readSymbol_masked previous first behind

end Lexeme

end XPathScan
