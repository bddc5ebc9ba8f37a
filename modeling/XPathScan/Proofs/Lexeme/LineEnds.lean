import XPathScan.Proofs.Lexeme.Munch

/-!
# Line ends behind the text

Carriage returns and line feeds at the end of a text are blanks, so they begin
no lexeme; but reading looks ahead, and an open string takes all that is left.
`read_append` says what becomes of a reading when line ends are added behind
the text: an open string takes them too, and every other lexeme leaves them
unread.
-/

namespace XPathScan

namespace Text

/-- A text made of carriage returns and line feeds only. -/
def IsLineEnds (tail : Text) : Prop :=
  ∀ character ∈ tail, character = '\r' ∨ character = '\n'

namespace IsLineEnds

variable {tail : Text}

/-- Either there are no line ends or one of the two kinds comes first. -/
theorem cases_first (ends : IsLineEnds tail) :
    tail = [] ∨ ∃ rest, tail = '\r' :: rest ∨ tail = '\n' :: rest := by
  cases tail with
  | nil => exact Or.inl rfl
  | cons first rest =>
      rcases ends first List.mem_cons_self with rfl | rfl
      · exact Or.inr ⟨rest, Or.inl rfl⟩
      · exact Or.inr ⟨rest, Or.inr rfl⟩

theorem isBlank (ends : IsLineEnds tail) :
    ∀ character ∈ tail, XPathScan.isBlank character = true := by
  intro character member
  rcases ends character member with rfl | rfl <;> rfl

theorem takeWhile_isBlank (ends : IsLineEnds tail) :
    tail.takeWhile XPathScan.isBlank = tail :=
  List.takeWhile_eq_self_iff.2 ends.isBlank

theorem dropWhile_isBlank (ends : IsLineEnds tail) :
    tail.dropWhile XPathScan.isBlank = [] :=
  List.dropWhile_eq_nil_iff.2 ends.isBlank

/-- Line ends have one byte each, so they can be cut at every offset. -/
theorem exists_cut (ends : IsLineEnds tail) {offset : Nat}
    (inside : offset < size tail) :
    ∃ skipped unread,
      tail = skipped ++ unread ∧ size skipped = offset ∧ unread ≠ [] := by
  induction tail generalizing offset with
  | nil => simp at inside
  | cons first rest induction =>
      have width : first.utf8Size = 1 := by
        rcases ends first List.mem_cons_self with rfl | rfl <;> rfl
      cases offset with
      | zero => exact ⟨[], first :: rest, rfl, rfl, List.cons_ne_nil _ _⟩
      | succ offset =>
          have ends_rest : IsLineEnds rest := fun character member =>
            ends character (List.mem_cons_of_mem first member)
          have inside_rest : offset < size rest := by
            rw [size_cons, width] at inside
            omega
          rcases induction ends_rest inside_rest with
            ⟨skipped, unread, rfl, total, filled⟩
          refine ⟨first :: skipped, unread, rfl, ?_, filled⟩
          rw [size_cons, width, total]
          omega

/-- What is taken of a class without line ends is taken in front of them. -/
theorem takeWhile_append (ends : IsLineEnds tail) (inClass : Char → Bool)
    (carriage : inClass '\r' = false) (feed : inClass '\n' = false)
    (text : Text) :
    (text ++ tail).takeWhile inClass = text.takeWhile inClass := by
  induction text with
  | nil =>
      rcases ends.cases_first with rfl | ⟨rest, rfl | rfl⟩
      · rfl
      · simp [carriage]
      · simp [feed]
  | cons first rest induction =>
      by_cases inside : inClass first = true
      · simp [inside, induction]
      · simp [inside]

theorem dropWhile_append (ends : IsLineEnds tail) (inClass : Char → Bool)
    (carriage : inClass '\r' = false) (feed : inClass '\n' = false)
    (text : Text) :
    (text ++ tail).dropWhile inClass = text.dropWhile inClass ++ tail := by
  induction text with
  | nil =>
      rcases ends.cases_first with rfl | ⟨rest, rfl | rfl⟩
      · rfl
      · simp [carriage]
      · simp [feed]
  | cons first rest induction =>
      by_cases inside : inClass first = true
      · simp [inside, induction]
      · simp [inside]

end IsLineEnds

end Text

namespace Lexeme

open Text (IsLineEnds)

/--
What becomes of a reading when more text is added behind: an open string takes
it, and any other lexeme leaves it unread.
-/
def stretch (tail : Text) (reading : Lexeme × Text) : Lexeme × Text :=
  if reading.1.fault = some .unclosedString then
    (faulty .unclosedString (reading.1.text ++ tail), [])
  else
    (reading.1, reading.2 ++ tail)

section

variable {tail : Text} (ends : IsLineEnds tail)
include ends

/-! ## Strings and numbers -/

theorem readString_append_lineEnds {quote : Char} (carriage : quote ≠ '\r')
    (feed : quote ≠ '\n') (unread : Text) :
    readString quote (unread ++ tail) =
      stretch tail (readString quote unread) := by
  have inside : ∀ character ∈ tail, (character != quote) = true := by
    intro character member
    rw [bne_iff_ne]
    rintro rfl
    rcases ends character member with same | same
    · exact carriage same
    · exact feed same
  unfold readString
  rw [List.takeWhile_append, List.dropWhile_append]
  cases found : unread.dropWhile (· != quote) with
  | nil =>
      have taken : unread.takeWhile (· != quote) = unread := by
        rw [List.takeWhile_eq_self_iff]
        exact List.dropWhile_eq_nil_iff.1 found
      have taken_tail : tail.takeWhile (· != quote) = tail :=
        List.takeWhile_eq_self_iff.2 inside
      have left_tail : tail.dropWhile (· != quote) = [] :=
        List.dropWhile_eq_nil_iff.2 inside
      simp [taken, taken_tail, left_tail, stretch, faulty]
  | cons closing rest =>
      have whole :
          unread.takeWhile (· != quote) ++ closing :: rest = unread := by
        rw [← found]
        exact List.takeWhile_append_dropWhile
      have shorter :
          (unread.takeWhile (· != quote)).length ≠ unread.length := by
        have total := congrArg List.length whole
        simp only [List.length_append, List.length_cons] at total
        omega
      simp [shorter, stretch]

theorem splitNumeral_append_lineEnds (unread : Text) :
    splitNumeral (unread ++ tail) =
      ((splitNumeral unread).1, (splitNumeral unread).2 ++ tail) := by
  have taken := ends.takeWhile_append isDigit rfl rfl
  have left := ends.dropWhile_append isDigit rfl rfl
  simp only [splitNumeral, taken, left]
  cases unread.dropWhile isDigit with
  | nil =>
      rcases ends.cases_first with rfl | ⟨rest, rfl | rfl⟩
      · rfl
      · rfl
      · rfl
  | cons first rest =>
      by_cases point : first = '.'
      · subst point
        simp [taken, left]
      · simp [point]

theorem splitSign_append_lineEnds (unread : Text) :
    splitSign (unread ++ tail) =
      ((splitSign unread).1, (splitSign unread).2 ++ tail) := by
  cases unread with
  | nil => rcases ends.cases_first with rfl | ⟨rest, rfl | rfl⟩ <;> rfl
  | cons first rest =>
      by_cases plus : first = '+'
      · subst plus
        rfl
      · by_cases minus : first = '-'
        · subst minus
          rfl
        · simp [splitSign, plus, minus]

theorem splitExponent?_append_lineEnds (unread : Text) :
    splitExponent? (unread ++ tail) =
      (splitExponent? unread).map fun (exponent, rest) =>
        (exponent, rest ++ tail) := by
  have taken := ends.takeWhile_append isDigit rfl rfl
  have left := ends.dropWhile_append isDigit rfl rfl
  cases unread with
  | nil => rcases ends.cases_first with rfl | ⟨rest, rfl | rfl⟩ <;> rfl
  | cons mark unread =>
      rw [List.cons_append, splitExponent?, splitExponent?,
        splitSign_append_lineEnds ends, taken, left]
      split <;> rfl

theorem readNumber_append_lineEnds (unread : Text) :
    readNumber (unread ++ tail) = stretch tail (readNumber unread) := by
  simp only [readNumber, splitNumeral_append_lineEnds ends,
    splitExponent?_append_lineEnds ends]
  cases splitExponent? (splitNumeral unread).2 <;>
    simp [stretch, faulty, bare]

/-! ## Names -/

theorem separatorFollows_append_lineEnds (behind : Text) :
    separatorFollows (behind ++ tail) = separatorFollows behind := by
  rw [separatorFollows, separatorFollows, List.dropWhile_append,
    ends.dropWhile_isBlank]
  rcases behind.dropWhile isBlank with _ | ⟨first, _ | ⟨second, rest⟩⟩
  · rfl
  · rcases ends.cases_first with rfl | ⟨rest, rfl | rfl⟩ <;>
      simp [List.isPrefixOf]
  · simp [List.isPrefixOf]

theorem parenthesisFollows_append_lineEnds (behind : Text) :
    parenthesisFollows (behind ++ tail) = parenthesisFollows behind := by
  cases behind with
  | nil => rcases ends.cases_first with rfl | ⟨rest, rfl | rfl⟩ <;> rfl
  | cons first rest =>
      by_cases opening : first = '('
      · subst opening
        rfl
      · simp [parenthesisFollows, opening]

theorem ofName_append_lineEnds
    (previous : Option Kind) (qualifier word text behind : Text) :
    ofName previous qualifier word text (behind ++ tail) =
      ofName previous qualifier word text behind := by
  rw [ofName, ofName, parenthesisFollows_append_lineEnds ends]

theorem ofWord_append_lineEnds
    (previous : Option Kind) (word behind : Text) :
    ofWord previous word (behind ++ tail) =
      ofWord previous word behind := by
  rw [ofWord, ofWord, separatorFollows_append_lineEnds ends,
    ofName_append_lineEnds ends]

theorem splitLocalPart?_append_lineEnds (behind : Text) :
    splitLocalPart? (behind ++ tail) =
      (splitLocalPart? behind).map fun (localPart, rest) =>
        (localPart, rest ++ tail) := by
  have taken := ends.takeWhile_append isNameChar rfl rfl
  have left := ends.dropWhile_append isNameChar rfl rfl
  rcases behind with _ | ⟨mark, _ | ⟨first, rest⟩⟩
  · rcases ends.cases_first with rfl | ⟨rest, rfl | rfl⟩ <;> rfl
  · by_cases separated : mark = ':'
    · subst separated
      rcases ends.cases_first with rfl | ⟨rest, rfl | rfl⟩ <;> rfl
    · simp [splitLocalPart?, separated]
  · by_cases separated : mark = ':'
    · subst separated
      by_cases star : first = '*'
      · subst star
        rfl
      · by_cases start : isNameStart first = true <;>
          simp [splitLocalPart?, start, taken, left]
    · simp [splitLocalPart?, separated]

theorem readName_append_lineEnds (previous : Option Kind) (unread : Text) :
    readName previous (unread ++ tail) =
      ((readName previous unread).1,
        (readName previous unread).2 ++ tail) := by
  have taken := ends.takeWhile_append isNameChar rfl rfl
  have left := ends.dropWhile_append isNameChar rfl rfl
  unfold readName
  rw [taken, left, splitLocalPart?_append_lineEnds ends]
  cases splitLocalPart? (unread.dropWhile isNameChar) with
  | none =>
      simp [ofWord_append_lineEnds ends]
  | some parts =>
      simp [ofQualified, ofName_append_lineEnds ends]

/-! ## All lexemes -/

theorem readSymbol_append_lineEnds
    (previous : Option Kind) (first : Char) (behind : Text) :
    readSymbol previous first (behind ++ tail) =
      ((readSymbol previous first behind).1,
        (readSymbol previous first behind).2 ++ tail) := by
  cases behind with
  | nil =>
      rcases ends.cases_first with rfl | ⟨rest, rfl | rfl⟩
      · rfl
      · simp [readSymbol, pairKind?]
      · simp [readSymbol, pairKind?]
  | cons second rest =>
      simp only [List.cons_append, readSymbol]
      cases pairKind? first second <;> rfl

theorem digitFollows_append_lineEnds (behind : Text) :
    digitFollows (behind ++ tail) = digitFollows behind := by
  cases behind with
  | nil => rcases ends.cases_first with rfl | ⟨rest, rfl | rfl⟩ <;> rfl
  | cons first rest => rfl

/-- Line ends behind some text lengthen an open string and nothing else. -/
theorem read_append_lineEnds (previous : Option Kind) {unread : Text}
    (filled : unread ≠ []) :
    read previous (unread ++ tail) =
      stretch tail (read previous unread) := by
  rcases List.exists_cons_of_ne_nil filled with ⟨first, behind, rfl⟩
  rw [List.cons_append, read, read, digitFollows_append_lineEnds ends]
  split
  next quoting =>
    rcases quoting with rfl | rfl
    · exact readString_append_lineEnds ends (by decide) (by decide) behind
    · exact readString_append_lineEnds ends (by decide) (by decide) behind
  · split
    · exact readNumber_append_lineEnds ends (first :: behind)
    · split
      · rw [← List.cons_append, readName_append_lineEnds ends, stretch,
          fault_readName]
        rfl
      · rw [readSymbol_append_lineEnds ends, stretch, fault_readSymbol]
        rfl

end

end Lexeme

end XPathScan
