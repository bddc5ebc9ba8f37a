/-!
# Text and byte offsets

A text is the list of its characters.  Places in a text are counted in the
bytes of its UTF-8 form, so an offset may fall past the end or inside a
character.  `splitAt?` cuts a text at an offset and `slice?` takes the part
between two offsets; both answer nothing for an offset that is no boundary
between characters.  The main statement, `splitAt?_eq_some_iff`, says that the
cuts of a text are exactly its decompositions into two parts.
-/

namespace XPathScan

/-- A text is the list of its characters. -/
abbrev Text := List Char

namespace Text

/-- The number of bytes of a text in UTF-8. -/
def size (text : Text) : Nat :=
  text.foldr (fun character behind => character.utf8Size + behind) 0

@[simp]
theorem size_nil : size [] = 0 := rfl

@[simp]
theorem size_cons (head : Char) (tail : Text) :
    size (head :: tail) = head.utf8Size + size tail := rfl

@[simp]
theorem size_append (front back : Text) :
    size (front ++ back) = size front + size back := by
  induction front with
  | nil => simp
  | cons head tail induction =>
      simp only [List.cons_append, size_cons, induction, Nat.add_assoc]

/-- A text without bytes has no characters. -/
theorem eq_nil_of_size_eq_zero {text : Text} (empty : size text = 0) :
    text = [] := by
  cases text with
  | nil => rfl
  | cons head tail =>
      have positive := head.utf8Size_pos
      simp at empty
      omega

/--
Cut a text at a byte offset.  There is no cut past the end or inside a
character.
-/
def splitAt? : Text → Nat → Option (Text × Text)
  | text, 0 => some ([], text)
  | [], _ + 1 => none
  | head :: tail, offset + 1 =>
      if head.utf8Size ≤ offset + 1 then
        match splitAt? tail (offset + 1 - head.utf8Size) with
        | some (front, back) => some (head :: front, back)
        | none => none
      else
        none

/-- Any decomposition of a text is found again at the size of its front. -/
theorem splitAt?_append (front back : Text) :
    splitAt? (front ++ back) (size front) = some (front, back) := by
  induction front with
  | nil => cases back <;> rfl
  | cons head tail induction =>
      have positive := head.utf8Size_pos
      obtain ⟨below, total⟩ : ∃ below, size (head :: tail) = below + 1 :=
        ⟨size (head :: tail) - 1, by simp only [size_cons]; omega⟩
      have fits : head.utf8Size ≤ below + 1 := by
        simp only [size_cons] at total
        omega
      have left : below + 1 - head.utf8Size = size tail := by
        simp only [size_cons] at total
        omega
      rw [total, List.cons_append, splitAt?, if_pos fits, left,
        induction]

/-- A cut gives back the text and lies at the size of its front. -/
theorem eq_append_of_splitAt? {text front back : Text} {offset : Nat}
    (cut : splitAt? text offset = some (front, back)) :
    text = front ++ back ∧ size front = offset := by
  induction text generalizing front offset with
  | nil =>
      cases offset with
      | zero =>
          simp only [splitAt?, Option.some.injEq, Prod.mk.injEq] at cut
          obtain ⟨rfl, rfl⟩ := cut
          exact ⟨rfl, rfl⟩
      | succ offset => simp [splitAt?] at cut
  | cons head tail induction =>
      cases offset with
      | zero =>
          simp only [splitAt?, Option.some.injEq, Prod.mk.injEq] at cut
          obtain ⟨rfl, rfl⟩ := cut
          exact ⟨rfl, rfl⟩
      | succ offset =>
          rw [splitAt?] at cut
          split at cut
          next fits =>
            split at cut
            next found =>
              simp only [Option.some.injEq, Prod.mk.injEq] at cut
              obtain ⟨rfl, rfl⟩ := cut
              obtain ⟨whole, total⟩ := induction found
              refine ⟨by simp [whole], ?_⟩
              simp only [size_cons, total]
              omega
            next => simp at cut
          next => simp at cut

/-- The cuts of a text are exactly its decompositions into two parts. -/
theorem splitAt?_eq_some_iff {text front back : Text} {offset : Nat} :
    splitAt? text offset = some (front, back) ↔
      text = front ++ back ∧ size front = offset := by
  constructor
  · exact eq_append_of_splitAt?
  · rintro ⟨rfl, rfl⟩
    exact splitAt?_append front back

/-- The part of a text between two byte offsets, if both are boundaries. -/
def slice? (text : Text) (start stop : Nat) : Option Text :=
  if start ≤ stop then
    (text.splitAt? start).bind fun (_, behind) =>
      (behind.splitAt? (stop - start)).map Prod.fst
  else
    none

/-- The decimal digits of a number, without leading zeros. -/
def ofNat (number : Nat) : Text :=
  Nat.toDigits 10 number

/-- An integer as it is written, with a sign if it is below zero. -/
def ofInt : Int → Text
  | .ofNat number => ofNat number
  | .negSucc number => '-' :: ofNat (number + 1)

/-- The number that decimal digits spell. -/
def toNat (digits : Text) : Nat :=
  digits.foldl (fun number digit =>
    10 * number + (digit.toNat - '0'.toNat)) 0

/-- Spaces in front of a text until it has at least `width` characters. -/
def alignRight (width : Nat) (text : Text) : Text :=
  text.leftpad width ' '

end Text

end XPathScan
