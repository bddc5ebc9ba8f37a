import XPathScan.Text.Basic

/-!
# Boundaries and parts of a text

An offset is a boundary of a text if it lies between two characters or at one
of the ends.  Each decomposition of a text into three parts makes the middle
part a slice between two boundaries, and every slice comes from such a
decomposition.  Places in a text are handled through decompositions here, so
that no proof has to count bytes.  An offset that is no boundary is past the end
or inside of a character (`not_isBoundary_iff`).
-/

namespace XPathScan

namespace Text

/-- An offset between two characters of a text or at one of its ends. -/
def IsBoundary (text : Text) (offset : Nat) : Prop :=
  ∃ front back, text = front ++ back ∧ size front = offset

/-- The boundaries of a text are the offsets at which it can be cut. -/
theorem isBoundary_iff_exists_splitAt?
    {text : Text} {offset : Nat} :
    IsBoundary text offset ↔
      ∃ front back, splitAt? text offset = some (front, back) := by
  constructor
  · rintro ⟨front, back, rfl, rfl⟩
    exact ⟨front, back, splitAt?_append front back⟩
  · rintro ⟨front, back, cut⟩
    exact ⟨front, back, eq_append_of_splitAt? cut⟩

/-- The middle of a text lies between the ends of what stands around it. -/
theorem slice?_append (front part back : Text) :
    slice? (front ++ (part ++ back)) (size front)
        (size front + size part) =
      some part := by
  have order : size front ≤ size front + size part :=
    Nat.le_add_right _ _
  rw [slice?, if_pos order, splitAt?_append front (part ++ back),
    Nat.add_sub_cancel_left]
  change
    Option.map Prod.fst (splitAt? (part ++ back) (size part)) = some part
  rw [splitAt?_append part back]
  rfl

/-- Every slice of a text is the middle of a decomposition. -/
theorem slice?_eq_some_iff
    {text part : Text} {start stop : Nat} :
    slice? text start stop = some part ↔
      ∃ front back,
        text = front ++ (part ++ back) ∧
          size front = start ∧ start + size part = stop := by
  constructor
  · intro found
    unfold slice? at found
    split at found
    next order =>
      rcases Option.bind_eq_some_iff.1 found with
        ⟨⟨front, behind⟩, cutFront, found⟩
      rcases Option.map_eq_some_iff.1 found with ⟨⟨part', back⟩, cutPart, rfl⟩
      rcases eq_append_of_splitAt? cutFront with ⟨rfl, rfl⟩
      rcases eq_append_of_splitAt? cutPart with ⟨rfl, length⟩
      refine ⟨front, back, rfl, rfl, ?_⟩
      dsimp only
      omega
    next => simp at found
  · rintro ⟨front, back, rfl, rfl, rfl⟩
    exact slice?_append front part back

/-- Of two fronts of one text, the one with fewer bytes begins the other. -/
theorem exists_rest_of_size_lt {front back front' back' : Text}
    (same : front ++ back = front' ++ back')
    (shorter : size front < size front') :
    ∃ rest,
      rest ≠ [] ∧ front' = front ++ rest ∧ back = rest ++ back' := by
  rcases List.append_eq_append_iff.1 same with
    ⟨rest, whole, follows⟩ | ⟨rest, whole, -⟩
  · refine ⟨rest, ?_, whole, follows⟩
    rintro rfl
    rw [List.append_nil] at whole
    rw [whole] at shorter
    exact Nat.lt_irrefl _ shorter
  · rw [whole, size_append] at shorter
    omega

/-- Both ends of a text are boundaries of it. -/
theorem isBoundary_zero (text : Text) : IsBoundary text 0 :=
  ⟨[], text, rfl, rfl⟩

theorem isBoundary_size (text : Text) : IsBoundary text (size text) :=
  ⟨text, [], (List.append_nil text).symm, rfl⟩

/-- Between two boundaries in order there is a part of the text. -/
theorem exists_slice?_of_isBoundary {text : Text} {start stop : Nat}
    (order : start ≤ stop) (start_boundary : IsBoundary text start)
    (stop_boundary : IsBoundary text stop) :
    ∃ part, slice? text start stop = some part := by
  rcases start_boundary with ⟨front, back, whole, rfl⟩
  rcases stop_boundary with ⟨front', back', whole', rfl⟩
  rcases Nat.eq_or_lt_of_le order with same | shorter
  · exact
      ⟨[], slice?_eq_some_iff.2 ⟨front, back, whole, rfl, same⟩⟩
  · rcases exists_rest_of_size_lt (whole.symm.trans whole') shorter with
      ⟨part, -, rfl, rfl⟩
    refine ⟨part, slice?_eq_some_iff.2 ⟨front, back', whole, rfl, ?_⟩⟩
    exact (size_append front part).symm

theorem IsBoundary.le_size {text : Text} {offset : Nat}
    (boundary : IsBoundary text offset) : offset ≤ size text := by
  rcases boundary with ⟨front, back, rfl, rfl⟩
  rw [size_append]
  exact Nat.le_add_right _ _

/-! ## Offsets inside of characters -/

/-- An offset behind the first byte of a character and in front of its end. -/
def IsInside (text : Text) (offset : Nat) : Prop :=
  ∃ front character back,
    text = front ++ character :: back ∧
      size front < offset ∧ offset < size front + character.utf8Size

theorem IsBoundary.cons {tail : Text} {offset : Nat} (head : Char)
    (boundary : IsBoundary tail offset) :
    IsBoundary (head :: tail) (head.utf8Size + offset) := by
  rcases boundary with ⟨front, back, rfl, rfl⟩
  exact ⟨head :: front, back, rfl, rfl⟩

theorem IsInside.cons {tail : Text} {offset : Nat} (head : Char)
    (inside : IsInside tail offset) :
    IsInside (head :: tail) (head.utf8Size + offset) := by
  rcases inside with ⟨front, character, back, rfl, behind, before⟩
  refine ⟨head :: front, character, back, rfl, ?_, ?_⟩
  all_goals
    rw [size_cons]
    omega

/-- No decomposition ends inside of a character. -/
theorem IsInside.not_isBoundary {text : Text} {offset : Nat}
    (inside : IsInside text offset) : ¬ IsBoundary text offset := by
  rcases inside with ⟨front, character, back, rfl, behind, before⟩
  rintro ⟨front', back', same, rfl⟩
  rcases exists_rest_of_size_lt same behind with ⟨rest, filled, rfl, follows⟩
  cases rest with
  | nil => exact filled rfl
  | cons first rest =>
      rw [List.cons_append, List.cons.injEq] at follows
      rw [size_append, size_cons, ← follows.1] at before
      omega

/-- Every offset is a boundary, past the end or inside of a character. -/
theorem isBoundary_or_size_lt_or_isInside (text : Text) (offset : Nat) :
    IsBoundary text offset ∨ size text < offset ∨ IsInside text offset := by
  induction text generalizing offset with
  | nil =>
      rcases Nat.eq_zero_or_pos offset with rfl | positive
      · exact Or.inl (isBoundary_zero [])
      · exact Or.inr (Or.inl positive)
  | cons head tail induction =>
      by_cases short : offset < head.utf8Size
      · rcases Nat.eq_zero_or_pos offset with rfl | positive
        · exact Or.inl (isBoundary_zero (head :: tail))
        · have before : offset < size [] + head.utf8Size := by
            rw [size_nil, Nat.zero_add]
            exact short
          exact Or.inr (Or.inr ⟨[], head, tail, rfl, positive, before⟩)
      · have split : head.utf8Size + (offset - head.utf8Size) = offset :=
          Nat.add_sub_of_le (Nat.not_lt.1 short)
        rw [← split]
        rcases induction (offset - head.utf8Size) with
          boundary | outside | inside
        · exact Or.inl (boundary.cons head)
        · exact Or.inr (Or.inl (Nat.add_lt_add_left outside _))
        · exact Or.inr (Or.inr (inside.cons head))

theorem not_isBoundary_iff {text : Text} {offset : Nat} :
    ¬ IsBoundary text offset ↔
      size text < offset ∨ IsInside text offset := by
  constructor
  · intro apart
    exact (isBoundary_or_size_lt_or_isInside text offset).resolve_left apart
  · rintro (outside | inside)
    · intro boundary
      exact absurd boundary.le_size (Nat.not_le.2 outside)
    · exact inside.not_isBoundary

/--
A slice up to a boundary is only missing if it would begin behind this boundary
or inside of a character.
-/
theorem slice?_eq_none_iff {text : Text} {start stop : Nat}
    (stop_boundary : IsBoundary text stop) :
    slice? text start stop = none ↔ stop < start ∨ IsInside text start := by
  constructor
  · intro missing
    rcases isBoundary_or_size_lt_or_isInside text start with
      start_boundary | outside | inside
    · rcases Nat.lt_or_ge stop start with behind | order
      · exact Or.inl behind
      · rcases
          exists_slice?_of_isBoundary order start_boundary stop_boundary with
          ⟨part, found⟩
        rw [missing] at found
        cases found
    · exact Or.inl (Nat.lt_of_le_of_lt stop_boundary.le_size outside)
    · exact Or.inr inside
  · intro refused
    rw [Option.eq_none_iff_forall_ne_some]
    intro part found
    rcases slice?_eq_some_iff.1 found with
      ⟨front, back, whole, start_eq, stop_eq⟩
    rcases refused with behind | inside
    · omega
    · exact inside.not_isBoundary ⟨front, part ++ back, whole, start_eq⟩

end Text

end XPathScan
