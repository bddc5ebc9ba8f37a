import Mathlib.Data.List.TakeWhile
import XPathScan.Text.Basic

/-!
# Longest prefixes

The longest prefix of a text with a property is unique.  Taking characters
while they are of a class yields the longest prefix made of that class, and
stops at a known place where a character of another class is known.
-/

namespace XPathScan

namespace Text

/-- A prefix with a property, and no longer one has it. -/
structure LongestPrefix
    (property : Text → Prop) (front whole : Text) : Prop where
  starts : front <+: whole
  holds : property front
  longest :
    ∀ other, other <+: whole → property other →
      other.length ≤ front.length

theorem LongestPrefix.unique
    {property : Text → Prop} {front front' whole : Text}
    (longest : LongestPrefix property front whole)
    (longest' : LongestPrefix property front' whole) :
    front = front' := by
  have shorter := longest'.longest front longest.starts longest.holds
  have longer := longest.longest front' longest'.starts longest'.holds
  have inside :=
    List.prefix_of_prefix_length_le longest.starts longest'.starts shorter
  exact inside.eq_of_length_le longer

section Classes

variable {inClass : Char → Bool}

/-- A prefix made of a class is inside the run of that class. -/
theorem prefix_takeWhile {front whole : Text}
    (starts : front <+: whole)
    (inside : ∀ character ∈ front, inClass character = true) :
    front <+: whole.takeWhile inClass := by
  rcases starts with ⟨rest, rfl⟩
  rw [List.takeWhile_append_of_pos inside]
  exact List.prefix_append _ _

theorem length_le_takeWhile {front whole : Text}
    (starts : front <+: whole)
    (inside : ∀ character ∈ front, inClass character = true) :
    front.length ≤ (whole.takeWhile inClass).length :=
  (prefix_takeWhile starts inside).length_le

theorem bne_of_not_mem {text : Text} {stop : Char} (absent : stop ∉ text) :
    ∀ character ∈ text, (character != stop) = true := by
  intro character member
  rw [bne_iff_ne]
  rintro rfl
  exact absent member

theorem takeWhile_append_cons {front rest : Text} {stop : Char}
    (inside : ∀ character ∈ front, inClass character = true)
    (outside : inClass stop = false) :
    (front ++ stop :: rest).takeWhile inClass = front := by
  rw [List.takeWhile_append_of_pos inside,
    List.takeWhile_cons_of_neg (Bool.not_eq_true _ ▸ outside),
    List.append_nil]

theorem dropWhile_append_cons {front rest : Text} {stop : Char}
    (inside : ∀ character ∈ front, inClass character = true)
    (outside : inClass stop = false) :
    (front ++ stop :: rest).dropWhile inClass = stop :: rest := by
  rw [List.dropWhile_append_of_pos inside,
    List.dropWhile_cons_of_neg (Bool.not_eq_true _ ▸ outside)]

/-- A text is cut in one way behind the characters of a class. -/
theorem cut_unique {front front' rest rest' : Text} {stop stop' : Char}
    (inside : ∀ character ∈ front, inClass character = true)
    (inside' : ∀ character ∈ front', inClass character = true)
    (outside : inClass stop = false) (outside' : inClass stop' = false)
    (same : front ++ stop :: rest = front' ++ stop' :: rest') :
    front = front' ∧ rest = rest' := by
  have fronts := congrArg (List.takeWhile inClass) same
  rw [takeWhile_append_cons inside outside,
    takeWhile_append_cons inside' outside'] at fronts
  subst fronts
  exact ⟨rfl, (List.cons.inj (List.append_cancel_left same)).2⟩

theorem takeWhile_append_of_head? {front rest : Text}
    (inside : ∀ character ∈ front, inClass character = true)
    (outside : ∀ first ∈ rest.head?, inClass first = false) :
    (front ++ rest).takeWhile inClass = front := by
  cases rest with
  | nil => simpa using inside
  | cons first rest => exact takeWhile_append_cons inside (outside first rfl)

theorem dropWhile_append_of_head? {front rest : Text}
    (inside : ∀ character ∈ front, inClass character = true)
    (outside : ∀ first ∈ rest.head?, inClass first = false) :
    (front ++ rest).dropWhile inClass = rest := by
  cases rest with
  | nil => simpa using inside
  | cons first rest => exact dropWhile_append_cons inside (outside first rfl)

theorem head?_dropWhile_eq_false (inClass : Char → Bool) (text : Text) :
    ∀ character ∈ (text.dropWhile inClass).head?,
      inClass character = false := by
  intro character member
  have stopped := List.head?_dropWhile_not inClass text
  rw [Option.mem_def.1 member] at stopped
  exact stopped

end Classes

end Text

end XPathScan
