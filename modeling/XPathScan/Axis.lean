import XPathScan.Text.Basic

/-!
# Axes

The axes of location steps.  Thirteen of them are spelled by a word in an
expression; the other two have no spelling, and stand for the leading slash of
an absolute path and for what is no axis.  `spelling?` and `ofSpelling` are two
tables, which agree on the thirteen words.
-/

namespace XPathScan

/-- The direction in which a location step moves. -/
inductive Axis
  | ancestor
  | ancestorOrSelf
  | attributes
  | child
  | descendant
  | descendantOrSelf
  | following
  | followingSibling
  | namespaces
  | parent
  | preceding
  | precedingSibling
  | self
  /-- The leading slash of an absolute path. -/
  | root
  /-- Not an axis. -/
  | unknown
  deriving DecidableEq

namespace Axis

/-- The axes that can be spelled, in alphabetical order of their spellings. -/
def named : List Axis :=
  [ancestor, ancestorOrSelf, attributes, child, descendant, descendantOrSelf,
    following, followingSibling, namespaces, parent, preceding,
    precedingSibling, self]

/-- The word for an axis in an expression, if there is one. -/
def spelling? : Axis → Option Text
  | ancestor => some "ancestor".toList
  | ancestorOrSelf => some "ancestor-or-self".toList
  | attributes => some "attribute".toList
  | child => some "child".toList
  | descendant => some "descendant".toList
  | descendantOrSelf => some "descendant-or-self".toList
  | following => some "following".toList
  | followingSibling => some "following-sibling".toList
  | namespaces => some "namespace".toList
  | parent => some "parent".toList
  | preceding => some "preceding".toList
  | precedingSibling => some "preceding-sibling".toList
  | self => some "self".toList
  | root => none
  | unknown => none

/-- The axis that a word spells; unknown if it spells none. -/
def ofSpelling (word : Text) : Axis :=
  match String.ofList word with
  | "ancestor" => ancestor
  | "ancestor-or-self" => ancestorOrSelf
  | "attribute" => attributes
  | "child" => child
  | "descendant" => descendant
  | "descendant-or-self" => descendantOrSelf
  | "following" => following
  | "following-sibling" => followingSibling
  | "namespace" => namespaces
  | "parent" => parent
  | "preceding" => preceding
  | "preceding-sibling" => precedingSibling
  | "self" => self
  | _ => unknown

/-- The axes that can be spelled are those in the list. -/
theorem mem_named_iff {axis : Axis} :
    axis ∈ named ↔ axis.spelling?.isSome = true := by
  cases axis <;> decide

theorem ne_unknown_of_mem_named {axis : Axis} (listed : axis ∈ named) :
    axis ≠ .unknown := by
  rintro rfl
  exact absurd listed (by decide)

/-- The word for an axis spells this axis. -/
theorem ofSpelling_of_spelling? {axis : Axis} {word : Text}
    (spelled : axis.spelling? = some word) : ofSpelling word = axis := by
  cases axis <;> cases spelled <;> rfl

/-- A word that spells an axis is the word for it. -/
theorem spelling?_ofSpelling {word : Text}
    (known : ofSpelling word ≠ .unknown) :
    (ofSpelling word).spelling? = some word := by
  have whole := String.toList_ofList (l := word)
  unfold ofSpelling at known ⊢
  split at known <;> first
    | exact absurd rfl known
    | next same => rw [← whole, same]; rfl

/-- The two tables agree. -/
theorem ofSpelling_eq_iff {axis : Axis} {word : Text}
    (known : axis ≠ .unknown) :
    ofSpelling word = axis ↔ axis.spelling? = some word := by
  constructor
  · rintro rfl
    exact spelling?_ofSpelling known
  · exact ofSpelling_of_spelling?

theorem ofSpelling_ne_unknown_iff {word : Text} :
    ofSpelling word ≠ .unknown ↔ ∃ axis, spelling? axis = some word := by
  constructor
  · intro known
    exact ⟨_, spelling?_ofSpelling known⟩
  · rintro ⟨axis, spelled⟩
    rw [ofSpelling_of_spelling? spelled]
    rintro rfl
    cases spelled

/-- Different axes are spelled differently. -/
theorem spelling?_injective {left right : Axis} {word : Text}
    (spelled : left.spelling? = some word)
    (spelled' : right.spelling? = some word) : left = right :=
  (ofSpelling_of_spelling? spelled).symm.trans
    (ofSpelling_of_spelling? spelled')

end Axis

end XPathScan
