import XPathScan.Lexeme

/-!
# Payloads and kinds

What a lexeme carries goes with its kind: names, strings and axes carry their
own payloads, and every other lexeme carries nothing.  So it makes no difference
whether one asks for the payload or for the kind of a lexeme.
-/

namespace XPathScan

/-- The payloads that go with each kind. -/
inductive Carries : Kind → Payload → Prop
  | name (qualifier word : Text) (callable : Bool) :
      Carries .name (.name qualifier word callable)
  | string (body : Text) : Carries .string (.string body)
  | axis {named : Axis} (listed : named ∈ Axis.named) :
      Carries .axis (.axis named)
  | nothing {kind : Kind} (other : kind ∉ [.name, .string, .axis]) :
      Carries kind .nothing

namespace Lexeme

/-- The operator reading of a star or a word carries nothing. -/
theorem carries_operator {candidate kind : Kind} {word qualifier : Text}
    (found : operatorReading? candidate word qualifier = some kind) :
    Carries kind .nothing := by
  rcases operatorReading?_cases found with
    rfl | rfl | rfl | rfl | rfl <;>
    exact .nothing (by decide)

theorem carries_ofName
    (previous : Option Kind) (qualifier word text behind : Text) :
    Carries (ofName previous qualifier word text behind).kind
      (ofName previous qualifier word text behind).payload := by
  unfold ofName
  split
  next => exact .name qualifier word (parenthesisFollows behind)
  next operator =>
    rcases settle_cases .name word qualifier previous with
      kept | ⟨kind, found, settled⟩
    · exact absurd kept operator
    · rw [settled]
      exact carries_operator found

theorem carries_ofWord
    (previous : Option Kind) (word behind : Text) :
    Carries (ofWord previous word behind).kind
      (ofWord previous word behind).payload := by
  unfold ofWord
  split
  next is_axis =>
    apply Carries.axis
    rw [Axis.mem_named_iff, Axis.spelling?_ofSpelling is_axis.2]
    rfl
  next => exact carries_ofName _ _ _ _ _

theorem carries_ofSingle (previous : Option Kind) (character : Char) :
    Carries (ofSingle previous character).kind .nothing := by
  change
    Carries (settle (singleKind character) [character] [] previous) .nothing
  rcases settle_cases (singleKind character) [character] [] previous with
    kept | ⟨kind, found, settled⟩
  · rw [kept]
    unfold singleKind
    split <;> exact .nothing (by decide)
  · rw [settled]
    exact carries_operator found

theorem carries_pair {first second : Char} {kind : Kind}
    (paired : pairKind? first second = some kind) :
    Carries kind .nothing := by
  unfold pairKind? at paired
  split at paired <;> cases paired <;> exact .nothing (by decide)

theorem carries_readSymbol
    (previous : Option Kind) (first : Char) (behind : Text) :
    Carries (readSymbol previous first behind).1.kind
      (readSymbol previous first behind).1.payload := by
  unfold readSymbol
  split
  next => exact carries_ofSingle previous first
  next =>
    split
    next kind found => exact carries_pair found
    next => exact carries_ofSingle previous first

theorem carries_readName (previous : Option Kind) (unread : Text) :
    Carries (readName previous unread).1.kind
      (readName previous unread).1.payload := by
  unfold readName
  split
  next => exact carries_ofName _ _ _ _ _
  next => exact carries_ofWord _ _ _

theorem carries_readString (quote : Char) (unread : Text) :
    Carries (readString quote unread).1.kind
      (readString quote unread).1.payload := by
  have unknown : Carries .unknown .nothing := .nothing (by decide)
  unfold readString
  split
  next => exact unknown
  next => exact .string _

theorem carries_readNumber (unread : Text) :
    Carries (readNumber unread).1.kind (readNumber unread).1.payload := by
  have unknown : Carries .unknown .nothing := .nothing (by decide)
  have number : Carries .number .nothing := .nothing (by decide)
  unfold readNumber
  split
  next => exact unknown
  next => exact number

/-- What is read carries what goes with its kind. -/
theorem carries_read (previous : Option Kind) (unread : Text) :
    Carries (read previous unread).1.kind
      (read previous unread).1.payload := by
  unfold read
  split
  next => exact .nothing (by decide)
  next first behind =>
    split
    next => exact carries_readString first behind
    next =>
      split
      next => exact carries_readNumber (first :: behind)
      next =>
        split
        next => exact carries_readName previous (first :: behind)
        next => exact carries_readSymbol previous first behind

end Lexeme

end XPathScan
