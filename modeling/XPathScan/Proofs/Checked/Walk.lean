import XPathScan.Checked.Walk
import XPathScan.Proofs.Cursor.Refinement

/-!
# Cursors on a walk

Whatever is asked of a cursor and in whatever order, it stands between two
characters of its source.  From there every checked operation answers as the
cursor does, and is refused for the reasons that `Refuses` lists and for no
others.  Only `moveTo` moves a cursor backwards.  The main statement,
`guarded_of_walk`, says all this of every operation on every walk.
-/

namespace XPathScan

namespace Cursor

/-- A cursor stands between two characters of its source, or at an end of it. -/
structure Stands (source : String) (cursor : Cursor) : Prop where
  source_eq : cursor.source = source
  boundary : Text.IsBoundary source.toList cursor.position

/-- Why a cursor refuses an operation. -/
inductive Refuses (cursor : Cursor) : Operation → CursorFault → Prop
  /-- The offset is past the end or inside of a character. -/
  | moveTo {offset : Nat}
      (misplaced :
        cursor.source.utf8ByteSize < offset ∨
          Text.IsInside cursor.source.toList offset) :
      Refuses cursor (.moveTo offset) .notABoundary
  /-- The start is behind the cursor or inside of a character. -/
  | sliceFrom {start : Nat}
      (misplaced :
        cursor.position < start ∨
          Text.IsInside cursor.source.toList start) :
      Refuses cursor (.sliceFrom start) .notABoundary
  /-- The offset to look at cannot be counted. -/
  | charAt {distance : Nat}
      (uncounted : maxOffset < cursor.position + distance) :
      Refuses cursor (.charAt distance) .overflow
  | peek {distance : Nat}
      (uncounted : maxOffset < cursor.position + distance) :
      Refuses cursor (.peek distance) .overflow

section

variable {source : String} {front unread : Text} {cursor later : Cursor}
  {operation : Operation} {reply : Reply} {fault : CursorFault}
  {offset distance : Nat}

/-! ## Standing between two characters -/

theorem stands_behind (whole : source.toList = front ++ unread) :
    Stands source (behind source front) where
  source_eq := rfl
  boundary := ⟨front, unread, whole, rfl⟩

theorem Stands.exists_behind (stands : Stands source cursor) :
    ∃ front unread,
      source.toList = front ++ unread ∧ cursor = behind source front := by
  rcases cursor with ⟨own, position⟩
  rcases stands with ⟨rfl, front, unread, whole, rfl⟩
  exact ⟨front, unread, whole, rfl⟩

theorem Stands.position_le (stands : Stands source cursor) :
    cursor.position ≤ source.utf8ByteSize := by
  rw [← Text.size_toList]
  exact stands.boundary.le_size

theorem stands_start (source : String) : Stands source (start source) :=
  stands_behind (List.nil_append source.toList).symm

/-! ## Refusals -/

theorem moveTo_of_isBoundary
    (boundary : Text.IsBoundary cursor.source.toList offset) :
    cursor.moveTo offset = .ok { cursor with position := offset } :=
  if_pos ((Text.isValid_iff_exists_split cursor.source offset).2 boundary)

theorem moveTo_of_not_isBoundary
    (apart : ¬ Text.IsBoundary cursor.source.toList offset) :
    cursor.moveTo offset = .error .notABoundary :=
  if_neg fun valid =>
    apart ((Text.isValid_iff_exists_split cursor.source offset).1 valid)

theorem moveTo_eq_error_iff :
    cursor.moveTo offset = .error fault ↔
      ¬ Text.IsBoundary cursor.source.toList offset ∧
        fault = .notABoundary := by
  by_cases boundary : Text.IsBoundary cursor.source.toList offset
  · simp [moveTo_of_isBoundary boundary, boundary]
  · simp [moveTo_of_not_isBoundary boundary, boundary, eq_comm]

theorem charAt_eq_error_iff :
    cursor.charAt distance = .error fault ↔
      maxOffset < cursor.position + distance ∧ fault = .overflow := by
  unfold Cursor.charAt
  split
  next uncounted => simp [uncounted, eq_comm]
  next counted => simp [counted]

theorem sliceFrom_eq_error_iff :
    cursor.sliceFrom offset = .error fault ↔
      Text.slice? cursor.source.toList offset cursor.position = none ∧
        fault = .notABoundary := by
  unfold Cursor.sliceFrom
  split
  next part found => simp [found]
  next missing => simp [missing, eq_comm]

/-- The faults of a cursor between two characters are those listed. -/
theorem operate_eq_error_iff (stands : Stands source cursor) :
    cursor.operate operation = .error fault ↔
      Refuses cursor operation fault := by
  cases operation with
  | moveTo offset =>
      rw [operate, map_eq_error_iff, moveTo_eq_error_iff,
        Text.not_isBoundary_iff, Text.size_toList]
      constructor
      · rintro ⟨misplaced, rfl⟩
        exact .moveTo misplaced
      · intro refuses
        cases refuses with
        | moveTo misplaced => exact ⟨misplaced, rfl⟩
  | sliceFrom start =>
      have standing := stands.boundary
      rw [← stands.source_eq] at standing
      rw [operate, map_eq_error_iff, sliceFrom_eq_error_iff,
        Text.slice?_eq_none_iff standing]
      constructor
      · rintro ⟨misplaced, rfl⟩
        exact .sliceFrom misplaced
      · intro refuses
        cases refuses with
        | sliceFrom misplaced => exact ⟨misplaced, rfl⟩
  | charAt distance =>
      rw [operate, map_eq_error_iff, charAt_eq_error_iff]
      constructor
      · rintro ⟨uncounted, rfl⟩
        exact .charAt uncounted
      · intro refuses
        cases refuses with
        | charAt uncounted => exact ⟨uncounted, rfl⟩
  | peek distance =>
      rw [operate, map_eq_error_iff, charAt_eq_error_iff]
      constructor
      · rintro ⟨uncounted, rfl⟩
        exact .peek uncounted
      · intro refuses
        cases refuses with
        | peek uncounted => exact ⟨uncounted, rfl⟩
  | _ =>
      -- no other operation can be refused
      constructor <;> intro refused <;> cases refused

/-! ## Moves -/

/--
What an operation can do that is answered: it moves the cursor to the boundary
that was asked for, or over some of the characters in front of it.
-/
theorem operate_cases (whole : source.toList = front ++ unread)
    (answered :
      (behind source front).operate operation = .ok (reply, later)) :
    (∃ offset,
      operation = .moveTo offset ∧
        (behind source front).moveTo offset = .ok later) ∨
      ∃ part rest,
        unread = part ++ rest ∧ later = behind source (front ++ part) := by
  have still :
      ∃ part rest,
        unread = part ++ rest ∧
          behind source front = behind source (front ++ part) :=
    ⟨[], unread, rfl, by rw [List.append_nil]⟩
  have eaten (member : Char → Bool) :
      ∃ part rest,
        unread = part ++ rest ∧
          (behind source front).eatWhile member =
            behind source (front ++ part) :=
    ⟨unread.takeWhile member, unread.dropWhile member,
      List.takeWhile_append_dropWhile.symm, eatWhile_behind member whole⟩
  cases operation with
  | moveTo offset =>
      rcases map_eq_ok_iff.1 answered with ⟨_, moved, same⟩
      cases same
      exact Or.inl ⟨offset, rfl, moved⟩
  | advance =>
      cases answered
      right
      cases unread with
      | nil =>
          rw [advance_behind_nil whole]
          exact still
      | cons first rest =>
          exact ⟨[first], rest, rfl, advance_behind_cons whole⟩
  | eatWhile member =>
      cases answered
      exact Or.inr (eaten member)
  | skipBlanks =>
      cases answered
      exact Or.inr (eaten isBlank)
  | accept expected =>
      cases answered
      right
      by_cases follows : unread.head? = some expected
      · rcases List.head?_eq_some_iff.1 follows with ⟨rest, rfl⟩
        rw [accept_behind_cons whole]
        exact ⟨[expected], rest, rfl, rfl⟩
      · rw [accept_behind_of_ne whole follows]
        exact still
  | charAt distance | peek distance | sliceFrom start =>
      rcases map_eq_ok_iff.1 answered with ⟨_, -, same⟩
      cases same
      exact Or.inr still
  | _ =>
      cases answered
      exact Or.inr still

theorem Stands.moveTo (stands : Stands source cursor)
    (moved : cursor.moveTo offset = .ok later) : Stands source later := by
  rw [← stands.source_eq]
  by_cases boundary : Text.IsBoundary cursor.source.toList offset
  · rw [moveTo_of_isBoundary boundary] at moved
    cases moved
    exact ⟨rfl, boundary⟩
  · rw [moveTo_of_not_isBoundary boundary] at moved
    cases moved

theorem Stands.operate (stands : Stands source cursor)
    (answered : cursor.operate operation = .ok (reply, later)) :
    Stands source later := by
  rcases stands.exists_behind with ⟨front, unread, whole, rfl⟩
  rcases operate_cases whole answered with
    ⟨offset, -, moved⟩ | ⟨part, rest, rfl, rfl⟩
  · exact stands.moveTo moved
  · rw [← List.append_assoc] at whole
    exact stands_behind whole

/-- Only a move to a boundary can lead backwards. -/
theorem Stands.position_le_of_operate (stands : Stands source cursor)
    (answered : cursor.operate operation = .ok (reply, later))
    (other : ∀ offset, operation ≠ .moveTo offset) :
    cursor.position ≤ later.position := by
  rcases stands.exists_behind with ⟨front, unread, whole, rfl⟩
  rcases operate_cases whole answered with
    ⟨offset, moves, -⟩ | ⟨part, rest, -, rfl⟩
  · exact absurd moves (other offset)
  · rw [position_behind, position_behind, Text.size_append]
    exact Nat.le_add_right _ _

end

end Cursor

namespace Checked

open Cursor (Refuses Stands)

section

variable {source : String} {cursor : Cursor}
  {operation : Cursor.Operation}

theorem ofCursor_map {Answer Result : Type}
    (asked : Except CursorFault Answer) (result : Answer → Result) :
    (ofCursor asked >>= fun answer => pure (result answer)) =
      ofCursor (asked.map result) := by
  cases asked <;> rfl

theorem ofCursor_eq_error_iff {Answer : Type} {breach : Breach}
    {asked : Except CursorFault Answer} :
    ofCursor asked = .error breach ↔
      ∃ fault, asked = .error fault ∧ breach = .cursor fault := by
  cases asked <;> simp [ofCursor, eq_comm]

/-- A checked operation answers as the cursor does, or is refused with it. -/
theorem operate_eq (counted : source.utf8ByteSize ≤ Text.maxSize)
    (stands : Stands source cursor) :
    operate operation cursor = ofCursor (cursor.operate operation) := by
  rcases stands.exists_behind with ⟨front, unread, whole, rfl⟩
  have bytewise := Cursor.bytewise_behind ⟨whole, counted⟩
  cases operation with
  | advance =>
      rw [operate, bytewise.advance_eq]
      rfl
  | eatWhile member =>
      rw [operate, bytewise.eatWhile_eq]
      rfl
  | skipBlanks =>
      rw [operate, bytewise.eatWhile_eq]
      rfl
  | accept expected =>
      rw [operate, bytewise.accept_eq]
      rfl
  | current =>
      rw [operate, bytewise.current_eq]
      rfl
  | unread =>
      rw [operate, bytewise.remaining_eq]
      rfl
  | moveTo offset | charAt distance | peek distance | sliceFrom start =>
      exact ofCursor_map _ _
  | _ => rfl

/-- Whether it is answered or not, an operation keeps the invariant. -/
theorem stands_after (counted : source.utf8ByteSize ≤ Text.maxSize)
    (stands : Stands source cursor) (operation : Cursor.Operation) :
    Stands source (after operation cursor) := by
  rw [after, operate_eq counted stands]
  cases answered : cursor.operate operation with
  | error fault => exact stands
  | ok answer => exact stands.operate answered

theorem stands_walk (counted : source.utf8ByteSize ≤ Text.maxSize)
    (stands : Stands source cursor) (operations : List Cursor.Operation) :
    Stands source (walk operations cursor) := by
  induction operations generalizing cursor with
  | nil => exact stands
  | cons operation operations induction =>
      exact induction (stands_after counted stands operation)

/-- A checked operation is refused where the cursor refuses it, nowhere else. -/
theorem operate_eq_error_iff (counted : source.utf8ByteSize ≤ Text.maxSize)
    (stands : Stands source cursor) {breach : Breach} :
    operate operation cursor = .error breach ↔
      ∃ fault, Refuses cursor operation fault ∧ breach = .cursor fault := by
  rw [operate_eq counted stands, ofCursor_eq_error_iff]
  constructor
  · rintro ⟨fault, refused, rfl⟩
    exact ⟨fault, (Cursor.operate_eq_error_iff stands).1 refused, rfl⟩
  · rintro ⟨fault, refuses, rfl⟩
    exact ⟨fault, (Cursor.operate_eq_error_iff stands).2 refuses, rfl⟩

/-- No operation but `moveTo` leads backwards, whether it is refused or not. -/
theorem position_le_after (counted : source.utf8ByteSize ≤ Text.maxSize)
    (stands : Stands source cursor)
    (other : ∀ offset, operation ≠ .moveTo offset) :
    cursor.position ≤ (after operation cursor).position := by
  rw [after, operate_eq counted stands]
  cases answered : cursor.operate operation with
  | error fault => exact Nat.le_refl _
  | ok answer => exact stands.position_le_of_operate answered other

-- a move to an earlier boundary
example : walk [.advance, .moveTo 0] (.start "é") = .start "é" := by
  decide +kernel

end

/-- What holds of an operation that is asked of a cursor. -/
structure Guarded
    (source : String) (cursor : Cursor) (operation : Cursor.Operation) :
    Prop where
  stands : Stands source cursor
  position_le : cursor.position ≤ source.utf8ByteSize
  /-- The checks fail for the listed reasons, and for no others. -/
  breach_iff :
    ∀ breach,
      operate operation cursor = .error breach ↔
        ∃ fault, Refuses cursor operation fault ∧ breach = .cursor fault
  /-- Where no check fails, the answer is that of the cursor. -/
  operate_eq :
    operate operation cursor = ofCursor (cursor.operate operation)
  position_le_after :
    (∀ offset, operation ≠ .moveTo offset) →
      cursor.position ≤ (after operation cursor).position

/--
On a source that fits in memory, a cursor stands between two characters whatever
has been asked of it, and also behind refusals.  The next operation is refused
exactly for the listed reasons, and only `moveTo` can lead backwards.
-/
theorem guarded_of_walk (source : String)
    (counted : source.utf8ByteSize ≤ Text.maxSize)
    (earlier : List Cursor.Operation) (operation : Cursor.Operation) :
    Guarded source (walk earlier (.start source)) operation := by
  have stands : Stands source (walk earlier (.start source)) :=
    stands_walk counted (Cursor.stands_start source) earlier
  exact
    { stands := stands
      position_le := stands.position_le
      breach_iff := fun _ => operate_eq_error_iff counted stands
      operate_eq := operate_eq counted stands
      position_le_after := position_le_after counted stands }

/--
Behind a character of two bytes and three refusals: a move to the inside of this
character, one past the end, and a look at an offset of more than 64 bits.  The
text from the inside of the character on is refused, too.
-/
theorem guarded_behind_refusals :
    "(éß".utf8ByteSize ≤ Text.maxSize ∧
      walk
          [.accept '(', .moveTo 2, .advance, .moveTo 6,
            .charAt Cursor.maxOffset]
          (.start "(éß") =
        ⟨"(éß", 3⟩ ∧
      Guarded "(éß" ⟨"(éß", 3⟩ (.sliceFrom 2) ∧
      operate (.sliceFrom 2) ⟨"(éß", 3⟩ =
        .error (.cursor .notABoundary) := by
  have counted : "(éß".utf8ByteSize ≤ Text.maxSize := by decide +kernel
  have arrives :
      walk
          [.accept '(', .moveTo 2, .advance, .moveTo 6,
            .charAt Cursor.maxOffset]
          (.start "(éß") =
        ⟨"(éß", 3⟩ := by
    decide +kernel
  have guarded : Guarded "(éß" ⟨"(éß", 3⟩ (.sliceFrom 2) := by
    rw [← arrives]
    exact guarded_of_walk "(éß" counted _ (.sliceFrom 2)
  have inside : Text.IsInside "(éß".toList 2 :=
    ⟨['('], 'é', ['ß'], by decide +kernel, by decide, by decide⟩
  have refuses :
      Refuses ⟨"(éß", 3⟩ (.sliceFrom 2) .notABoundary :=
    .sliceFrom (Or.inr inside)
  exact
    ⟨counted, arrives, guarded,
      (guarded.breach_iff _).2 ⟨.notABoundary, refuses, rfl⟩⟩

end Checked

end XPathScan
