import XPathScan.Checked.Cursor
import XPathScan.Proofs.Cursor.Decoding
import XPathScan.Proofs.Text.Boundary

/-!
# Checked cursors between characters

A source is cut into a front and the unread text behind it, and a cursor stands
at the cut.  From there every operation of a checked cursor has a result, and
the cursor comes to stand at another cut of the same source.  The cuts are what
all later statements about checked work are made of, so that none of them counts
bytes again.
-/

namespace XPathScan

/-- The cursor behind a front of a source. -/
def Cursor.behind (source : String) (front : Text) : Cursor :=
  ⟨source, Text.size front⟩

@[simp]
theorem Cursor.source_behind (source : String) (front : Text) :
    (Cursor.behind source front).source = source := rfl

@[simp]
theorem Cursor.position_behind (source : String) (front : Text) :
    (Cursor.behind source front).position = Text.size front := rfl

/--
A source of which `front` has been read and `unread` has not, and whose bytes
can be counted.
-/
structure Cut (source : String) (front unread : Text) : Prop where
  whole : source.toList = front ++ unread
  counted : source.utf8ByteSize ≤ Text.maxSize

namespace Cut

variable {source : String} {front part unread : Text} {character : Char}

/-- What is read goes over from the unread text to the front. -/
theorem move (cut : Cut source front (part ++ unread)) :
    Cut source (front ++ part) unread where
  whole := by rw [cut.whole, List.append_assoc]
  counted := cut.counted

theorem move_of_eq {rest : Text} (cut : Cut source front unread)
    (split : part ++ rest = unread) :
    Cut source (front ++ part) rest := by
  subst split
  exact cut.move

theorem move_one (cut : Cut source front (character :: unread)) :
    Cut source (front ++ [character]) unread :=
  @move source front [character] unread cut

/-- The characters of a class go over together. -/
theorem move_takeWhile (member : Char → Bool)
    (cut : Cut source front unread) :
    Cut source (front ++ unread.takeWhile member)
      (unread.dropWhile member) :=
  cut.move_of_eq List.takeWhile_append_dropWhile

theorem size_eq (cut : Cut source front unread) :
    Text.size front + Text.size unread = source.utf8ByteSize := by
  rw [← Text.size_append, ← cut.whole]
  exact Text.size_toList source

theorem position_le (cut : Cut source front unread) :
    Text.size front ≤ Text.maxSize := by
  have total := cut.size_eq
  have counted := cut.counted
  omega

/-- Behind the whole source. -/
theorem position_eq_size (cut : Cut source front []) :
    Text.size front = source.utf8ByteSize :=
  cut.size_eq

end Cut

namespace Checked

variable {source : String} {front part unread : Text} {character : Char}

/-! ## Single operations -/

/-- The offset of a later cut can be counted. -/
theorem add_eq_ok (cut : Cut source front (part ++ unread)) :
    add (Text.size front) (Text.size part) =
      .ok (Text.size front + Text.size part) := by
  have bound := cut.move.position_le
  have small : Text.maxSize ≤ Cursor.maxOffset := by decide
  rw [Text.size_append] at bound
  exact if_pos (Nat.le_trans bound small)

theorem span_eq_ok {start stop : Nat} (order : start ≤ stop) :
    span start stop = .ok ⟨start, stop⟩ := by
  rw [span, Span.ordered?, if_pos order]

theorem subtract_eq_ok {left right : Nat} (order : right ≤ left) :
    subtract left right = .ok (left - right) :=
  if_pos order

/-- A slice between two cuts of a source. -/
theorem slice_eq_ok (cut : Cut source front (part ++ unread)) :
    slice source.toList (Text.size front)
        (Text.size front + Text.size part) =
      .ok part := by
  rw [slice, cut.whole, Text.slice?_append]

-- there is no cut inside of a character
example : slice ['é', '='] 1 3 = .error .cut := rfl

/-! ## Looking -/

theorem atEnd_behind (cut : Cut source front unread) :
    (Cursor.behind source front).atEnd = unread.isEmpty := by
  have total := cut.size_eq
  rw [Cursor.atEnd, Cursor.source_behind, Cursor.position_behind]
  cases unread with
  | nil => exact decide_eq_true (Nat.le_of_eq total.symm)
  | cons first rest =>
      have positive := first.utf8Size_pos
      rw [Text.size_cons] at total
      exact decide_eq_false (by omega)

/-- Behind a front, decoding finds the first unread character. -/
theorem decodeAt?_behind (cut : Cut source front unread) :
    Cursor.decodeAt? source (Text.size front) = unread.head? :=
  Cursor.decodeAt?_of_append cut.whole

/-- Looking ahead over some characters finds the one behind them. -/
theorem charAt_behind (cut : Cut source front (part ++ unread)) :
    charAt (Cursor.behind source front) (Text.size part) =
      .ok (unread.head?.getD Cursor.sentinel) := by
  have found := decodeAt?_behind cut.move
  have bound := cut.move.position_le
  have small : Text.maxSize ≤ Cursor.maxOffset := by decide
  rw [Text.size_append] at found bound
  rw [charAt, Cursor.charAt, Cursor.position_behind, Cursor.source_behind,
    if_neg (Nat.not_lt.2 (Nat.le_trans bound small)), found]
  rfl

theorem current_behind (cut : Cut source front unread) :
    current (Cursor.behind source front) =
      .ok (unread.head?.getD Cursor.sentinel) :=
  @charAt_behind source front [] unread cut

/-- Only the end of the text is seen as the sentinel. -/
theorem head?_getD_eq_iff {wanted : Char}
    (visible : wanted ≠ Cursor.sentinel) :
    unread.head?.getD Cursor.sentinel = wanted ↔
      ∃ rest, unread = wanted :: rest := by
  cases unread with
  | nil => simp [visible.symm]
  | cons first rest => simp

/-- Behind a character of one byte, the next one begins one byte further. -/
theorem charAt_one_behind (narrow : character.utf8Size = 1)
    (cut : Cut source front (character :: unread)) :
    charAt (Cursor.behind source front) 1 =
      .ok (unread.head?.getD Cursor.sentinel) := by
  rw [← narrow]
  exact @charAt_behind source front [character] unread cut

theorem remaining_behind (cut : Cut source front unread) :
    remaining (Cursor.behind source front) = .ok unread := by
  rw [remaining, Cursor.source_behind, Cursor.position_behind, cut.whole,
    Text.splitAt?_append]

/-! ## Moving -/

theorem behind_append (source : String) (front part : Text) :
    Cursor.behind source (front ++ part) =
      ⟨source, Text.size front + Text.size part⟩ := by
  rw [Cursor.behind, Text.size_append]

theorem pass_behind (cut : Cut source front (part ++ unread)) :
    pass (Cursor.behind source front) (Text.size part) =
      .ok (Cursor.behind source (front ++ part)) := by
  rw [pass, Cursor.position_behind, add_eq_ok cut, ok_bind, behind_append,
    Cursor.source_behind, pure_eq_ok]

/-- A character is passed over whole, whatever the number of its bytes. -/
theorem advance_behind (cut : Cut source front (character :: unread)) :
    advance (Cursor.behind source front) =
      .ok (Cursor.behind source (front ++ [character])) := by
  have found := decodeAt?_behind cut
  have inside : (⟨Text.size front⟩ : String.Pos.Raw) < source.rawEndPos :=
    Cursor.lt_size_of_decodeAt? found
  have passed :
      pass (Cursor.behind source front) character.utf8Size =
        .ok (Cursor.behind source (front ++ [character])) :=
    @pass_behind source front [character] unread cut
  unfold advance
  split
  next =>
    split
    next ascii =>
      rw [Cursor.utf8Size_of_decodeAt? inside ascii found] at passed
      exact passed
    next =>
      rw [remaining_behind cut, ok_bind]
      exact passed
  next outside => exact absurd inside outside

/-- At the end nothing is passed over. -/
theorem advance_behind_nil (cut : Cut source front []) :
    advance (Cursor.behind source front) =
      .ok (Cursor.behind source front) := by
  have ended :
      ¬ (⟨Text.size front⟩ : String.Pos.Raw) < source.rawEndPos :=
    Nat.not_lt.2 (Nat.le_of_eq cut.position_eq_size.symm)
  exact dif_neg ended

theorem eatWhile_behind (member : Char → Bool)
    (cut : Cut source front unread) :
    eatWhile member (Cursor.behind source front) =
      .ok (Cursor.behind source (front ++ unread.takeWhile member)) := by
  induction unread generalizing front with
  | nil =>
      have ended : ¬ Text.size front < source.utf8ByteSize :=
        Nat.not_lt.2 (Nat.le_of_eq cut.position_eq_size.symm)
      rw [eatWhile, List.takeWhile_nil, List.append_nil]
      exact dif_neg ended
  | cons first rest induction =>
      have inside : Text.size front < source.utf8ByteSize :=
        Cursor.lt_size_of_decodeAt? (decodeAt?_behind cut)
      have looked := current_behind cut
      have advanced := advance_behind cut
      have later := induction cut.move_one
      unfold eatWhile
      split
      next =>
        rw [looked, ok_bind, List.head?_cons, Option.getD_some]
        by_cases joined : member first = true
        · rw [if_pos joined, List.takeWhile_cons_of_pos joined]
          split
          next breach failed =>
            rw [advanced] at failed
            cases failed
          next next passed =>
            rw [advanced] at passed
            cases passed
            rw [later, List.append_assoc]
            rfl
        · rw [if_neg joined, List.takeWhile_cons_of_neg joined,
            List.append_nil, pure_eq_ok]
      next outside => exact absurd inside outside

/-! ## Accepting -/

/-- The expected character is passed over. -/
theorem accept_behind_cons (cut : Cut source front (character :: unread)) :
    accept character (Cursor.behind source front) =
      .ok (true, Cursor.behind source (front ++ [character])) := by
  rw [accept, atEnd_behind cut, current_behind cut, advance_behind cut]
  exact if_pos rfl

/-- Nothing is passed over where another character or the end follows. -/
theorem accept_behind_of_ne {expected : Char}
    (cut : Cut source front unread) (other : unread.head? ≠ some expected) :
    accept expected (Cursor.behind source front) =
      .ok (false, Cursor.behind source front) := by
  rw [accept, atEnd_behind cut, current_behind cut]
  cases unread with
  | nil => rfl
  | cons first rest =>
      have different : first ≠ expected := fun same =>
        other (congrArg some same)
      exact if_neg different

/-! ## Cutting -/

theorem moveTo_behind (cut : Cut source front unread) (earlier : Text) :
    moveTo (Text.size front) (Cursor.behind source earlier) =
      .ok (Cursor.behind source front) := by
  have valid :=
    (Text.isValid_iff_exists_split source (Text.size front)).2
      ⟨front, unread, cut.whole, rfl⟩
  exact congrArg ofCursor (if_pos valid)

theorem sliceFrom_behind (cut : Cut source front (part ++ unread)) :
    sliceFrom (Cursor.behind source (front ++ part)) (Text.size front) =
      .ok part := by
  rw [sliceFrom, Cursor.sliceFrom, behind_append, cut.whole,
    Text.slice?_append]
  rfl

end Checked

end XPathScan
