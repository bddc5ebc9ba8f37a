import XPathScan.Proofs.Command.Counting

/-!
# How many steps a scan takes

Every lexeme but the end begins with a character that is no blank, whether it is
sound or malformed, and a step only leaves behind what it has passed.  So each
step that is made lowers the number of such characters ahead
(`Placed.ahead_next_lt`), and their number bounds the steps to the end, the
items of a stream and what a check counts, be its counter checked or not.
-/

namespace XPathScan

namespace Text

/-- The number of characters other than blanks. -/
def nonBlanks (text : Text) : Nat :=
  text.countP fun character => !isBlank character

theorem nonBlanks_append (front behind : Text) :
    nonBlanks (front ++ behind) = nonBlanks front + nonBlanks behind :=
  List.countP_append

/-- Skipping blanks loses no other character. -/
theorem nonBlanks_dropWhile (text : Text) :
    nonBlanks (text.dropWhile isBlank) = nonBlanks text := by
  have skipped : nonBlanks (text.takeWhile isBlank) = 0 := by
    rw [nonBlanks, List.countP_eq_zero]
    intro character member
    simp [List.mem_takeWhile_imp member]
  calc
    nonBlanks (text.dropWhile isBlank)
        = nonBlanks (text.takeWhile isBlank) +
            nonBlanks (text.dropWhile isBlank) := by
          rw [skipped, Nat.zero_add]
    _ = nonBlanks text := by
          rw [← nonBlanks_append, List.takeWhile_append_dropWhile]

theorem nonBlanks_pos {text : Text} (filled : text ≠ [])
    (no_blank : ∀ first ∈ text.head?, isBlank first = false) :
    0 < nonBlanks text := by
  rcases List.exists_cons_of_ne_nil filled with ⟨first, rest, rfl⟩
  apply List.countP_pos_iff.2
  refine ⟨first, List.mem_cons_self, ?_⟩
  simp [no_blank first rfl]

end Text

namespace Scanner

/-! ## The characters ahead -/

/-- The number of characters ahead that are no blanks. -/
def ahead (scanner : Scanner) : Nat :=
  Text.nonBlanks (scanner.current.text ++ scanner.unread)

/-- Whatever is read at a place, all of its characters are ahead. -/
theorem ahead_seek (source : Text) (position : Nat)
    (previous : Option Kind) (unread : Text) :
    (seek source position previous unread).ahead =
      Text.nonBlanks unread := by
  have loses_nothing :=
    Lexeme.text_append_read previous (unread.dropWhile isBlank)
  rw [← Text.nonBlanks_dropWhile unread, ← loses_nothing]
  rfl

section

variable {source front gap : Text} {offset : Nat} {scanner : Scanner}

/-- A scanner in front of blanks only stands on the end. -/
theorem Placed.kind_eq_eof_of_ahead
    (placed : Placed source offset scanner front gap)
    (nothing : scanner.ahead = 0) : scanner.kind = .eof := by
  rw [placed.kind_eq_eof_iff]
  by_contra filled
  have positive := Text.nonBlanks_pos filled placed.ahead_not_blank
  rw [ahead] at nothing
  omega

/-- Every step that is made leaves a character behind that is no blank. -/
theorem Placed.ahead_next_lt
    (placed : Placed source offset scanner front gap)
    (inside : scanner.kind ≠ .eof) :
    scanner.next.ahead < scanner.ahead := by
  have filled : scanner.current.text ≠ [] := by
    rw [Ne, placed.text_eq_nil_iff]
    exact inside
  have no_blank :
      ∀ first ∈ scanner.current.text.head?, isBlank first = false := by
    intro first member
    apply placed.ahead_not_blank
    rw [List.head?_append, Option.mem_def.1 member]
    rfl
  have positive := Text.nonBlanks_pos filled no_blank
  rw [next_of_ne_eof inside, ahead_seek, ahead, Text.nonBlanks_append]
  omega

/-- Where a scanner starts, the text behind the offset is ahead. -/
theorem ahead_of_start? {source front behind : Text} {offset : Nat}
    {first : Scanner}
    (cut : source.splitAt? offset = some (front, behind))
    (started : start? source offset = .ok first) :
    first.ahead = Text.nonBlanks behind := by
  rcases eq_seek_of_start? started with
    ⟨front', behind', whole, size_front, -, rfl, -⟩
  rw [Text.splitAt?_eq_some_iff.2 ⟨whole, size_front⟩, Option.some.injEq,
    Prod.mk.injEq] at cut
  rw [ahead_seek, cut.2]

/-! ## Bounds -/

/-- As many steps as there are characters ahead lead to the end. -/
theorem Placed.kind_advanced_of_ahead_le
    (placed : Placed source offset scanner front gap) {count : Nat}
    (enough : scanner.ahead ≤ count) :
    (scanner.advanced count).kind = .eof := by
  induction count generalizing scanner front gap with
  | zero =>
      exact placed.kind_eq_eof_of_ahead (Nat.le_zero.1 enough)
  | succ count induction =>
      rw [← advanced_next]
      by_cases ended : scanner.kind = .eof
      · have nothing : scanner.ahead = 0 := by
          rw [ahead, placed.kind_eq_eof_iff.1 ended]
          rfl
        rw [next_of_eof ended]
        apply induction placed
        omega
      · apply induction (placed.next ended)
        have fewer := placed.ahead_next_lt ended
        omega

theorem Placed.length_states_le
    (placed : Placed source offset scanner front gap) :
    scanner.states.length ≤ scanner.ahead + 1 := by
  induction scanner using states.induct generalizing front gap with
  | case1 scanner ended =>
      rw [states, if_pos ended]
      exact Nat.le_add_left 1 _
  | case2 scanner inside induction =>
      have later := induction (placed.next inside)
      have fewer := placed.ahead_next_lt inside
      rw [states, if_neg inside, List.length_cons]
      omega

theorem length_states_pos (scanner : Scanner) :
    0 < scanner.states.length := by
  rw [states]
  split
  · exact Nat.one_pos
  · exact Nat.succ_pos _

/-- A stream yields no more items than there are lexemes, with the end. -/
theorem length_items_le (scanner : Scanner) :
    (Stream.items ⟨scanner, .ready⟩).length ≤ scanner.states.length := by
  induction scanner using states.induct with
  | case1 scanner ended =>
      rw [Stream.items_of_eof ended, states, if_pos ended]
      exact Nat.le_refl 1
  | case2 scanner inside induction =>
      rw [states, if_neg inside, List.length_cons]
      cases found : scanner.next.diagnostic? with
      | none =>
          rw [Stream.items_of_sound inside found]
          exact Nat.succ_le_succ induction
      | some diagnostic =>
          rw [Stream.items_of_malformed inside found]
          exact Nat.succ_le_succ (length_states_pos scanner.next)

theorem Placed.counted_le
    (placed : Placed source offset scanner front gap) :
    scanner.counted ≤ scanner.ahead := by
  have items := length_items_le scanner
  have states := placed.length_states_le
  rw [items_ready, length_items_pulled] at items
  omega

end

end Scanner

namespace Command

open Scanner (Placed)

/-- The loop of a check is the whole of it. -/
theorem result_check_eq_countSteps {source : Text} {offset : Nat}
    {first : Scanner}
    (started : Scanner.start? source offset = .ok first) :
    (check offset source).result =
      match countSteps first 0 with
      | (count, none) => .ok (verdict count.toInt)
      | (_, some diagnostic) => .error (.malformed diagnostic) := by
  rw [check, started]
  dsimp only
  rcases countSteps first 0 with ⟨count, _ | diagnostic⟩ <;> rfl

/--
Scanning ends within the characters other than blanks.

Wherever a scanner starts, take the number of these characters behind the
offset.  After so many steps the scanner stands on the end, whether steps fail
or not.  Its stream yields at most one item more, and nothing behind.  And the
loop of a check comes to its end with a count that is not greater: it counts no
more lexemes than that, with a counter that wraps around, and a checked counter
comes to the same unless `2 ^ 31` lexemes fill it.
-/
theorem ends_within_nonBlanks {source front behind : Text} {offset : Nat}
    {first : Scanner}
    (cut : source.splitAt? offset = some (front, behind))
    (started : Scanner.start? source offset = .ok first) :
    (∀ count,
      Text.nonBlanks behind ≤ count →
        (first.advanced count).kind = .eof) ∧
    (∃ stream yielded,
      Stream.start? source offset = .ok stream ∧
        yielded ≤ Text.nonBlanks behind + 1 ∧
        ∀ count, stream.nth? count = none ↔ yielded ≤ count) ∧
    (first.counted ≤ Text.nonBlanks behind ∧
      (countSteps first 0).1 = Int32.ofNat first.counted ∧
      (countSteps first 0).1.toInt ≤ Text.nonBlanks behind ∧
      Checked.countSteps first 0 =
        if first.counted < 2 ^ 31 then
          .ok (countSteps first 0)
        else
          .error .overflow) ∧
    (check offset source).result =
      match countSteps first 0 with
      | (count, none) => .ok (verdict count.toInt)
      | (_, some diagnostic) => .error (.malformed diagnostic) := by
  have total := Scanner.ahead_of_start? cut started
  rcases Scanner.placed_of_start? started with ⟨_, gap, placed, -⟩
  have states := placed.length_states_le
  have counted := placed.counted_le
  rw [total] at states counted
  refine
    ⟨?_, ?_, ⟨counted, ?_, ?_, Checked.countSteps_zero first⟩,
      result_check_eq_countSteps started⟩
  · intro count enough
    apply placed.kind_advanced_of_ahead_le
    rw [total]
    exact enough
  · have items := Scanner.length_items_le first
    refine
      ⟨_, (Stream.items ⟨first, .ready⟩).length,
        Stream.start?_of_scanner started, Nat.le_trans items states, ?_⟩
    intro count
    rw [Stream.nth?_eq_getElem?, List.getElem?_eq_none_iff]
  · rw [countSteps_zero]
  · rw [countSteps_zero]
    exact (toInt_ofNat_le first.counted).trans (Int.ofNat_le.2 counted)

/-- A name, a null and a quote that is not closed take a step each. -/
theorem ends_within_nonBlanks_open :
    ∃ first diagnostic,
      Scanner.start? ['(', 'é', '\n', '\x00', '\'', '\t'] 1 = .ok first ∧
        (first.advanced 2).diagnostic? = some diagnostic ∧
        (first.advanced 2).kind ≠ .eof ∧
        (first.advanced 3).kind = .eof ∧
        countSteps first 0 = (2, some diagnostic) ∧
        Checked.countSteps first 0 = .ok (2, some diagnostic) ∧
        (check 1 ['(', 'é', '\n', '\x00', '\'', '\t']).result =
          .error (.malformed diagnostic) := by
  let first : Scanner :=
    Scanner.seek ['(', 'é', '\n', '\x00', '\'', '\t'] 1 none
      ['é', '\n', '\x00', '\'', '\t']
  have cut :
      Text.splitAt? ['(', 'é', '\n', '\x00', '\'', '\t'] 1 =
        some (['('], ['é', '\n', '\x00', '\'', '\t']) := rfl
  have started :
      Scanner.start? ['(', 'é', '\n', '\x00', '\'', '\t'] 1 =
        .ok first := rfl
  have goes_on := @countSteps_of_sound first (by decide) rfl 0
  have fails := @countSteps_of_malformed first.next _ (by decide) rfl 1
  have counts := goes_on.trans fails
  have counted : first.counted = 2 := by
    rw [@Scanner.counted_of_sound first (by decide) rfl,
      @Scanner.counted_of_malformed first.next _ (by decide) rfl]
  rcases ends_within_nonBlanks cut started with
    ⟨ends, -, ⟨-, -, -, checked⟩, result⟩
  rw [counted, if_pos (by decide), counts] at checked
  rw [counts] at result
  exact
    ⟨first, _, started, rfl, by decide, ends 3 (by decide), counts, checked,
      result⟩

end Command

end XPathScan
