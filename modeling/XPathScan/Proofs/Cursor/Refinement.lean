import XPathScan.Proofs.Checked.Cursor
import XPathScan.Proofs.Text.Longest

/-!
# Cursors move over characters

A cursor counts bytes, but between two characters of its text it acts on the
list of the characters in front of it.  It looks at the characters that begin
some bytes ahead, and moves over the first character, over an expected one, or
over the longest prefix of a class.  `Follows` says so of one cursor, and
`follows_of_splitAt?` of every cursor between two characters, and also that
passing over characters byte by byte comes to the same.
-/

namespace XPathScan

namespace Cursor

/-- A cursor that has moved over a part of its text. -/
def moved (cursor : Cursor) (part : Text) : Cursor :=
  { cursor with position := cursor.position + Text.size part }

/-- The operations of a cursor are operations on the text in front of it. -/
structure Follows (cursor : Cursor) (unread : Text) : Prop where
  unread_eq : cursor.unread = unread
  /-- A byte that is looked up directly is decoded in the same way. -/
  decodes :
    ∀ offset,
      decodeAt? cursor.source offset =
        cursor.source.toByteArray.utf8DecodeChar? offset
  charAt_of_begins :
    ∀ distance character,
      cursor.position + distance ≤ maxOffset →
      Text.BeginsAt cursor.source.toList (cursor.position + distance)
        character →
        cursor.charAt distance = .ok character
  charAt_of_none :
    ∀ distance,
      cursor.position + distance ≤ maxOffset →
      (∀ character,
        ¬ Text.BeginsAt cursor.source.toList (cursor.position + distance)
          character) →
        cursor.charAt distance = .ok '\x00'
  advance_of_nil : unread = [] → cursor.advance = cursor
  advance_of_cons :
    ∀ first rest,
      unread = first :: rest →
        cursor.advance = cursor.moved [first] ∧
          cursor.advance.unread = rest
  accept_of_cons :
    ∀ expected rest,
      unread = expected :: rest →
        cursor.accept expected = (true, cursor.moved [expected]) ∧
          (cursor.accept expected).2.unread = rest
  accept_of_ne :
    ∀ expected,
      unread.head? ≠ some expected →
        cursor.accept expected = (false, cursor)
  eatWhile :
    ∀ member,
      ∃ part rest,
        unread = part ++ rest ∧
          Text.LongestPrefix
            (fun text => ∀ character ∈ text, member character = true)
            part unread ∧
          cursor.eatWhile member = cursor.moved part ∧
          (cursor.eatWhile member).unread = rest ∧
          (cursor.eatWhile member).sliceFrom cursor.position = .ok part

/-- Passing over characters byte by byte comes to the same. -/
structure Bytewise (cursor : Cursor) : Prop where
  current_eq : Checked.current cursor = .ok cursor.current
  remaining_eq : Checked.remaining cursor = .ok cursor.unread
  advance_eq : Checked.advance cursor = .ok cursor.advance
  accept_eq :
    ∀ expected,
      Checked.accept expected cursor = .ok (cursor.accept expected)
  eatWhile_eq :
    ∀ member,
      Checked.eatWhile member cursor = .ok (cursor.eatWhile member)

section

variable {source : String} {front part unread : Text} {character : Char}

theorem moved_behind (source : String) (front part : Text) :
    (behind source front).moved part = behind source (front ++ part) := by
  simp [moved, behind]

theorem current?_behind (whole : source.toList = front ++ unread) :
    (behind source front).current? = unread.head? :=
  decodeAt?_of_append whole

theorem unread_behind (whole : source.toList = front ++ unread) :
    (behind source front).unread = unread := by
  simp [Cursor.unread, whole, Text.splitAt?_append]

theorem sliceFrom_behind
    (whole : source.toList = front ++ (part ++ unread)) :
    (behind source (front ++ part)).sliceFrom (Text.size front) =
      .ok part := by
  simp [sliceFrom, whole, Text.slice?_append]

theorem charAt_behind (distance : Nat)
    (counted : Text.size front + distance ≤ maxOffset) :
    (behind source front).charAt distance =
      .ok
        ((decodeAt? source (Text.size front + distance)).getD
          sentinel) :=
  if_neg (Nat.not_lt.2 counted)

theorem advance_behind_nil (whole : source.toList = front ++ []) :
    (behind source front).advance = behind source front := by
  simp [advance, current?_behind whole]

theorem advance_behind_cons
    (whole : source.toList = front ++ character :: unread) :
    (behind source front).advance =
      behind source (front ++ [character]) := by
  simp only [advance, current?_behind whole, List.head?_cons]
  simp [behind]

theorem accept_behind_cons
    (whole : source.toList = front ++ character :: unread) :
    (behind source front).accept character =
      (true, behind source (front ++ [character])) := by
  simp [accept, current?_behind whole, advance_behind_cons whole]

theorem accept_behind_of_ne {expected : Char}
    (whole : source.toList = front ++ unread)
    (other : unread.head? ≠ some expected) :
    (behind source front).accept expected =
      (false, behind source front) := by
  simp [accept, current?_behind whole, other]

theorem eatWhile_behind (member : Char → Bool)
    (whole : source.toList = front ++ unread) :
    (behind source front).eatWhile member =
      behind source (front ++ unread.takeWhile member) := by
  induction unread generalizing front with
  | nil =>
      have ended := current?_behind whole
      rw [Cursor.eatWhile]
      split
      next character found =>
        rw [found] at ended
        cases ended
      next => simp
  | cons first rest induction =>
      have standing := current?_behind whole
      have later : source.toList = front ++ [first] ++ rest := by
        simp [whole]
      rw [Cursor.eatWhile]
      split
      next character found =>
        rw [found, List.head?_cons, Option.some.injEq] at standing
        subst standing
        by_cases joined : member character = true
        · have here := moved_behind source front [character]
          simp only [moved, Text.size_cons, Text.size_nil,
            Nat.add_zero] at here
          rw [if_pos joined, here, induction later,
            List.takeWhile_cons_of_pos joined, List.append_assoc,
            List.singleton_append]
        · rw [if_neg joined, List.takeWhile_cons_of_neg joined,
            List.append_nil]
      next found =>
        rw [found] at standing
        cases standing

/-- A run of a class is the longest prefix of this class. -/
theorem longest_takeWhile (member : Char → Bool) (text : Text) :
    Text.LongestPrefix
      (fun text => ∀ character ∈ text, member character = true)
      (text.takeWhile member) text where
  starts := List.takeWhile_prefix member
  holds := fun _ inside => List.mem_takeWhile_imp inside
  longest := fun _ starts inside => Text.length_le_takeWhile starts inside

/-! ## Cursors between characters -/

theorem follows_behind (whole : source.toList = front ++ unread) :
    Follows (behind source front) unread where
  unread_eq := unread_behind whole
  decodes := decodeAt?_eq_utf8DecodeChar? source
  charAt_of_begins := by
    intro distance character counted begins
    have found := decodeAt?_eq_some_iff.2 begins
    rw [source_behind, position_behind] at found
    rw [charAt_behind distance counted, found]
    rfl
  charAt_of_none := by
    intro distance counted none_begins
    have nothing :
        decodeAt? source (Text.size front + distance) = none := by
      rw [Option.eq_none_iff_forall_ne_some]
      intro character found
      exact none_begins character (decodeAt?_eq_some_iff.1 found)
    rw [charAt_behind distance counted, nothing]
    rfl
  advance_of_nil := by
    rintro rfl
    exact advance_behind_nil whole
  advance_of_cons := by
    rintro first rest rfl
    have later : source.toList = front ++ [first] ++ rest := by
      simp [whole]
    rw [advance_behind_cons whole, moved_behind]
    exact ⟨rfl, unread_behind later⟩
  accept_of_cons := by
    rintro expected rest rfl
    have later : source.toList = front ++ [expected] ++ rest := by
      simp [whole]
    rw [accept_behind_cons whole, moved_behind]
    exact ⟨rfl, unread_behind later⟩
  accept_of_ne := fun expected => accept_behind_of_ne whole
  eatWhile := by
    intro member
    have split :
        unread.takeWhile member ++ unread.dropWhile member = unread :=
      List.takeWhile_append_dropWhile
    rw [← split] at whole
    have later := whole
    rw [← List.append_assoc] at later
    refine
      ⟨unread.takeWhile member, unread.dropWhile member, split.symm,
        longest_takeWhile member unread, ?_⟩
    rw [split] at whole
    rw [eatWhile_behind member whole, moved_behind]
    exact
      ⟨rfl, unread_behind later,
        sliceFrom_behind (later.trans (List.append_assoc _ _ _))⟩

theorem bytewise_behind (cut : Cut source front unread) :
    Bytewise (behind source front) where
  current_eq := by
    rw [Checked.current_behind cut, current, current?_behind cut.whole]
  remaining_eq := by
    rw [Checked.remaining_behind cut, unread_behind cut.whole]
  advance_eq := by
    cases unread with
    | nil =>
        rw [Checked.advance_behind_nil cut, advance_behind_nil cut.whole]
    | cons first rest =>
        rw [Checked.advance_behind cut, advance_behind_cons cut.whole]
  accept_eq := by
    intro expected
    by_cases follows : unread.head? = some expected
    · rcases List.head?_eq_some_iff.1 follows with ⟨rest, rfl⟩
      rw [Checked.accept_behind_cons cut, accept_behind_cons cut.whole]
    · rw [Checked.accept_behind_of_ne cut follows,
        accept_behind_of_ne cut.whole follows]
  eatWhile_eq := by
    intro member
    rw [Checked.eatWhile_behind member cut, eatWhile_behind member cut.whole]

end

/--
A cursor between two characters acts on the text in front of it, whatever the
characters are: it sees the characters that begin some bytes ahead and U+0000
elsewhere, passes over the first character or over an expected one, and over the
longest prefix of a class, which is also what it has moved over.  On a text that
fits in memory, the operations that go byte by byte have these results, too.
-/
theorem follows_of_splitAt? {source : String} {position : Nat}
    {front unread : Text}
    (cut : Text.splitAt? source.toList position = some (front, unread)) :
    Follows ⟨source, position⟩ unread ∧
      (source.utf8ByteSize ≤ Text.maxSize →
        Bytewise ⟨source, position⟩) := by
  rcases Text.eq_append_of_splitAt? cut with ⟨whole, rfl⟩
  exact
    ⟨follows_behind whole, fun counted => bytewise_behind ⟨whole, counted⟩⟩

/--
In front of a null and behind a character of two bytes: there is no character
one byte ahead, the null is passed over as expected, and so are the characters
of a class up to it.
-/
theorem follows_in_front_of_null :
    Text.splitAt? (String.ofList ['(', 'é', 'ß', '\x00', '1']).toList 1 =
        some (['('], ['é', 'ß', '\x00', '1']) ∧
      Follows ⟨String.ofList ['(', 'é', 'ß', '\x00', '1'], 1⟩
        ['é', 'ß', '\x00', '1'] ∧
      Bytewise ⟨String.ofList ['(', 'é', 'ß', '\x00', '1'], 1⟩ := by
  have cut :
      Text.splitAt? (String.ofList ['(', 'é', 'ß', '\x00', '1']).toList 1 =
        some (['('], ['é', 'ß', '\x00', '1']) := by
    rw [String.toList_ofList]
    rfl
  have counted :
      (String.ofList ['(', 'é', 'ß', '\x00', '1']).utf8ByteSize ≤
        Text.maxSize := by
    rw [Text.utf8ByteSize_ofList]
    decide
  rcases follows_of_splitAt? cut with ⟨follows, bytewise⟩
  exact ⟨cut, follows, bytewise counted⟩

end Cursor

end XPathScan
