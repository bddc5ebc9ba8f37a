import XPathScan.Checked.Lexeme
import XPathScan.Proofs.Checked.Cursor
import XPathScan.Proofs.Lexeme.Longest

/-!
# Checked reading agrees with reading

Reading a lexeme with a checked cursor has a result wherever the cursor stands
between two characters, and the result is the lexeme that is read off the
unread text, with what it carries set in fields that were clear: `read_behind`
is the main statement.  It is assembled from one such statement for each kind of
lexeme, and these from the statements about single operations of a cursor.
-/

namespace XPathScan

/-- What a lexeme carries, field by field. -/
def Payload.detail : Payload → Detail
  | .nothing => .nothing
  | .name qualifier word callable =>
      { Detail.nothing with
        qualifier := qualifier
        word := word
        callable := callable }
  | .string body => { Detail.nothing with body := body }
  | .axis named => { Detail.nothing with axis := named }

namespace Lexeme

/-- The place of a lexeme behind a front of a source. -/
def place (source : String) (front : Text) (lexeme : Lexeme) : Anchor :=
  ⟨source.toList, ⟨Text.size front, Text.size (front ++ lexeme.text)⟩⟩

/-- What comes of reading a lexeme behind a front of a source. -/
def reading (source : String) (front : Text) (lexeme : Lexeme) : Reading where
  cursor := .behind source (front ++ lexeme.text)
  outcome :=
    match lexeme.fault with
    | some fault =>
        .error ((lexeme.place source front).complain fault.complaint)
    | none => .ok lexeme.kind
  detail := lexeme.payload.detail

end Lexeme

namespace Checked

variable {source : String} {front part unread : Text}

theorem span_behind (front part : Text) :
    span (Text.size front) (Text.size (front ++ part)) =
      .ok ⟨Text.size front, Text.size (front ++ part)⟩ := by
  apply span_eq_ok
  rw [Text.size_append]
  exact Nat.le_add_right _ _

theorem anchor_behind (source : String) (front part : Text) :
    anchor (Text.size front) (.behind source (front ++ part)) =
      .ok
        ⟨source.toList,
          ⟨Text.size front, Text.size (front ++ part)⟩⟩ := by
  rw [anchor, Cursor.position_behind, span_behind]
  rfl

/-! ## Strings -/

theorem find?_eq_none {wanted : Char} {text : Text}
    (outside : wanted ∉ text) :
    find? wanted text = none :=
  if_neg outside

theorem find?_append_cons {wanted : Char} {body rest : Text}
    (outside : wanted ∉ body) :
    find? wanted (body ++ wanted :: rest) = some (Text.size body) := by
  have member : wanted ∈ body ++ wanted :: rest :=
    List.mem_append_right body List.mem_cons_self
  rw [find?, if_pos member,
    Text.takeWhile_append_cons (Text.bne_of_not_mem outside)
      (bne_self_eq_false wanted)]

theorem readString_behind {quote : Char}
    (cut : Cut source front (quote :: unread)) :
    readString quote (Text.size front) .nothing (.behind source front) =
      .ok ((Lexeme.readString quote unread).1.reading source front) := by
  have opened := cut.move_one
  simp only [readString, advance_behind cut, remaining_behind opened, ok_bind]
  by_cases closing : quote ∈ unread
  · rcases List.eq_append_cons_of_mem closing with
      ⟨body, rest, rfl, outside⟩
    have filled := opened.move
    simp only [find?_append_cons outside, Cursor.position_behind,
      Cursor.source_behind, add_eq_ok opened, slice_eq_ok opened, ok_bind]
    rw [← Text.size_append, moveTo_behind filled, ok_bind,
      advance_behind filled, ok_bind, Lexeme.readString_append outside]
    have text :
        front ++ [quote] ++ body ++ [quote] =
          front ++ quote :: (body ++ [quote]) := by
      simp
    rw [text]
    rfl
  · have ended : Cut source (front ++ quote :: unread) [] :=
      cut.move_of_eq (List.append_nil _)
    rw [find?_eq_none closing, Lexeme.readString_of_not_mem closing]
    simp only [Cursor.source_behind, ← ended.position_eq_size,
      moveTo_behind ended, anchor_behind, span_behind, ok_bind]
    rfl

/-! ## Numbers -/

theorem passNumeral_behind (cut : Cut source front unread) :
    passNumeral (.behind source front) =
      .ok (.behind source (front ++ (Lexeme.splitNumeral unread).1)) := by
  have digits := cut.move_takeWhile isDigit
  unfold Lexeme.splitNumeral
  split
  next rest pointed =>
    rw [pointed] at digits
    simp only [passNumeral, eatWhile_behind isDigit cut, ok_bind,
      accept_behind_cons digits, if_true,
      eatWhile_behind isDigit digits.move_one]
    simp
  next rest no_point =>
    have other : (unread.dropWhile isDigit).head? ≠ some '.' := by
      intro pointed
      rcases List.head?_eq_some_iff.1 pointed with ⟨rest, found⟩
      exact no_point rest found
    simp only [passNumeral, eatWhile_behind isDigit cut, ok_bind,
      accept_behind_of_ne digits other]
    rfl

theorem passSign_behind (cut : Cut source front unread) :
    passSign (.behind source front) =
      .ok (.behind source (front ++ (Lexeme.splitSign unread).1)) := by
  have looked := current_behind cut
  unfold Lexeme.splitSign
  split
  next rest =>
    rw [passSign, looked, ok_bind]
    exact advance_behind cut
  next rest =>
    rw [passSign, looked, ok_bind]
    exact advance_behind cut
  next no_plus no_minus =>
    have unsigned :
        ¬ (unread.head?.getD Cursor.sentinel = '+' ∨
          unread.head?.getD Cursor.sentinel = '-') := by
      rintro (plus | minus)
      · rcases (head?_getD_eq_iff (by decide)).1 plus with ⟨rest, found⟩
        exact no_plus rest found
      · rcases (head?_getD_eq_iff (by decide)).1 minus with ⟨rest, found⟩
        exact no_minus rest found
    rw [passSign, looked, ok_bind, if_neg unsigned, List.append_nil]
    rfl

theorem readNumber_behind (cut : Cut source front unread) :
    readNumber (Text.size front) .nothing (.behind source front) =
      .ok ((Lexeme.readNumber unread).1.reading source front) := by
  have numeral := cut.move_of_eq (Lexeme.splitNumeral_append unread)
  have looked := current_behind numeral
  unfold Lexeme.readNumber
  split
  next exponent rest found =>
    rcases Lexeme.splitExponent?_eq_some_iff.1 found with
      ⟨mark, behind, ahead, marked, rfl, -⟩
    rw [ahead] at numeral looked
    have signed := numeral.move_one.move_of_eq (Lexeme.splitSign_append behind)
    have marked' : mark = 'e' ∨ mark = 'E' := marked
    simp only [readNumber, passNumeral_behind cut, looked, List.head?_cons,
      Option.getD_some, if_pos marked', advance_behind numeral,
      passSign_behind numeral.move_one, eatWhile_behind isDigit signed,
      ok_bind]
    simp only [List.append_assoc, List.cons_append, List.nil_append,
      anchor_behind, ok_bind]
    rfl
  next found =>
    have unmarked :
        ¬ ((Lexeme.splitNumeral unread).2.head?.getD Cursor.sentinel = 'e' ∨
          (Lexeme.splitNumeral unread).2.head?.getD Cursor.sentinel = 'E') := by
      have absent := Lexeme.splitExponent?_eq_none_iff.1 found
      cases ahead : (Lexeme.splitNumeral unread).2 with
      | nil => decide
      | cons mark behind =>
          rw [ahead] at absent
          exact absent mark rfl
    simp only [readNumber, passNumeral_behind cut, looked, ok_bind,
      if_neg unmarked]
    rfl

/-! ## Names -/

theorem eatName_behind {first : Char}
    (cut : Cut source front (first :: unread))
    (inside : isNameChar first = true) :
    eatName (.behind source front) =
      .ok
        ((first :: unread).takeWhile isNameChar,
          .behind source
            (front ++ (first :: unread).takeWhile isNameChar)) := by
  have others := eatWhile_behind isNameChar cut.move_one
  have word :
      Cut source front
        ((first :: unread).takeWhile isNameChar ++
          (first :: unread).dropWhile isNameChar) := by
    rw [List.takeWhile_append_dropWhile]
    exact cut
  have sliced := sliceFrom_behind word
  rw [List.takeWhile_cons_of_pos inside] at sliced ⊢
  rw [List.append_assoc, List.singleton_append] at others
  simp only [eatName, advance_behind cut, others, Cursor.position_behind,
    sliced, ok_bind, pure_eq_ok]

/-- Only a name without a qualifier is read as an operator. -/
theorem qualifier_of_settle {previous : Option Kind} {qualifier word : Text}
    (operator : settle .name word qualifier previous ≠ .name) :
    qualifier = [] := by
  rcases settle_cases .name word qualifier previous with
    kept | ⟨kind, found, -⟩
  · exact absurd kept operator
  · cases qualifier with
    | nil => rfl
    | cons first rest => cases found

theorem parenthesisFollows_eq (behind : Text) :
    Lexeme.parenthesisFollows behind =
      decide (behind.head?.getD Cursor.sentinel = '(') := by
  unfold Lexeme.parenthesisFollows
  split
  next rest => rfl
  next other =>
    apply Eq.symm
    apply decide_eq_false
    intro opening
    rcases (head?_getD_eq_iff (by decide)).1 opening with ⟨rest, found⟩
    exact other rest found

theorem finishName_behind (previous : Option Kind) (qualifier word : Text)
    (cut : Cut source (front ++ part) unread) :
    finishName previous
        { Detail.nothing with qualifier := qualifier, word := word }
        (.behind source (front ++ part)) =
      .ok
        ((Lexeme.ofName previous qualifier word part unread).reading
          source front) := by
  rw [finishName, current_behind cut, ok_bind]
  unfold Lexeme.ofName
  split
  next named =>
    dsimp only
    rw [if_pos named, named, parenthesisFollows_eq]
    rfl
  next operator =>
    dsimp only
    rw [if_neg operator, qualifier_of_settle operator]
    rfl

theorem finishWord_behind (previous : Option Kind)
    (cut : Cut source (front ++ part) unread) :
    finishWord previous part .nothing (.behind source (front ++ part)) =
      .ok ((Lexeme.ofWord previous part unread).reading source front) := by
  have named := finishName_behind previous [] part cut
  simp only [finishWord, atSeparator, remaining_behind cut, ok_bind,
    pure_eq_ok]
  by_cases is_axis :
      Lexeme.separatorFollows unread = true ∧
        Axis.ofSpelling part ≠ .unknown
  · rw [if_pos is_axis, Lexeme.ofWord, if_pos is_axis]
    rfl
  · rw [if_neg is_axis, Lexeme.ofWord, if_neg is_axis]
    exact named

/-- A colon and a star are passed over, and the star is cut out. -/
theorem readTail_star (previous : Option Kind)
    (cut : Cut source (front ++ part) (':' :: '*' :: unread)) :
    readTail previous part .nothing (.behind source (front ++ part)) =
      finishName previous
        { Detail.nothing with qualifier := part, word := ['*'] }
        (.behind source (front ++ (part ++ ':' :: ['*']))) := by
  have star := cut.move_one
  have summed :
      add (Text.size (front ++ part ++ [':'])) 1 =
        .ok (Text.size (front ++ part ++ [':']) + 1) :=
    @add_eq_ok source (front ++ part ++ [':']) ['*'] unread star
  have sliced :
      slice source.toList (Text.size (front ++ part ++ [':']))
          (Text.size (front ++ part ++ [':']) + 1) =
        .ok ['*'] :=
    @slice_eq_ok source (front ++ part ++ [':']) ['*'] unread star
  have no_start : ¬ isNameStart '*' = true := by decide
  simp only [readTail, current_behind cut, charAt_one_behind rfl cut,
    advance_behind cut, advance_behind star, Cursor.position_behind,
    Cursor.source_behind, summed, sliced, List.head?_cons,
    Option.getD_some, if_true, if_neg no_start, ok_bind]
  simp only [List.append_assoc, List.cons_append, List.nil_append]

/-- A colon and a name behind it are passed over, and the name is cut out. -/
theorem readTail_local (previous : Option Kind) {first : Char}
    (start : isNameStart first = true)
    (cut : Cut source (front ++ part) (':' :: first :: unread)) :
    readTail previous part .nothing (.behind source (front ++ part)) =
      finishName previous
        { Detail.nothing with
          qualifier := part
          word := first :: unread.takeWhile isNameChar }
        (.behind source
          (front ++ (part ++ ':' :: first :: unread.takeWhile isNameChar))) :=
    by
  have inside := isNameChar_of_isNameStart start
  have eaten := eatName_behind cut.move_one inside
  rw [List.takeWhile_cons_of_pos inside] at eaten
  simp only [readTail, current_behind cut, charAt_one_behind rfl cut,
    advance_behind cut, eaten, List.head?_cons, Option.getD_some, if_true,
    if_pos start, ok_bind]
  simp only [List.append_assoc, List.cons_append, List.nil_append]

/-- A name in front of a local part is a qualifier. -/
theorem readTail_qualified (previous : Option Kind) {localPart rest : Text}
    (cut : Cut source (front ++ part) unread)
    (found : Lexeme.splitLocalPart? unread = some (localPart, rest)) :
    readTail previous part .nothing (.behind source (front ++ part)) =
      .ok
        ((Lexeme.ofQualified previous part localPart rest).reading
          source front) := by
  have ended := cut.move_of_eq (Lexeme.splitLocalPart?_append found)
  rw [List.append_assoc] at ended
  have finished := finishName_behind previous part localPart ended
  unfold Lexeme.splitLocalPart? at found
  split at found
  next behind =>
    cases found
    exact (readTail_star previous cut).trans finished
  next first behind no_star =>
    split at found
    next start =>
      cases found
      exact (readTail_local previous start cut).trans finished
    next => cases found
  next => cases found

/-- Without a local part behind it, a name is a word. -/
theorem readTail_word (previous : Option Kind)
    (cut : Cut source (front ++ part) unread)
    (missing : Lexeme.splitLocalPart? unread = none) :
    readTail previous part .nothing (.behind source (front ++ part)) =
      .ok ((Lexeme.ofWord previous part unread).reading source front) := by
  have word := finishWord_behind previous cut
  rw [readTail, current_behind cut, ok_bind]
  by_cases colon : unread.head?.getD Cursor.sentinel = ':'
  · rw [if_pos colon]
    rcases (head?_getD_eq_iff (by decide)).1 colon with ⟨behind, rfl⟩
    rw [charAt_one_behind rfl cut, ok_bind]
    have no_star : behind.head?.getD Cursor.sentinel ≠ '*' := by
      intro star
      rcases (head?_getD_eq_iff (by decide)).1 star with ⟨rest, rfl⟩
      cases missing
    have no_start :
        ¬ isNameStart (behind.head?.getD Cursor.sentinel) = true := by
      intro start
      cases behind with
      | nil => cases start
      | cons second rest =>
          rw [Lexeme.splitLocalPart?.eq_2 second rest no_star] at missing
          cases (if_pos start).symm.trans missing
    rw [if_neg no_start, if_neg no_star]
    exact word
  · rw [if_neg colon]
    exact word

theorem readName_behind {first : Char} (previous : Option Kind)
    (cut : Cut source front (first :: unread))
    (start : isNameStart first = true) :
    readName previous .nothing (.behind source front) =
      .ok
        ((Lexeme.readName previous (first :: unread)).1.reading
          source front) := by
  have inside := isNameChar_of_isNameStart start
  have word := cut.move_takeWhile isNameChar
  rw [readName, eatName_behind cut inside, ok_bind]
  dsimp only
  unfold Lexeme.readName
  split
  next localPart rest found => exact readTail_qualified previous word found
  next missing => exact readTail_word previous word missing

/-! ## Symbols -/

theorem pairKind?_eq_some_iff_longer {first second : Char} {kind : Kind} :
    Lexeme.pairKind? first second = some kind ↔
      longer? first = some (second, kind) := by
  constructor
  · intro paired
    unfold Lexeme.pairKind? at paired
    split at paired <;> cases paired <;> rfl
  · intro longer
    unfold longer? at longer
    split at longer <;> cases longer <;> rfl

/-- A character that is not the one that makes a longer symbol. -/
theorem unpaired_of_ne {first wanted : Char} {kind : Kind}
    (longer : longer? first = some (wanted, kind))
    (other : unread.head? ≠ some wanted) :
    ∀ second ∈ unread.head?, Lexeme.pairKind? first second = none := by
  intro second ahead
  cases paired : Lexeme.pairKind? first second with
  | none => rfl
  | some kind' =>
      rw [pairKind?_eq_some_iff_longer, longer] at paired
      cases paired
      exact absurd ahead other

theorem readSymbol_behind {first : Char} (previous : Option Kind)
    (cut : Cut source front (first :: unread)) :
    readSymbol previous first .nothing (.behind source front) =
      .ok
        ((Lexeme.readSymbol previous first unread).1.reading
          source front) := by
  have behind := cut.move_one
  rw [readSymbol, advance_behind cut, ok_bind]
  cases longer : longer? first with
  | none =>
      have unpaired :
          ∀ second ∈ unread.head?,
            Lexeme.pairKind? first second = none := by
        intro second ahead
        cases paired : Lexeme.pairKind? first second with
        | none => rfl
        | some kind =>
            rw [pairKind?_eq_some_iff_longer, longer] at paired
            cases paired
      rw [Lexeme.readSymbol_of_unpaired previous unpaired]
      rfl
  | some pair =>
      rcases pair with ⟨wanted, kind⟩
      by_cases ahead : unread.head? = some wanted
      · rcases List.head?_eq_some_iff.1 ahead with ⟨rest, rfl⟩
        have paired := pairKind?_eq_some_iff_longer.2 longer
        simp only [accept_behind_cons behind, ok_bind,
          Lexeme.readSymbol_of_pair previous paired, List.append_assoc,
          List.cons_append, List.nil_append]
        rfl
      · have unpaired := unpaired_of_ne longer ahead
        simp only [accept_behind_of_ne behind ahead, ok_bind,
          Lexeme.readSymbol_of_unpaired previous unpaired]
        rfl

/-! ## All lexemes -/

/-- Behind a point one looks one byte further, too. -/
theorem readPoint_behind (previous : Option Kind)
    (cut : Cut source front ('.' :: unread)) :
    readPoint previous (Text.size front) .nothing (.behind source front) =
      .ok
        ((Lexeme.read previous ('.' :: unread)).1.reading source front) := by
  have follows :
      isDigit (unread.head?.getD Cursor.sentinel) =
        Lexeme.digitFollows unread := by
    cases unread <;> rfl
  rw [readPoint, charAt_one_behind rfl cut, ok_bind, follows]
  cases numeric : Lexeme.digitFollows unread with
  | true =>
      have number :
          Lexeme.read previous ('.' :: unread) =
            Lexeme.readNumber ('.' :: unread) := by
        rw [Lexeme.read, numeric]
        rfl
      rw [number, if_pos rfl]
      exact readNumber_behind cut
  | false =>
      have symbol :
          Lexeme.read previous ('.' :: unread) =
            Lexeme.readSymbol previous '.' unread := by
        rw [Lexeme.read, numeric]
        rfl
      rw [symbol]
      exact readSymbol_behind previous cut

/-- Reading has a result between any two characters of a source. -/
theorem read_behind (previous : Option Kind)
    (cut : Cut source front unread) :
    read previous (Text.size front) .nothing (.behind source front) =
      .ok ((Lexeme.read previous unread).1.reading source front) := by
  cases unread with
  | nil =>
      have text : front ++ Lexeme.eof.text = front := List.append_nil front
      rw [read, atEnd_behind cut, Lexeme.read, Lexeme.reading, text]
      rfl
  | cons first rest =>
      rw [read, atEnd_behind cut, current_behind cut, ok_bind,
        List.head?_cons, Option.getD_some]
      by_cases quoting : first = '"' ∨ first = '\''
      · rw [if_pos quoting, Lexeme.read, if_pos quoting]
        exact readString_behind cut
      · by_cases point : first = '.'
        · subst point
          exact readPoint_behind previous cut
        · have no_fraction :
              ¬ (first = '.' ∧ Lexeme.digitFollows rest = true) :=
            fun pointed => point pointed.1
          simp only [Lexeme.read, if_neg quoting, if_neg point, 
            or_iff_left no_fraction, List.isEmpty_cons]
          by_cases digit : isDigit first = true
          · rw [if_pos digit, if_pos digit]
            exact readNumber_behind cut
          · rw [if_neg digit, if_neg digit]
            by_cases start : isNameStart first = true
            · rw [if_pos start, if_pos start]
              exact readName_behind previous cut start
            · rw [if_neg start, if_neg start]
              exact readSymbol_behind previous cut

end Checked

end XPathScan
