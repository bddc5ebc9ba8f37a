import XPathScan.Proofs.Lexeme.Form

/-!
# Lexemes that depend on the text behind them

Reading a lexeme looks behind it, but not far.  If a lexeme can go on at all,
then it can go on by one or two characters (`goesOn_of_longer`), so two
characters show that it is the longest; besides them only the first two
characters behind the blanks can matter, for the separator of an axis.
`read_append_of_ahead` draws the conclusion: with two such characters in sight,
what stands behind them can be exchanged.
-/

namespace XPathScan

namespace Lexeme

open Text (LongestPrefix)

/-! ## Prefixes of numerals and names -/

/-- A part of a numeral from its front on is a numeral if it has a digit. -/
theorem IsNumeral.of_prefix {front whole : Text} {digit : Char}
    (numeric : IsNumeral whole) (starts : front <+: whole)
    (member : digit ∈ front) (is_digit : isDigit digit = true) :
    IsNumeral front := by
  have filled : front ≠ [] := List.ne_nil_of_mem member
  cases numeric with
  | whole filled_whole numeric =>
      apply IsNumeral.whole filled
      intro character inside
      exact numeric character (starts.subset inside)
  | @pointed digits fraction filled_parts numeric numeric_fraction =>
      rcases starts with ⟨behind, same⟩
      rcases List.append_eq_append_iff.1 same with
        ⟨rest, rfl, -⟩ | ⟨rest, rfl, follows⟩
      · apply IsNumeral.whole filled
        intro character inside
        exact numeric character (List.mem_append_left rest inside)
      · cases rest with
        | nil =>
            rw [List.append_nil] at filled ⊢
            exact .whole filled numeric
        | cons point rest =>
            rw [List.cons_append, List.cons.injEq] at follows
            rcases follows with ⟨rfl, rfl⟩
            apply IsNumeral.pointed _ numeric
            · intro character inside
              apply numeric_fraction
              exact List.mem_append_left behind inside
            · rw [List.mem_append, List.mem_cons] at member
              rcases member with inside | rfl | inside
              · exact Or.inl (List.ne_nil_of_mem inside)
              · cases is_digit
              · exact Or.inr (List.ne_nil_of_mem inside)

theorem IsName.concat {name : Text} {next : Char}
    (named : IsName name) (inside : isNameChar next = true) :
    IsName (name ++ [next]) := by
  cases named with
  | @mk first rest start inside_rest =>
      apply IsName.mk start
      intro character member
      rcases List.mem_append.1 member with earlier | last
      · exact inside_rest character earlier
      · rw [List.mem_singleton.1 last]
        exact inside

/-- The first character of a local part is a local part by itself. -/
theorem exists_first_of_local {localPart : Text}
    (named : IsName localPart ∨ localPart = ['*']) :
    ∃ first rest,
      localPart = first :: rest ∧ (IsName [first] ∨ [first] = ['*']) := by
  rcases named with named | rfl
  · cases named with
    | @mk first rest start inside =>
        refine ⟨first, rest, rfl, Or.inl (.mk start ?_)⟩
        intro character member
        cases member
  · exact ⟨'*', [], rfl, Or.inr rfl⟩

/-! ## Going on -/

/-- A lexeme goes on by one or two of the characters behind it. -/
def GoesOn (text behind : Text) : Prop :=
  ∃ step,
    step ≠ [] ∧ step.length ≤ 2 ∧ step <+: behind ∧
      IsLexeme (text ++ step)

section

variable {text more : Text} {next : Char}

theorem goesOn_of_next (lexeme : IsLexeme (text ++ [next])) :
    GoesOn text (next :: more) :=
  ⟨[next], List.cons_ne_nil _ _, Nat.le_succ 1, ⟨more, rfl⟩, lexeme⟩

theorem goesOn_of_numeral {digit : Char}
    (numeric : IsNumeral (text ++ next :: more))
    (member : digit ∈ text ++ [next]) (is_digit : isDigit digit = true) :
    GoesOn text (next :: more) := by
  have starts : text ++ [next] <+: text ++ next :: more := by
    simp
  apply goesOn_of_next
  exact ⟨.number, .number (numeric.of_prefix starts member is_digit)⟩

/-- A word goes on by a character of names, or by a colon and another one. -/
theorem goesOn_of_word {form : Form}
    (named : IsName text)
    (longer : Shaped (text ++ next :: more) form) :
    GoesOn text (next :: more) := by
  by_cases inside : isNameChar next = true
  · apply goesOn_of_next
    exact ⟨_, .word (named.concat inside)⟩
  · have member : next ∈ text ++ next :: more :=
      List.mem_append_right _ List.mem_cons_self
    have start : ∃ first rest,
        text = first :: rest ∧ isNameStart first = true := by
      cases named with
      | mk start inside => exact ⟨_, _, rfl, start⟩
    rcases start with ⟨first, rest, rfl, start⟩
    rcases longer.of_nameStart start with
      ⟨named', -⟩ | ⟨qualifier, localPart, whole, named', named_local, -⟩
    · exact absurd (named'.inside next member) inside
    · rw [Bool.not_eq_true] at inside
      have starts :
          qualifier ++ ':' :: localPart <+:
            first :: rest ++ next :: more :=
        ⟨[], by simpa using whole.symm⟩
      rcases qualifier_eq_takeWhile named' starts with ⟨-, follows⟩
      rw [Text.dropWhile_append_cons named.inside inside,
        List.cons_prefix_cons] at follows
      rcases follows with ⟨rfl, follows⟩
      rcases exists_first_of_local named_local with
        ⟨initial, others, rfl, named_initial⟩
      refine
        ⟨[':', initial], List.cons_ne_nil _ _, Nat.le_refl 2, ?_,
          _, .qualified named named_initial⟩
      rw [List.cons_prefix_cons]
      exact ⟨rfl, (List.prefix_append [initial] others).trans follows⟩

/-- A qualified name goes on by a character of names only. -/
theorem goesOn_of_qualified {qualifier localPart : Text} {form : Form}
    (named : IsName qualifier)
    (named_local : IsName localPart ∨ localPart = ['*'])
    (longer :
      Shaped (qualifier ++ ':' :: localPart ++ next :: more) form) :
    GoesOn (qualifier ++ ':' :: localPart) (next :: more) := by
  have colon : ':' ∈ qualifier ++ ':' :: localPart ++ next :: more := by
    simp
  have start : ∃ first rest,
      qualifier = first :: rest ∧ isNameStart first = true := by
    cases named with
    | mk start inside => exact ⟨_, _, rfl, start⟩
  rcases start with ⟨first, rest, rfl, start⟩
  rcases longer.of_nameStart start with
    ⟨named', -⟩ | ⟨qualifier', localPart', whole, named', named_local', -⟩
  · exact absurd colon named'.colon_not_mem
  · have same :
        first :: rest ++ ':' :: (localPart ++ next :: more) =
          qualifier' ++ ':' :: localPart' := by
      simpa using whole
    rcases Shaped.qualified_injective named named' same with ⟨-, rfl⟩
    rcases named_local' with named_local' | star
    · rcases named_local with named_local | rfl
      · have inside : isNameChar next = true :=
          named_local'.inside next
            (List.mem_append_right _ List.mem_cons_self)
        have longer_local := named_local.concat inside
        apply goesOn_of_next
        rw [List.append_assoc, List.cons_append]
        exact ⟨_, .qualified named (Or.inl longer_local)⟩
      · cases named_local' with
        | mk start' inside => cases start'
    · have single := congrArg List.length star
      rcases exists_first_of_local named_local with
        ⟨initial, others, rfl, -⟩
      simp at single

/-- What begins like no string, no number and no name goes on by one character. -/
theorem goesOn_of_other {first : Char} {rest : Text} {form : Form}
    (way : beginning first = .other)
    (longer : Shaped (first :: rest ++ next :: more) form) :
    GoesOn (first :: rest) (next :: more) := by
  have fits := longer.fits
  rw [way] at fits
  rcases fits with
    ⟨kind, listed, -⟩ | ⟨numeral, rfl, -⟩ | ⟨ended, -, -⟩
  · rcases rest_of_mem_symbols listed with ended | ⟨second, pair⟩
    · simp at ended
    · have ended : rest = [] ∧ more = [] := by
        have length := congrArg List.length pair
        simp at length
        exact
          ⟨List.length_eq_zero_iff.1 (by omega),
            List.length_eq_zero_iff.1 (by omega)⟩
      rcases ended with ⟨rfl, rfl⟩
      exact goesOn_of_next ⟨_, .symbol listed⟩
  · -- the point alone is a symbol, so the digit behind it is needed
    have follows := numeral.digitFollows List.prefix_rfl
    cases rest with
    | nil =>
        have last : next ∈ ['.'] ++ [next] := by simp
        exact goesOn_of_numeral numeral last follows
    | cons second rest =>
        have member : second ∈ '.' :: second :: rest ++ [next] := by simp
        exact goesOn_of_numeral numeral member follows
  · simp at ended

/-- A lexeme that can go on at all can go on by one or two characters. -/
theorem goesOn_of_longer {form form' : Form}
    (shaped : Shaped text form)
    (longer : Shaped (text ++ next :: more) form') :
    GoesOn text (next :: more) := by
  cases shaped with
  | @symbol text kind listed =>
      cases text with
      | nil => exact absurd rfl (Shaped.symbol listed).ne_nil
      | cons first rest =>
          exact goesOn_of_other (beginning_of_mem_symbols listed) longer
  | @number text numeric =>
      rcases List.exists_cons_of_ne_nil numeric.ne_nil with
        ⟨first, rest, rfl⟩
      rcases numeric.first with digit | rfl
      · have numeral := (longer.of_digit digit).1
        exact goesOn_of_numeral numeral List.mem_cons_self digit
      · exact goesOn_of_other rfl longer
  | @string quote body quoting closed =>
      -- a string ends at its second quote, whatever follows
      have longest := @longest_string quote body (next :: more) quoting closed
      have whole :
          quote :: (body ++ [quote]) ++ next :: more =
            quote :: (body ++ quote :: next :: more) := by
        simp
      rw [whole] at longer
      have shorter := longest.longest _ List.prefix_rfl ⟨_, longer⟩
      simp at shorter
  | word named => exact goesOn_of_word named longer
  | qualified named named_local =>
      exact goesOn_of_qualified named named_local longer
  | stray lone => exact goesOn_of_other lone.beginning_eq longer

end

/-! ## Exchanging what stands far behind -/

/-- Two characters behind a lexeme show that it is the longest one. -/
theorem longest_of_ahead {text ahead far far' : Text}
    (longest : LongestPrefix IsLexeme text (text ++ (ahead ++ far)))
    (enough : 2 ≤ ahead.length) :
    LongestPrefix IsLexeme text (text ++ (ahead ++ far')) where
  starts := List.prefix_append _ _
  holds := longest.holds
  longest := by
    intro other starts lexeme
    by_contra longer
    have inside : text <+: other :=
      List.prefix_of_prefix_length_le (List.prefix_append _ _) starts
        (by omega)
    rcases inside with ⟨extra, rfl⟩
    cases extra with
    | nil => simp at longer
    | cons next more =>
        rcases longest.holds with ⟨form, shaped⟩
        rcases lexeme with ⟨form', shaped'⟩
        rcases goesOn_of_longer shaped shaped' with
          ⟨step, filled, short, follows, lexeme⟩
        rw [List.prefix_append_right_inj] at starts
        have in_sight : step <+: ahead :=
          List.prefix_of_prefix_length_le (follows.trans starts)
            (List.prefix_append _ _) (by omega)
        have bound :=
          longest.longest (text ++ step)
            ((List.prefix_append_right_inj text).2
              (in_sight.trans (List.prefix_append _ _)))
            lexeme
        have positive := List.length_pos_iff.2 filled
        rw [List.length_append] at bound
        omega

theorem separatorAhead_append_iff {ahead : Text} (far far' : Text)
    (enough : 2 ≤ (ahead.dropWhile isBlank).length) :
    SeparatorAhead (ahead ++ far) ↔ SeparatorAhead (ahead ++ far') := by
  have in_sight : ∀ far : Text,
      SeparatorAhead (ahead ++ far) ↔
        [':', ':'] <+: ahead.dropWhile isBlank := by
    intro far
    have filled : (ahead.dropWhile isBlank).isEmpty = false := by
      cases inside : ahead.dropWhile isBlank with
      | nil => simp [inside] at enough
      | cons first rest => rfl
    rw [SeparatorAhead, List.dropWhile_append, filled]
    constructor
    · intro starts
      exact
        List.prefix_of_prefix_length_le starts (List.prefix_append _ _)
          enough
    · intro starts
      exact starts.trans (List.prefix_append _ _)
  rw [in_sight far, in_sight far']

theorem parenthesisFollows_append {ahead : Text} (far : Text)
    (filled : ahead ≠ []) :
    parenthesisFollows (ahead ++ far) = parenthesisFollows ahead := by
  rcases List.exists_cons_of_ne_nil filled with ⟨first, rest, rfl⟩
  by_cases opening : first = '('
  · subst opening
    rfl
  · simp [parenthesisFollows, opening]

/-- What has a form is taken off as the longest lexeme. -/
theorem Munch.longest_of_shaped {previous : Option Kind}
    {unread text behind : Text} {result : Except Fault Kind} {form : Form}
    (munch : Munch previous unread text result)
    (whole : unread = text ++ behind) (shaped : Shaped text form) :
    LongestPrefix IsLexeme text unread ∧
      (form = .number →
        ∀ mark ∈ behind.head?, ¬ IsExponentMark mark) := by
  cases munch with
  | eof ended => exact absurd rfl shaped.ne_nil
  | unclosed opens quoting absent =>
      subst opens
      exact
        absurd ⟨form, shaped⟩
          (not_isLexeme_of_unclosed quoting absent List.prefix_rfl)
  | scientific longest shaped' follows marked scientific =>
      exact absurd ⟨form, shaped⟩ scientific.holds.not_isLexeme
  | lexeme longest shaped' follows unmarked =>
      rw [whole, List.append_cancel_left_eq] at follows
      rw [shaped.unique shaped', follows]
      exact ⟨longest, unmarked⟩

/--
A sound lexeme with two characters in sight behind it, blanks aside, is read in
the same way whatever stands behind these.
-/
theorem read_append_of_ahead {previous : Option Kind} {lexeme : Lexeme}
    {ahead far : Text} (far' : Text)
    (no_blank :
      ∀ first ∈ (lexeme.text ++ (ahead ++ far)).head?,
        isBlank first = false)
    (read_eq :
      read previous (lexeme.text ++ (ahead ++ far)) =
        (lexeme, ahead ++ far))
    (sound : lexeme.fault = none)
    (enough : 2 ≤ (ahead.dropWhile isBlank).length) :
    read previous (lexeme.text ++ (ahead ++ far')) =
      (lexeme, ahead ++ far') := by
  have suffix : ahead.dropWhile isBlank <:+ ahead :=
    List.dropWhile_suffix isBlank
  have enough_ahead : 2 ≤ ahead.length :=
    enough.trans suffix.length_le
  have filled : ahead ≠ [] := by
    rintro rfl
    simp at enough_ahead
  have formed :
      Formed previous (ahead ++ far) lexeme := by
    cases whole : lexeme.text ++ (ahead ++ far) with
    | nil =>
        rw [List.append_eq_nil_iff, List.append_eq_nil_iff] at whole
        exact absurd whole.2.1 filled
    | cons first behind =>
        rw [whole] at read_eq no_blank
        have formed :=
          @formed_read previous first behind (no_blank first rfl)
        rw [read_eq] at formed
        exact formed sound
  rcases formed with ⟨form, shaped, same⟩
  have munch := munch_read previous no_blank
  rw [read_eq] at munch
  rcases munch.longest_of_shaped rfl shaped with ⟨longest, unmarked⟩
  have head : (ahead ++ far').head? = (ahead ++ far).head? := by
    rcases List.exists_cons_of_ne_nil filled with ⟨first, rest, rfl⟩
    rfl
  have congr :
      form.lexeme previous lexeme.text (ahead ++ far') =
        form.lexeme previous lexeme.text (ahead ++ far) := by
    apply Form.lexeme_congr (separatorAhead_append_iff far' far enough)
    rw [parenthesisFollows_append far' filled,
      parenthesisFollows_append far filled]
  rw [← head] at unmarked
  rw [read_of_longest previous (longest_of_ahead longest enough_ahead)
    shaped unmarked, congr, ← same]

end Lexeme

end XPathScan
