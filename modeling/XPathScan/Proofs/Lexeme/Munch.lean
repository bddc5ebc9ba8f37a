import XPathScan.Proofs.Lexeme.Longest

/-!
# Maximal munch

`Munch` says what must be taken off a text that begins with no blank: nothing
at its end, all of it where a quote is not closed, the longest number with an
exponent where the longest lexeme is a number that an exponent follows, and
the longest lexeme otherwise, whose kind then belongs to its form.  The four
cases exclude each other, so the relation is a function (`Munch.unique`), and
`munch_read` says that `Lexeme.read` computes it.
-/

namespace XPathScan

namespace Lexeme

open Text (LongestPrefix)

/-- The kind of a lexeme, or the fault of text that is none. -/
def result (lexeme : Lexeme) : Except Fault Kind :=
  match lexeme.fault with
  | some fault => .error fault
  | none => .ok lexeme.kind

/-- The kind that is remembered for the given result. -/
def remembered : Except Fault Kind → Kind
  | .ok kind => kind
  | .error _ => .unknown

/-- What is taken off a text behind a lexeme of the previous kind. -/
inductive Munch (previous : Option Kind) (unread : Text) :
    Text → Except Fault Kind → Prop
  | eof (ended : unread = []) :
      Munch previous unread [] (.ok .eof)
  | unclosed {quote : Char} {behind : Text}
      (opens : unread = quote :: behind)
      (quoting : IsQuote quote)
      (absent : quote ∉ behind) :
      Munch previous unread unread (.error .unclosedString)
  | scientific {numeral text behind : Text} {mark : Char}
      (longest : LongestPrefix IsLexeme numeral unread)
      (shaped : Shaped numeral .number)
      (follows : unread = numeral ++ mark :: behind)
      (marked : IsExponentMark mark)
      (whole : LongestPrefix IsScientific text unread) :
      Munch previous unread text (.error .scientificNotation)
  | lexeme {text behind : Text} {form : Form}
      (longest : LongestPrefix IsLexeme text unread)
      (shaped : Shaped text form)
      (follows : unread = text ++ behind)
      (unmarked :
        form = .number →
          ∀ mark ∈ behind.head?, ¬ IsExponentMark mark) :
      Munch previous unread text (.ok (form.kind previous behind))

namespace Munch

variable {previous : Option Kind} {unread text : Text}
  {result : Except Fault Kind}

theorem of_nil (munch : Munch previous [] text result) :
    text = [] ∧ result = .ok .eof := by
  cases munch with
  | eof ended => exact ⟨rfl, rfl⟩
  | unclosed opens quoting absent => cases opens
  | scientific longest shaped follows marked whole =>
      exact
        absurd (List.append_eq_nil_iff.1 follows.symm).1 shaped.ne_nil
  | lexeme longest shaped follows unmarked =>
      exact
        absurd (List.append_eq_nil_iff.1 follows.symm).1 shaped.ne_nil

/-- A string that is not closed is taken off with all that follows. -/
theorem of_unclosed {quote : Char} {behind : Text}
    (quoting : IsQuote quote) (absent : quote ∉ behind)
    (munch : Munch previous (quote :: behind) text result) :
    text = quote :: behind ∧ result = .error .unclosedString := by
  cases munch with
  | eof ended => cases ended
  | unclosed opens quoting absent => exact ⟨rfl, rfl⟩
  | scientific longest shaped follows marked whole =>
      exact
        absurd longest.holds
          (not_isLexeme_of_unclosed quoting absent longest.starts)
  | lexeme longest shaped follows unmarked =>
      exact
        absurd longest.holds
          (not_isLexeme_of_unclosed quoting absent longest.starts)

/-- A number in front of an exponent is taken off with the exponent. -/
theorem of_scientific {numeral whole behind : Text} {mark : Char}
    (longest : LongestPrefix IsLexeme numeral unread)
    (shaped : Shaped numeral .number)
    (follows : unread = numeral ++ mark :: behind)
    (marked : IsExponentMark mark)
    (scientific : LongestPrefix IsScientific whole unread)
    (munch : Munch previous unread text result) :
    text = whole ∧ result = .error .scientificNotation := by
  cases munch with
  | eof ended =>
      rw [ended] at follows
      exact
        absurd (List.append_eq_nil_iff.1 follows.symm).1 shaped.ne_nil
  | unclosed opens quoting absent =>
      subst opens
      exact
        absurd longest.holds
          (not_isLexeme_of_unclosed quoting absent longest.starts)
  | scientific longest' shaped' follows' marked' scientific' =>
      exact ⟨scientific'.unique scientific, rfl⟩
  | lexeme longest' shaped' follows' unmarked =>
      have same := longest.unique longest'
      subst same
      rw [follows, List.append_cancel_left_eq] at follows'
      rw [← follows'] at unmarked
      exact absurd marked (unmarked (shaped'.unique shaped) mark rfl)

/-- Any other lexeme is taken off by itself, with the kind of its form. -/
theorem of_lexeme {lexeme behind : Text} {form : Form}
    (longest : LongestPrefix IsLexeme lexeme unread)
    (shaped : Shaped lexeme form)
    (follows : unread = lexeme ++ behind)
    (unmarked :
      form = .number → ∀ mark ∈ behind.head?, ¬ IsExponentMark mark)
    (munch : Munch previous unread text result) :
    text = lexeme ∧ result = .ok (form.kind previous behind) := by
  cases munch with
  | eof ended =>
      rw [ended] at follows
      exact
        absurd (List.append_eq_nil_iff.1 follows.symm).1 shaped.ne_nil
  | unclosed opens quoting absent =>
      subst opens
      exact
        absurd longest.holds
          (not_isLexeme_of_unclosed quoting absent longest.starts)
  | scientific longest' shaped' follows' marked scientific =>
      have same := longest.unique longest'
      subst same
      rw [follows', List.append_cancel_left_eq] at follows
      rw [← follows] at unmarked
      exact absurd marked (unmarked (shaped.unique shaped') _ rfl)
  | lexeme longest' shaped' follows' unmarked' =>
      have same := longest.unique longest'
      subst same
      rw [follows, List.append_cancel_left_eq] at follows'
      rw [follows', shaped.unique shaped']
      exact ⟨rfl, rfl⟩

/-- Text and result are determined by what is read. -/
theorem unique {text' : Text} {result' : Except Fault Kind}
    (munch : Munch previous unread text result)
    (munch' : Munch previous unread text' result') :
    text = text' ∧ result = result' := by
  cases munch' with
  | eof ended =>
      subst ended
      exact munch.of_nil
  | unclosed opens quoting absent =>
      subst opens
      exact munch.of_unclosed quoting absent
  | scientific longest shaped follows marked whole =>
      exact munch.of_scientific longest shaped follows marked whole
  | lexeme longest shaped follows unmarked =>
      exact munch.of_lexeme longest shaped follows unmarked

end Munch

/-- A number with an exponent is no lexeme. -/
theorem IsScientific.not_isLexeme {text : Text}
    (scientific : IsScientific text) :
    ¬ IsLexeme text := by
  rintro ⟨form, shaped⟩
  cases scientific with
  | @mk numeral sign digits mark numeric marked signed numeric_digits =>
      have outside : (isDigit mark || mark == '.') = false := by
        rcases marked with rfl | rfl <;> decide
      have no_numeral :
          ¬ IsNumeral (numeral ++ mark :: (sign ++ digits)) := by
        intro whole
        have inside :=
          whole.digit_or_point mark
            (List.mem_append_right numeral List.mem_cons_self)
        rw [outside] at inside
        cases inside
      rcases numeric.exists_digit with ⟨digit, member, is_digit⟩
      rcases List.exists_cons_of_ne_nil numeric.ne_nil with ⟨first, rest, rfl⟩
      rcases numeric.first with first_digit | rfl
      · exact no_numeral (shaped.of_digit first_digit).1
      · rcases shaped.of_other (by rintro (h | h) <;> cases h) rfl rfl with
          ⟨kind, listed, -⟩ | ⟨whole, -, -⟩ | ⟨ended, -, -⟩
        · have no_digit :=
            digit_not_mem_symbols listed digit
              (List.mem_append_left _ member)
          rw [is_digit] at no_digit
          cases no_digit
        · exact no_numeral whole
        · exact
            List.cons_ne_nil _ _ (List.append_eq_nil_iff.1 ended).2

/-- What has a form is sound, and of the kind that belongs to its form. -/
theorem Munch.ok_of_shaped {previous : Option Kind}
    {unread text : Text} {result : Except Fault Kind} {form : Form}
    (munch : Munch previous unread text result)
    (shaped : Shaped text form) :
    ∃ behind,
      unread = text ++ behind ∧
        result = .ok (form.kind previous behind) := by
  cases munch with
  | eof ended => exact absurd rfl shaped.ne_nil
  | unclosed opens quoting absent =>
      subst opens
      exact
        absurd ⟨form, shaped⟩
          (not_isLexeme_of_unclosed quoting absent List.prefix_rfl)
  | scientific longest shaped' follows marked whole =>
      exact absurd ⟨form, shaped⟩ whole.holds.not_isLexeme
  | @lexeme _ behind form' longest shaped' follows unmarked =>
      rw [shaped.unique shaped']
      exact ⟨behind, follows, rfl⟩

/-! ## Kinds by form -/

theorem keyword?_eq (word : Text) :
    keyword? word = (wordOperator? word).map Operator.kind := by
  unfold keyword?
  split
  · rfl
  · rfl
  · rfl
  · rfl
  next no_or no_and no_div no_mod =>
    have missing : wordOperator? word = none := by
      rw [wordOperator?, List.find?_eq_none]
      intro operator member spelled
      rw [beq_iff_eq] at spelled
      simp only [wordOperators, List.mem_cons, List.not_mem_nil,
        or_false] at member
      rcases member with rfl | rfl | rfl | rfl
      · exact no_or spelled.symm
      · exact no_and spelled.symm
      · exact no_div spelled.symm
      · exact no_mod spelled.symm
    rw [missing]
    rfl

@[simp]
theorem fault_ofName
    (previous : Option Kind) (qualifier word text behind : Text) :
    (ofName previous qualifier word text behind).fault = none := by
  unfold ofName
  split <;> rfl

@[simp]
theorem fault_ofWord (previous : Option Kind) (word behind : Text) :
    (ofWord previous word behind).fault = none := by
  unfold ofWord
  split
  · rfl
  · exact fault_ofName _ _ _ _ _

theorem kind_ofName (previous : Option Kind)
    (qualifier word text behind : Text) :
    (ofName previous qualifier word text behind).kind =
      settle .name word qualifier previous := by
  unfold ofName
  split
  next settled => exact settled.symm
  next => rfl

/-- A qualified name is never an operator. -/
theorem kind_ofQualified (previous : Option Kind)
    {qualifier : Text} (word behind : Text)
    (named : IsName qualifier) :
    (ofQualified previous qualifier word behind).kind = .name := by
  cases named with
  | mk start inside =>
      rw [ofQualified, kind_ofName, settle]
      split <;> rfl

theorem separatorFollows_iff (behind : Text) :
    separatorFollows behind = true ↔ SeparatorAhead behind :=
  List.isPrefixOf_iff_prefix

theorem kind_ofName_unqualified
    (previous : Option Kind) (word behind : Text) :
    (ofName previous [] word word behind).kind =
      match wordOperator? word with
      | some operator =>
          if expectsOperand previous then .name else operator.kind
      | none => .name := by
  rw [kind_ofName, settle, operatorReading?, keyword?_eq]
  cases wordOperator? word with
  | none => split <;> rfl
  | some operator => rfl

/-- A word that is spelled like an axis, with a separator ahead. -/
theorem ofWord_of_axis (previous : Option Kind) {word behind : Text}
    (is_axis : Axis.ofSpelling word ≠ .unknown ∧ SeparatorAhead behind) :
    ofWord previous word behind =
      ⟨.axis, .axis (Axis.ofSpelling word), word, none⟩ := by
  rw [ofWord, if_pos]
  exact ⟨(separatorFollows_iff behind).2 is_axis.2, is_axis.1⟩

theorem ofWord_of_no_axis (previous : Option Kind) {word behind : Text}
    (no_axis : ¬ (Axis.ofSpelling word ≠ .unknown ∧ SeparatorAhead behind)) :
    ofWord previous word behind = ofName previous [] word word behind := by
  rw [ofWord, if_neg]
  rintro ⟨separated, known⟩
  exact no_axis ⟨known, (separatorFollows_iff behind).1 separated⟩

theorem kind_ofWord (previous : Option Kind) (word behind : Text) :
    (ofWord previous word behind).kind =
      (Form.word word).kind previous behind := by
  by_cases is_axis : Axis.ofSpelling word ≠ .unknown ∧ SeparatorAhead behind
  · rw [ofWord_of_axis previous is_axis, Form.kind, if_pos is_axis]
  · rw [ofWord_of_no_axis previous is_axis, Form.kind, if_neg is_axis]
    exact kind_ofName_unqualified previous word behind

/-- No symbol is of the kind of names. -/
theorem kind_ne_name {text : Text} {kind : Kind}
    (listed : (text, kind) ∈ symbols) :
    kind ≠ .name := by
  have apart : ∀ entry ∈ symbols, entry.2 ≠ .name := by decide
  exact apart _ listed

/-- A star is no part of a longer symbol. -/
theorem kind_of_pair (previous : Option Kind) (behind : Text)
    {first second : Char} {kind : Kind}
    (listed : ([first, second], kind) ∈ symbols) :
    (Form.symbol kind).kind previous behind = kind := by
  have single :
      ∀ entry ∈ symbols, entry.2 = .star → entry.1.length = 1 := by
    decide
  have kept : ¬ (kind = .star ∧ expectsOperand previous = false) := by
    rintro ⟨star, -⟩
    have length := single _ listed star
    cases length
  rw [Form.kind, if_neg kept]

theorem settle_symbol (previous : Option Kind)
    {kind : Kind} (word : Text) (no_name : kind ≠ .name) :
    settle kind word [] previous =
      (Form.symbol kind).kind previous [] := by
  rw [settle, Form.kind]
  by_cases star : kind = .star
  · subst star
    cases expectsOperand previous <;> rfl
  · have no_reading : operatorReading? kind word [] = none := by
      unfold operatorReading?
      split
      · exact absurd rfl star
      · exact absurd rfl no_name
      · rfl
    have kept :
        ¬ (kind = .star ∧ expectsOperand previous = false) :=
      fun both => star both.1
    rw [no_reading, if_neg kept]
    split <;> rfl

/-! ## Faults -/

theorem fault_readName (previous : Option Kind) (unread : Text) :
    (readName previous unread).1.fault = none := by
  unfold readName
  split
  · exact fault_ofName _ _ _ _ _
  · exact fault_ofWord _ _ _

theorem fault_readSymbol
    (previous : Option Kind) (first : Char) (behind : Text) :
    (readSymbol previous first behind).1.fault = none := by
  unfold readSymbol
  split
  · rfl
  · split <;> rfl

/-- What is no lexeme carries nothing and is of unknown kind. -/
theorem eq_faulty_of_fault
    {previous : Option Kind} {unread : Text} {fault : Fault}
    (malformed : (read previous unread).1.fault = some fault) :
    (read previous unread).1 =
      faulty fault (read previous unread).1.text := by
  revert malformed
  unfold read
  split
  · intro malformed
    cases malformed
  · split
    · unfold readString
      split
      · rintro ⟨⟩
        rfl
      · intro malformed
        cases malformed
    · split
      · unfold readNumber
        split
        · rintro ⟨⟩
          rfl
        · intro malformed
          cases malformed
      · split
        · rw [fault_readName]
          intro malformed
          cases malformed
        · rw [fault_readSymbol]
          intro malformed
          cases malformed

theorem kind_eq_remembered (previous : Option Kind) (unread : Text) :
    (read previous unread).1.kind =
      remembered (read previous unread).1.result := by
  rw [result]
  cases malformed : (read previous unread).1.fault with
  | none => rfl
  | some fault =>
      rw [eq_faulty_of_fault malformed]
      rfl

/-! ## Reading -/

/-- A sound lexeme with the kind of its form is what must be taken off. -/
theorem Munch.of_sound {previous : Option Kind} {unread behind : Text}
    {lexeme : Lexeme} {form : Form}
    (longest : LongestPrefix IsLexeme lexeme.text unread)
    (shaped : Shaped lexeme.text form)
    (follows : lexeme.text ++ behind = unread)
    (sound : lexeme.fault = none)
    (kind_eq : lexeme.kind = form.kind previous behind)
    (unmarked :
      form = .number → ∀ mark ∈ behind.head?, ¬ IsExponentMark mark) :
    Munch previous unread lexeme.text lexeme.result := by
  rw [result, sound, kind_eq]
  exact .lexeme longest shaped follows.symm unmarked

/-- Exponents matter behind numbers only. -/
theorem Munch.of_other_form {previous : Option Kind}
    {unread behind : Text} {lexeme : Lexeme} {form : Form}
    (other : form ≠ .number)
    (longest : LongestPrefix IsLexeme lexeme.text unread)
    (shaped : Shaped lexeme.text form)
    (follows : lexeme.text ++ behind = unread)
    (sound : lexeme.fault = none)
    (kind_eq : lexeme.kind = form.kind previous behind) :
    Munch previous unread lexeme.text lexeme.result := by
  apply Munch.of_sound longest shaped follows sound kind_eq
  intro number
  exact absurd number other

theorem munch_readString (previous : Option Kind)
    {quote : Char} (unread : Text) (quoting : IsQuote quote) :
    Munch previous (quote :: unread) (readString quote unread).1.text
      (readString quote unread).1.result := by
  by_cases closed : quote ∈ unread
  · rcases List.eq_append_cons_of_mem closed with ⟨body, rest, rfl, free⟩
    rw [readString_append free]
    have whole :
        (quote :: (body ++ [quote])) ++ rest =
          quote :: (body ++ quote :: rest) := by
      simp
    exact
      .of_other_form (by simp) (longest_string quoting free)
        (.string quoting free) whole rfl rfl
  · rw [readString_of_not_mem closed]
    exact .unclosed rfl quoting closed

theorem munch_readNumber (previous : Option Kind)
    {first : Char} {behind : Text}
    (numeric : isDigit first ∨ (first = '.' ∧ digitFollows behind)) :
    Munch previous (first :: behind)
      (readNumber (first :: behind)).1.text
      (readNumber (first :: behind)).1.result := by
  have longest := longest_number numeric
  have shaped : Shaped (splitNumeral (first :: behind)).1 .number :=
    .number (isNumeral_splitNumeral numeric)
  have whole := splitNumeral_append (first :: behind)
  rw [readNumber]
  cases found : splitExponent? (splitNumeral (first :: behind)).2 with
  | none =>
      exact
        .of_sound longest shaped whole rfl rfl
          fun _ => splitExponent?_eq_none_iff.1 found
  | some taken =>
      rcases splitExponent?_eq_some_iff.1 found with
        ⟨mark, unread, follows, marked, -, -⟩
      rw [follows] at whole
      exact
        .scientific longest shaped whole.symm marked
          (longest_scientific numeric found)

theorem munch_readName (previous : Option Kind)
    {first : Char} {behind : Text}
    (start : isNameStart first = true) :
    Munch previous (first :: behind)
      (readName previous (first :: behind)).1.text
      (readName previous (first :: behind)).1.result := by
  have longest : LongestPrefix IsLexeme
      (readName previous (first :: behind)).1.text (first :: behind) :=
    longest_name previous start
  have whole := text_append_readName previous (first :: behind)
  have named : IsName ((first :: behind).takeWhile isNameChar) :=
    isName_takeWhile start
  cases found : splitLocalPart? ((first :: behind).dropWhile isNameChar) with
  | none =>
      rw [readName_of_none previous found] at longest whole ⊢
      have shaped :
          Shaped
            (ofWord previous ((first :: behind).takeWhile isNameChar)
              ((first :: behind).dropWhile isNameChar)).text
            (.word ((first :: behind).takeWhile isNameChar)) := by
        rw [text_ofWord]
        exact .word named
      exact
        .of_other_form (by simp) longest shaped whole
          (fault_ofWord _ _ _) (kind_ofWord _ _ _)
  | some taken =>
      rw [readName_of_some previous found] at longest whole ⊢
      have shaped :
          Shaped
            (ofQualified previous ((first :: behind).takeWhile isNameChar)
              taken.1 taken.2).text
            (.qualified ((first :: behind).takeWhile isNameChar)
              taken.1) := by
        rw [ofQualified, text_ofName]
        exact .qualified named (named_of_splitLocalPart? found)
      exact
        .of_other_form (by simp) longest shaped whole
          (fault_ofName _ _ _ _ _) (kind_ofQualified _ _ _ named)

theorem munch_readSymbol (previous : Option Kind)
    {first : Char} {behind : Text}
    (no_blank : isBlank first = false) (no_quote : ¬ IsQuote first)
    (no_number :
      ¬ (isDigit first ∨ (first = '.' ∧ digitFollows behind)))
    (no_start : isNameStart first = false) :
    Munch previous (first :: behind)
      (readSymbol previous first behind).1.text
      (readSymbol previous first behind).1.result := by
  have longest :=
    longest_symbol previous no_blank no_quote no_number no_start
  have no_digit : isDigit first = false := by
    rw [not_or, Bool.not_eq_true] at no_number
    exact no_number.1
  rcases readSymbol_cases previous first behind with
    ⟨second, rest, kind, rfl, listed, read⟩ | read
  · rw [read] at longest ⊢
    exact
      .of_other_form (by simp) longest (.symbol listed) rfl rfl
        (kind_of_pair previous rest listed).symm
  · rw [read] at longest ⊢
    rcases symbol_or_stray no_blank no_quote no_digit no_start with
      listed | ⟨unknown, lone⟩
    · exact
        .of_other_form (by simp) longest (.symbol listed) rfl rfl
          (settle_symbol previous [first] (kind_ne_name listed))
    · have settled :
          settle (singleKind first) [first] [] previous = .unknown := by
        rw [unknown, settle]
        split <;> rfl
      exact
        .of_other_form (by simp) longest (.stray lone) rfl rfl settled

/-- `read` takes off what must be taken off. -/
theorem munch_read (previous : Option Kind) {unread : Text}
    (no_blank : ∀ first ∈ unread.head?, isBlank first = false) :
    Munch previous unread (read previous unread).1.text
      (read previous unread).1.result := by
  cases unread with
  | nil => exact .eof rfl
  | cons first behind =>
      have no_blank : isBlank first = false := no_blank first rfl
      rw [read]
      split
      next quoting => exact munch_readString previous behind quoting
      next no_quote =>
        split
        next numeric => exact munch_readNumber previous numeric
        next no_number =>
          split
          next start => exact munch_readName previous start
          next no_start =>
            rw [Bool.not_eq_true] at no_start
            exact
              munch_readSymbol previous no_blank no_quote no_number
                no_start

end Lexeme

end XPathScan
