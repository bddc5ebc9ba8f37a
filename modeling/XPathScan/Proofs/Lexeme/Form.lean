import XPathScan.Proofs.Lexeme.Munch

/-!
# Lexemes by their forms

What a sound lexeme carries is determined by its form, the kind of the lexeme
before it and the text behind it, just as its kind is.  `read_of_longest` turns
this around: wherever a text of some form is the longest lexeme in front of a
text, reading gives exactly the lexeme of that form.  The laws of whole runs
need no more of the readers than this.
-/

namespace XPathScan

namespace Lexeme

open Text (LongestPrefix)

/-! ## What a form carries -/

/-- What a lexeme of a form carries in front of a text. -/
def Form.payload
    (previous : Option Kind) (behind : Text) : Form → Payload
  | .string body => .string body
  | .word spelling =>
      match (Form.word spelling).kind previous behind with
      | .name => .name [] spelling (parenthesisFollows behind)
      | .axis => .axis (Axis.ofSpelling spelling)
      | _ => .nothing
  | .qualified qualifier localPart =>
      .name qualifier localPart (parenthesisFollows behind)
  | _ => .nothing

/-- The sound lexeme of a form in front of a text. -/
def Form.lexeme
    (previous : Option Kind) (text behind : Text) (form : Form) : Lexeme :=
  ⟨form.kind previous behind, form.payload previous behind, text, none⟩

/-- A sound lexeme that is determined by its form and the text behind it. -/
def Formed
    (previous : Option Kind) (behind : Text) (lexeme : Lexeme) : Prop :=
  ∃ form,
    Shaped lexeme.text form ∧
      lexeme = form.lexeme previous lexeme.text behind

section

variable {behind behind' : Text}

theorem Form.kind_congr
    (separator : SeparatorAhead behind ↔ SeparatorAhead behind')
    (previous : Option Kind) (form : Form) :
    form.kind previous behind = form.kind previous behind' := by
  cases form <;> simp only [Form.kind, separator]

/-- Of the text behind, two facts matter for what a form carries. -/
theorem Form.lexeme_congr
    (separator : SeparatorAhead behind ↔ SeparatorAhead behind')
    (parenthesis :
      parenthesisFollows behind = parenthesisFollows behind')
    (previous : Option Kind) (text : Text) (form : Form) :
    form.lexeme previous text behind =
      form.lexeme previous text behind' := by
  rw [Form.lexeme, Form.lexeme, Form.kind_congr separator]
  cases form <;>
    simp only [Form.payload, parenthesis, Form.kind_congr separator]

end

/-! ## Names -/

theorem ofName_qualified {previous : Option Kind}
    {qualifier localPart text behind : Text}
    (named : IsName qualifier) :
    ofName previous qualifier localPart text behind =
      (Form.qualified qualifier localPart).lexeme previous text behind := by
  have kind := kind_ofQualified previous localPart behind named
  rw [ofQualified, kind_ofName] at kind
  rw [ofName, kind]
  rfl

theorem ofName_word {previous : Option Kind} {spelling behind : Text}
    (no_axis :
      ¬ (Axis.ofSpelling spelling ≠ .unknown ∧ SeparatorAhead behind)) :
    ofName previous [] spelling spelling behind =
      (Form.word spelling).lexeme previous spelling behind := by
  have kind :
      (Form.word spelling).kind previous behind =
        settle .name spelling [] previous := by
    rw [Form.kind, if_neg no_axis,
      ← kind_ofName previous [] spelling spelling behind]
    exact (kind_ofName_unqualified previous spelling behind).symm
  have no_axis_kind : settle .name spelling [] previous ≠ .axis := by
    rcases settle_cases .name spelling [] previous with
      kept | ⟨operator, found, settled⟩
    · rw [kept]
      decide
    · rw [settled]
      rcases operatorReading?_cases found with
        rfl | rfl | rfl | rfl | rfl <;> decide
  rw [Form.lexeme, Form.payload, kind, ofName]
  generalize settle .name spelling [] previous = settled at no_axis_kind
  cases settled with
  | axis => exact absurd rfl no_axis_kind
  | _ => rfl

theorem ofWord_eq (previous : Option Kind) (spelling behind : Text) :
    ofWord previous spelling behind =
      (Form.word spelling).lexeme previous spelling behind := by
  by_cases is_axis :
      Axis.ofSpelling spelling ≠ .unknown ∧ SeparatorAhead behind
  · have kind : (Form.word spelling).kind previous behind = .axis := by
      rw [Form.kind, if_pos is_axis]
    rw [ofWord_of_axis previous is_axis, Form.lexeme, Form.payload, kind]
  · rw [ofWord_of_no_axis previous is_axis]
    exact ofName_word is_axis

/-! ## Reading -/

theorem formed_readString (previous : Option Kind) {quote : Char}
    {unread : Text} (quoting : IsQuote quote)
    (sound : (readString quote unread).1.fault = none) :
    Formed previous (readString quote unread).2
      (readString quote unread).1 := by
  by_cases closed : quote ∈ unread
  · rcases List.eq_append_cons_of_mem closed with ⟨body, rest, rfl, free⟩
    rw [readString_append free]
    exact ⟨.string body, .string quoting free, rfl⟩
  · rw [readString_of_not_mem closed] at sound
    cases sound

theorem formed_readNumber (previous : Option Kind) {first : Char}
    {behind : Text}
    (numeric : isDigit first ∨ (first = '.' ∧ digitFollows behind))
    (sound : (readNumber (first :: behind)).1.fault = none) :
    Formed previous (readNumber (first :: behind)).2
      (readNumber (first :: behind)).1 := by
  rw [readNumber] at sound ⊢
  cases found : splitExponent? (splitNumeral (first :: behind)).2 with
  | some taken =>
      rw [found] at sound
      cases sound
  | none =>
      exact ⟨.number, .number (isNumeral_splitNumeral numeric), rfl⟩

theorem formed_readName (previous : Option Kind) {first : Char}
    {behind : Text} (start : isNameStart first = true) :
    Formed previous (readName previous (first :: behind)).2
      (readName previous (first :: behind)).1 := by
  have named : IsName ((first :: behind).takeWhile isNameChar) :=
    isName_takeWhile start
  cases found : splitLocalPart? ((first :: behind).dropWhile isNameChar) with
  | none =>
      rw [readName_of_none previous found, ofWord_eq]
      exact ⟨_, .word named, rfl⟩
  | some taken =>
      have named_local := named_of_splitLocalPart? found
      rw [readName_of_some previous found, ofQualified,
        ofName_qualified named]
      exact ⟨_, .qualified named named_local, rfl⟩

theorem formed_readSymbol (previous : Option Kind) {first : Char}
    {behind : Text}
    (no_blank : isBlank first = false) (no_quote : ¬ IsQuote first)
    (no_digit : isDigit first = false)
    (no_start : isNameStart first = false) :
    Formed previous (readSymbol previous first behind).2
      (readSymbol previous first behind).1 := by
  rcases readSymbol_cases previous first behind with
    ⟨second, rest, kind, rfl, listed, read⟩ | read
  · rw [read]
    refine ⟨.symbol kind, .symbol listed, ?_⟩
    rw [Form.lexeme, kind_of_pair previous rest listed]
    rfl
  · rw [read]
    rcases symbol_or_stray no_blank no_quote no_digit no_start with
      listed | ⟨unknown, lone⟩
    · refine ⟨.symbol (singleKind first), .symbol listed, ?_⟩
      rw [ofSingle, settle_symbol previous [first] (kind_ne_name listed)]
      rfl
    · refine ⟨.stray, .stray lone, ?_⟩
      rw [ofSingle, unknown, settle]
      split <;> rfl

/-- What is read without a fault is determined by its form. -/
theorem formed_read {previous : Option Kind} {first : Char}
    {behind : Text}
    (no_blank : isBlank first = false)
    (sound : (read previous (first :: behind)).1.fault = none) :
    Formed previous (read previous (first :: behind)).2
      (read previous (first :: behind)).1 := by
  rw [read] at sound ⊢
  by_cases quoting : first = '"' ∨ first = '\''
  · rw [if_pos quoting] at sound ⊢
    exact formed_readString previous quoting sound
  · rw [if_neg quoting] at sound ⊢
    by_cases numeric :
        isDigit first ∨ (first = '.' ∧ digitFollows behind)
    · rw [if_pos numeric] at sound ⊢
      exact formed_readNumber previous numeric sound
    · rw [if_neg numeric] at sound ⊢
      rw [not_or, Bool.not_eq_true] at numeric
      by_cases start : isNameStart first
      · rw [if_pos start]
        exact formed_readName previous start
      · rw [if_neg start]
        rw [Bool.not_eq_true] at start
        exact
          formed_readSymbol previous no_blank quoting numeric.1 start

/-! ## Blanks -/

theorem isBlank_eq_false_of_apart {inClass : Char → Bool}
    {character : Char}
    (apart : [' ', '\t', '\r', '\n'].any inClass = false)
    (inside : inClass character = true) :
    isBlank character = false := by
  rw [← Bool.not_eq_true]
  intro blank
  have listed : character ∈ [' ', '\t', '\r', '\n'] := by
    simpa [isBlank, or_assoc] using blank
  rw [List.any_eq_false] at apart
  exact apart character listed inside

theorem isBlank_of_isNameChar {character : Char}
    (inside : isNameChar character = true) :
    isBlank character = false :=
  isBlank_eq_false_of_apart (by decide) inside

/-- No lexeme but a string contains a blank. -/
theorem Shaped.not_blank {text : Text} {form : Form}
    (shaped : Shaped text form) (no_string : ∀ body, form ≠ .string body) :
    ∀ character ∈ text, isBlank character = false := by
  intro character member
  cases shaped with
  | symbol listed =>
      have without :
          ∀ entry ∈ symbols,
            (entry.1.all fun character => !isBlank character) = true := by
        decide
      have inside :=
        List.all_eq_true.1 (without _ listed) character member
      rw [Bool.not_eq_true'] at inside
      exact inside
  | number numeric =>
      have inside := numeric.digit_or_point character member
      have apart :
          [' ', '\t', '\r', '\n'].any
              (fun blank => isDigit blank || blank == '.') =
            false := by
        decide
      exact isBlank_eq_false_of_apart apart inside
  | @string quote body quoting closed =>
      exact absurd rfl (no_string body)
  | word named => exact isBlank_of_isNameChar (named.inside character member)
  | qualified named named_local =>
      rw [List.mem_append, List.mem_cons] at member
      rcases member with inside | rfl | inside
      · exact isBlank_of_isNameChar (named.inside character inside)
      · rfl
      · rcases named_local with named_local | rfl
        · exact isBlank_of_isNameChar (named_local.inside character inside)
        · rw [List.mem_singleton.1 inside]
          rfl
  | stray lone =>
      rw [List.mem_singleton.1 member]
      exact lone.not_blank

/-- Only what begins with a quote is a string. -/
theorem Shaped.ne_string {first : Char} {rest : Text} {form : Form}
    (shaped : Shaped (first :: rest) form) (no_quote : ¬ IsQuote first)
    (body : Text) :
    form ≠ .string body := by
  rintro rfl
  generalize whole : first :: rest = text at shaped
  cases shaped with
  | string quoting closed =>
      rw [List.cons.injEq] at whole
      rw [whole.1] at no_quote
      exact no_quote quoting

/-- No lexeme begins with a blank. -/
theorem Shaped.first_not_blank {first : Char} {rest : Text} {form : Form}
    (shaped : Shaped (first :: rest) form) :
    isBlank first = false := by
  by_cases quoting : IsQuote first
  · rcases quoting with rfl | rfl <;> rfl
  · apply shaped.not_blank (shaped.ne_string quoting)
    exact List.mem_cons_self

/-! ## Longest lexemes -/

/-- The longest lexeme in front of a text is read with what its form carries. -/
theorem read_of_longest (previous : Option Kind)
    {text behind : Text} {form : Form}
    (longest : LongestPrefix IsLexeme text (text ++ behind))
    (shaped : Shaped text form)
    (unmarked :
      form = .number → ∀ mark ∈ behind.head?, ¬ IsExponentMark mark) :
    read previous (text ++ behind) =
      (form.lexeme previous text behind, behind) := by
  rcases List.exists_cons_of_ne_nil shaped.ne_nil with ⟨first, rest, rfl⟩
  have no_blank := shaped.first_not_blank
  have munch :
      Munch previous (first :: rest ++ behind) (first :: rest)
        (.ok (form.kind previous behind)) :=
    .lexeme longest shaped rfl unmarked
  have taken :
      Munch previous (first :: rest ++ behind)
        (read previous (first :: rest ++ behind)).1.text
        (read previous (first :: rest ++ behind)).1.result := by
    apply munch_read
    rintro character ⟨⟩
    exact no_blank
  rcases munch.unique taken with ⟨text_eq, result_eq⟩
  have sound :
      (read previous (first :: rest ++ behind)).1.fault = none := by
    rw [result] at result_eq
    cases fault : (read previous (first :: rest ++ behind)).1.fault with
    | none => rfl
    | some fault =>
        rw [fault] at result_eq
        cases result_eq
  have whole := text_append_read previous (first :: rest ++ behind)
  rw [← text_eq, List.append_cancel_left_eq] at whole
  rcases @formed_read previous first (rest ++ behind) no_blank sound with
    ⟨form', shaped', same⟩
  rw [← List.cons_append] at shaped' same
  rw [← text_eq] at shaped' same
  rw [whole, ← shaped.unique shaped'] at same
  exact Prod.ext same whole

/-! ## Lexemes in front of blanks -/

/-- No lexeme but a string goes on over a blank, and a string has ended. -/
theorem longest_before_blank {text behind : Text} {form : Form}
    (shaped : Shaped text form)
    (blank : ∀ first ∈ behind.head?, isBlank first = true) :
    LongestPrefix IsLexeme text (text ++ behind) := by
  rcases List.exists_cons_of_ne_nil shaped.ne_nil with ⟨first, rest, rfl⟩
  by_cases quoting : IsQuote first
  · rcases shaped.of_quote quoting with ⟨body, rfl, closed, -⟩
    have longest := @longest_string first body behind quoting closed
    simpa using longest
  · refine ⟨List.prefix_append _ _, ⟨form, shaped⟩, ?_⟩
    intro other starts lexeme
    by_contra longer
    have inside : first :: rest <+: other :=
      List.prefix_of_prefix_length_le (List.prefix_append _ _) starts
        (by omega)
    rcases inside with ⟨more, rfl⟩
    rw [List.prefix_append_right_inj] at starts
    cases more with
    | nil => simp at longer
    | cons next more =>
        rcases starts with ⟨far, rfl⟩
        rcases lexeme with ⟨form', shaped'⟩
        have next_not_blank : isBlank next = false := by
          apply shaped'.not_blank (shaped'.ne_string quoting)
          simp
        rw [blank next rfl] at next_not_blank
        cases next_not_blank

/-- In front of a blank or the end, a lexeme is read by itself. -/
theorem read_before_blank (previous : Option Kind) {text behind : Text}
    {form : Form}
    (shaped : Shaped text form)
    (blank : ∀ first ∈ behind.head?, isBlank first = true) :
    read previous (text ++ behind) =
      (form.lexeme previous text behind, behind) := by
  apply read_of_longest previous (longest_before_blank shaped blank) shaped
  rintro - mark member (rfl | rfl)
  · exact absurd (blank 'e' member) (by decide)
  · exact absurd (blank 'E' member) (by decide)

theorem parenthesisFollows_of_blank {behind : Text}
    (blank : ∀ first ∈ behind.head?, isBlank first = true) :
    parenthesisFollows behind = false := by
  cases behind with
  | nil => rfl
  | cons first rest =>
      have first_blank : isBlank first = true := blank first rfl
      by_cases opening : first = '('
      · rw [opening] at first_blank
        cases first_blank
      · simp [parenthesisFollows, opening]

/-- Only a parenthesis right behind a name makes it callable. -/
theorem Form.callable_eq {previous : Option Kind}
    {behind qualifier word : Text} {callable : Bool} {form : Form}
    (named :
      form.payload previous behind = .name qualifier word callable) :
    callable = parenthesisFollows behind := by
  cases form with
  | word spelling =>
      rw [Form.payload] at named
      split at named
      · cases named
        rfl
      · cases named
      · cases named
  | qualified qualifier localPart =>
      cases named
      rfl
  | _ => cases named

/-- A separator ahead is the lexeme that is read there. -/
theorem separatorAhead_iff_read (previous : Option Kind) (behind : Text) :
    SeparatorAhead behind ↔
      SeparatorAhead (read previous (behind.dropWhile isBlank)).1.text := by
  have whole := text_append_read previous (behind.dropWhile isBlank)
  constructor
  · rintro ⟨rest, follows⟩
    rw [← follows]
    exact List.prefix_rfl
  · intro ahead
    cases unread : behind.dropWhile isBlank with
    | nil =>
        rw [unread] at ahead
        have nothing : ¬ SeparatorAhead [] := by decide
        exact absurd ahead nothing
    | cons first rest =>
        have no_blank : isBlank first = false := by
          apply Text.head?_dropWhile_eq_false isBlank behind
          rw [unread]
          rfl
        rw [unread] at ahead whole
        rcases List.exists_cons_of_ne_nil
            (text_read_ne_nil previous first rest) with
          ⟨head, tail, text⟩
        rw [text, List.cons_append, List.cons.injEq] at whole
        rw [text, SeparatorAhead, whole.1, List.dropWhile_cons_of_neg] at ahead
        · rw [SeparatorAhead, unread, ← whole.2]
          exact ahead.trans (List.prefix_append (first :: tail) _)
        · rw [no_blank]
          exact Bool.false_ne_true

end Lexeme

end XPathScan
