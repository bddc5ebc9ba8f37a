import XPathScan.Lexeme
import XPathScan.Proofs.Text.Longest

/-!
# The language of lexemes

What a lexeme looks like is said here without a reader: the fixed symbols are
a table, numerals and names are described by the classes of their characters,
and a string is a body between two quotes that it does not contain.  `Shaped`
gives each text of the language its form, and a text has at most one form
(`Shaped.unique`), so the kind of a lexeme can be read off its form, the kind
of the lexeme before it and the text behind it.
-/

namespace XPathScan

namespace Lexeme

/-! ## Numerals and names -/

/-- Digits, or one point with digits on at least one side of it. -/
inductive IsNumeral : Text → Prop
  | whole {digits : Text}
      (filled : digits ≠ [])
      (numeric : ∀ digit ∈ digits, isDigit digit = true) :
      IsNumeral digits
  | pointed {digits fraction : Text}
      (filled : digits ≠ [] ∨ fraction ≠ [])
      (numeric : ∀ digit ∈ digits, isDigit digit = true)
      (numeric_fraction : ∀ digit ∈ fraction, isDigit digit = true) :
      IsNumeral (digits ++ '.' :: fraction)

/-- A character that begins names and any characters that go on in them. -/
inductive IsName : Text → Prop
  | mk {first : Char} {rest : Text}
      (start : isNameStart first = true)
      (inside : ∀ character ∈ rest, isNameChar character = true) :
      IsName (first :: rest)

/-- One of the two characters around strings. -/
def IsQuote (character : Char) : Prop :=
  character = '"' ∨ character = '\''

/-- One of the two letters in front of an exponent. -/
def IsExponentMark (character : Char) : Prop :=
  character = 'e' ∨ character = 'E'

/-- The sign of an exponent, which may be left out. -/
def IsSign (sign : Text) : Prop :=
  sign = [] ∨ sign = ['+'] ∨ sign = ['-']

/-- A numeral with an exponent, whose digits may be left out. -/
inductive IsScientific : Text → Prop
  | mk {numeral sign digits : Text} {mark : Char}
      (numeric : IsNumeral numeral)
      (marked : IsExponentMark mark)
      (signed : IsSign sign)
      (numeric_digits : ∀ digit ∈ digits, isDigit digit = true) :
      IsScientific (numeral ++ mark :: (sign ++ digits))

/-! ## Forms -/

/-- The fixed symbols with their kinds; a star may still become an operator. -/
def symbols : List (Text × Kind) :=
  [(['('], .leftParen), ([')'], .rightParen), (['['], .leftBracket),
    ([']'], .rightBracket), (['@'], .atSign), ([','], .comma),
    (['$'], .dollar), (['}'], .rightBrace), (['|'], .union),
    (['+'], .plus), (['-'], .minus), (['='], .eq), (['*'], .star),
    (['.'], .dot), (['.', '.'], .doubleDot), ([':', ':'], .doubleColon),
    (['/'], .slash), (['/', '/'], .doubleSlash), (['!', '='], .ne),
    (['<'], .lt), (['<', '='], .le), (['>'], .gt), (['>', '='], .ge)]

/--
A character that is a lexeme although nothing accounts for it: no blank, no
quote, no digit, no beginning of a name and no symbol.
-/
structure IsStray (character : Char) : Prop where
  not_blank : isBlank character = false
  not_quote : ¬ IsQuote character
  not_digit : isDigit character = false
  not_nameStart : isNameStart character = false
  not_symbol : ∀ kind, ([character], kind) ∉ symbols

/-- The forms of lexemes, with the parts that matter. -/
inductive Form
  | symbol (kind : Kind)
  | number
  | string (body : Text)
  | word (spelling : Text)
  | qualified (qualifier localPart : Text)
  | stray
  deriving DecidableEq

/-- The texts of each form. -/
inductive Shaped : Text → Form → Prop
  | symbol {text : Text} {kind : Kind}
      (listed : (text, kind) ∈ symbols) :
      Shaped text (.symbol kind)
  | number {text : Text}
      (numeric : IsNumeral text) :
      Shaped text .number
  | string {quote : Char} {body : Text}
      (quoting : IsQuote quote)
      (closed : quote ∉ body) :
      Shaped (quote :: (body ++ [quote])) (.string body)
  | word {spelling : Text}
      (named : IsName spelling) :
      Shaped spelling (.word spelling)
  | qualified {qualifier localPart : Text}
      (named : IsName qualifier)
      (named_local : IsName localPart ∨ localPart = ['*']) :
      Shaped (qualifier ++ ':' :: localPart)
        (.qualified qualifier localPart)
  | stray {character : Char}
      (lone : IsStray character) :
      Shaped [character] .stray

/-- The texts that are lexemes. -/
def IsLexeme (text : Text) : Prop :=
  ∃ form, Shaped text form

/-! ## Kinds -/

/-- The operators that are spelled like names. -/
def wordOperators : List Operator :=
  [.or, .and, .divide, .modulo]

/-- The operator that a word spells. -/
def wordOperator? (word : Text) : Option Operator :=
  wordOperators.find? fun operator => operator.symbol == word

/-- Whether a separator of axis and node test is the next lexeme. -/
def SeparatorAhead (behind : Text) : Prop :=
  [':', ':'] <+: behind.dropWhile isBlank

instance (behind : Text) : Decidable (SeparatorAhead behind) :=
  inferInstanceAs (Decidable ([':', ':'] <+: behind.dropWhile isBlank))

/--
The kind of a lexeme by its form, the kind of the lexeme before it and the text
behind it.
-/
def Form.kind (previous : Option Kind) (behind : Text) : Form → Kind
  | .symbol kind =>
      if kind = .star ∧ expectsOperand previous = false then
        .multiply
      else
        kind
  | .number => .number
  | .string _ => .string
  | .word spelling =>
      if Axis.ofSpelling spelling ≠ .unknown ∧ SeparatorAhead behind then
        .axis
      else
        match wordOperator? spelling with
        | some operator =>
            if expectsOperand previous then .name else operator.kind
        | none => .name
  | .qualified _ _ => .name
  | .stray => .unknown

/-! ## First characters -/

theorem IsNumeral.ne_nil {text : Text} (numeric : IsNumeral text) :
    text ≠ [] := by
  cases numeric with
  | whole filled numeric => exact filled
  | pointed filled numeric numeric_fraction => simp

theorem IsNumeral.first {first : Char} {rest : Text}
    (numeric : IsNumeral (first :: rest)) :
    isDigit first = true ∨ first = '.' := by
  generalize whole : first :: rest = text at numeric
  cases numeric with
  | whole filled numeric =>
      subst whole
      exact Or.inl (numeric first List.mem_cons_self)
  | @pointed digits fraction filled numeric numeric_fraction =>
      cases digits with
      | nil =>
          rw [List.nil_append, List.cons.injEq] at whole
          exact Or.inr whole.1
      | cons digit digits =>
          rw [List.cons_append, List.cons.injEq] at whole
          rw [whole.1]
          exact Or.inl (numeric digit List.mem_cons_self)

theorem IsNumeral.exists_digit {text : Text}
    (numeric : IsNumeral text) :
    ∃ digit ∈ text, isDigit digit = true := by
  cases numeric with
  | whole filled numeric =>
      rcases List.exists_cons_of_ne_nil filled with ⟨digit, digits, rfl⟩
      exact ⟨digit, List.mem_cons_self, numeric _ List.mem_cons_self⟩
  | pointed filled numeric numeric_fraction =>
      rcases filled with filled | filled
      · rcases List.exists_cons_of_ne_nil filled with ⟨digit, digits, rfl⟩
        exact ⟨digit, by simp, numeric _ List.mem_cons_self⟩
      · rcases List.exists_cons_of_ne_nil filled with ⟨digit, digits, rfl⟩
        exact ⟨digit, by simp, numeric_fraction _ List.mem_cons_self⟩

/-- Only digits and points stand in numerals. -/
theorem IsNumeral.digit_or_point {text : Text}
    (numeric : IsNumeral text) :
    ∀ character ∈ text, (isDigit character || character == '.') = true := by
  cases numeric with
  | whole filled numeric =>
      intro character member
      simp [numeric character member]
  | pointed filled numeric numeric_fraction =>
      intro character member
      rw [List.mem_append, List.mem_cons] at member
      rcases member with digit | rfl | digit
      · simp [numeric character digit]
      · rfl
      · simp [numeric_fraction character digit]

theorem IsName.inside {text : Text} (named : IsName text) :
    ∀ character ∈ text, isNameChar character = true := by
  cases named with
  | mk start inside =>
      intro character member
      rcases List.mem_cons.1 member with rfl | later
      · exact isNameChar_of_isNameStart start
      · exact inside character later

/-- No name contains a colon. -/
theorem IsName.colon_not_mem {text : Text} (named : IsName text) :
    ':' ∉ text := by
  intro member
  have inside := named.inside ':' member
  revert inside
  decide

theorem not_isNameStart_of_isDigit {character : Char}
    (digit : isDigit character = true) :
    isNameStart character = false := by
  simp only [isDigit, Bool.and_eq_true, decide_eq_true_eq,
    Char.le_def, UInt32.le_iff_toNat_le] at digit
  have upper : character.val.toNat ≤ 57 := digit.2
  have apart : character ≠ '_' := by
    rintro rfl
    revert upper
    decide
  simp only [isNameStart, Bool.or_eq_false_iff, Bool.and_eq_false_iff,
    decide_eq_false_iff_not, Char.le_def, UInt32.le_iff_toNat_le,
    beq_eq_false_iff_ne]
  refine ⟨⟨Or.inl ?_, Or.inl ?_⟩, apart⟩
  · change ¬ (97 ≤ character.val.toNat)
    omega
  · change ¬ (65 ≤ character.val.toNat)
    omega

/-- No symbol contains a digit. -/
theorem digit_not_mem_symbols {text : Text} {kind : Kind}
    (listed : (text, kind) ∈ symbols) :
    ∀ character ∈ text, isDigit character = false := by
  have without :
      ∀ entry ∈ symbols, (entry.1.all fun character =>
        !isDigit character) = true := by
    decide
  intro character member
  have inside := List.all_eq_true.1 (without _ listed) character member
  rw [Bool.not_eq_true'] at inside
  exact inside

theorem IsNumeral.not_mem_symbols {text : Text}
    (numeric : IsNumeral text) (kind : Kind) :
    (text, kind) ∉ symbols := by
  intro listed
  rcases numeric.exists_digit with ⟨digit, member, is_digit⟩
  rw [digit_not_mem_symbols listed digit member] at is_digit
  cases is_digit

theorem IsStray.not_isNumeral {character : Char}
    (lone : IsStray character) :
    ¬ IsNumeral [character] := by
  intro numeric
  rcases numeric.exists_digit with ⟨digit, member, is_digit⟩
  rw [List.mem_singleton.1 member, lone.not_digit] at is_digit
  cases is_digit

/-- Each symbol is listed with a single kind. -/
theorem symbols_functional {text : Text} {kind kind' : Kind}
    (listed : (text, kind) ∈ symbols)
    (listed' : (text, kind') ∈ symbols) :
    kind = kind' := by
  have functional :
      ∀ entry ∈ symbols, ∀ entry' ∈ symbols,
        entry.1 = entry'.1 → entry.2 = entry'.2 := by
    decide
  exact functional _ listed _ listed' rfl

/-! ## Beginnings -/

/-- The ways in which lexemes begin. -/
inductive Beginning
  | quote
  | digit
  | name
  | other
  deriving DecidableEq

/-- The way in which a lexeme with a given first character begins. -/
def beginning (first : Char) : Beginning :=
  if first = '"' ∨ first = '\'' then
    .quote
  else if isDigit first then
    .digit
  else if isNameStart first then
    .name
  else
    .other

section

variable {first : Char} {rest : Text}

theorem beginning_of_quote (quoting : IsQuote first) :
    beginning first = .quote :=
  if_pos quoting

theorem beginning_of_digit (digit : isDigit first = true) :
    beginning first = .digit := by
  have no_quote : ¬ IsQuote first := by
    rintro (rfl | rfl) <;> cases digit
  exact (if_neg no_quote).trans (if_pos digit)

theorem beginning_of_nameStart (start : isNameStart first = true) :
    beginning first = .name := by
  have no_quote : ¬ IsQuote first := by
    rintro (rfl | rfl) <;> cases start
  have no_digit : ¬ isDigit first = true := by
    intro digit
    rw [not_isNameStart_of_isDigit digit] at start
    cases start
  exact
    (if_neg no_quote).trans ((if_neg no_digit).trans (if_pos start))

theorem beginning_of_other
    (no_quote : ¬ IsQuote first) (no_digit : isDigit first = false)
    (no_start : isNameStart first = false) :
    beginning first = .other := by
  rw [← Bool.not_eq_true] at no_digit no_start
  exact
    (if_neg no_quote).trans ((if_neg no_digit).trans (if_neg no_start))

theorem IsName.beginning_of_prefix {name : Text}
    (named : IsName name) (front : name <+: first :: rest) :
    beginning first = .name := by
  cases named with
  | mk start inside =>
      rw [List.cons_prefix_cons] at front
      rw [← front.1]
      exact beginning_of_nameStart start

/-- No symbol begins like a string, a numeral without point or a name. -/
theorem beginning_of_mem_symbols {kind : Kind}
    (listed : (first :: rest, kind) ∈ symbols) :
    beginning first = .other := by
  have apart :
      ∀ entry ∈ symbols,
        entry.1.head?.map beginning = some .other := by
    decide
  exact Option.some.inj (apart _ listed)

theorem IsStray.beginning_eq (lone : IsStray first) :
    beginning first = .other :=
  beginning_of_other lone.not_quote lone.not_digit lone.not_nameStart

end

/-! ## Forms by their first character -/

/-- The forms that a text can have by the way in which it begins. -/
def FitsBeginning (first : Char) (rest : Text) (form : Form) :
    Beginning → Prop
  | .quote =>
      ∃ body, rest = body ++ [first] ∧ first ∉ body ∧ form = .string body
  | .digit => IsNumeral (first :: rest) ∧ form = .number
  | .name =>
      (IsName (first :: rest) ∧ form = .word (first :: rest)) ∨
        ∃ qualifier localPart,
          first :: rest = qualifier ++ ':' :: localPart ∧
            IsName qualifier ∧ (IsName localPart ∨ localPart = ['*']) ∧
            form = .qualified qualifier localPart
  | .other =>
      (∃ kind, (first :: rest, kind) ∈ symbols ∧ form = .symbol kind) ∨
        (IsNumeral (first :: rest) ∧ first = '.' ∧ form = .number) ∨
        (rest = [] ∧ IsStray first ∧ form = .stray)

namespace Shaped

variable {first : Char} {rest : Text} {form : Form}

theorem ne_nil {text : Text} (shaped : Shaped text form) :
    text ≠ [] := by
  cases shaped with
  | symbol listed =>
      rintro rfl
      revert listed
      simp [symbols]
  | number numeric => exact numeric.ne_nil
  | string quoting closed => exact List.cons_ne_nil _ _
  | word named =>
      cases named with
      | mk start inside => exact List.cons_ne_nil _ _
  | qualified named named_local =>
      intro empty
      exact List.cons_ne_nil _ _ (List.append_eq_nil_iff.1 empty).2
  | stray lone => exact List.cons_ne_nil _ _

/-- A form fits the way in which the text begins. -/
theorem fits (shaped : Shaped (first :: rest) form) :
    FitsBeginning first rest form (beginning first) := by
  generalize whole : first :: rest = text at shaped
  cases shaped with
  | @symbol text kind listed =>
      subst whole
      rw [beginning_of_mem_symbols listed]
      exact Or.inl ⟨kind, listed, rfl⟩
  | number numeric =>
      subst whole
      rcases numeric.first with digit | rfl
      · rw [beginning_of_digit digit]
        exact ⟨numeric, rfl⟩
      · exact Or.inr (Or.inl ⟨numeric, rfl, rfl⟩)
  | @string quote body quoting closed =>
      rw [List.cons.injEq] at whole
      rcases whole with ⟨rfl, rfl⟩
      rw [beginning_of_quote quoting]
      exact ⟨body, rfl, closed, rfl⟩
  | word named =>
      subst whole
      rw [named.beginning_of_prefix List.prefix_rfl]
      exact Or.inl ⟨named, rfl⟩
  | @qualified qualifier localPart named named_local =>
      rw [named.beginning_of_prefix ⟨_, whole.symm⟩]
      exact
        Or.inr ⟨qualifier, localPart, whole, named, named_local, rfl⟩
  | stray lone =>
      rw [List.cons.injEq] at whole
      rcases whole with ⟨rfl, rfl⟩
      rw [lone.beginning_eq]
      exact Or.inr (Or.inr ⟨rfl, lone, rfl⟩)

/-- What begins with a quote is a string between two such quotes. -/
theorem of_quote
    (shaped : Shaped (first :: rest) form) (quoting : IsQuote first) :
    ∃ body,
      rest = body ++ [first] ∧ first ∉ body ∧ form = .string body := by
  have fits := shaped.fits
  rw [beginning_of_quote quoting] at fits
  exact fits

/-- What begins with a digit is a numeral. -/
theorem of_digit
    (shaped : Shaped (first :: rest) form)
    (digit : isDigit first = true) :
    IsNumeral (first :: rest) ∧ form = .number := by
  have fits := shaped.fits
  rw [beginning_of_digit digit] at fits
  exact fits

/-- What begins like a name is a word or a qualified name. -/
theorem of_nameStart
    (shaped : Shaped (first :: rest) form)
    (start : isNameStart first = true) :
    (IsName (first :: rest) ∧ form = .word (first :: rest)) ∨
      ∃ qualifier localPart,
        first :: rest = qualifier ++ ':' :: localPart ∧
          IsName qualifier ∧ (IsName localPart ∨ localPart = ['*']) ∧
          form = .qualified qualifier localPart := by
  have fits := shaped.fits
  rw [beginning_of_nameStart start] at fits
  exact fits

/-- What begins in no other way is a symbol, a numeral or a stray. -/
theorem of_other
    (shaped : Shaped (first :: rest) form)
    (no_quote : ¬ IsQuote first) (no_digit : isDigit first = false)
    (no_start : isNameStart first = false) :
    (∃ kind, (first :: rest, kind) ∈ symbols ∧ form = .symbol kind) ∨
      (IsNumeral (first :: rest) ∧ first = '.' ∧ form = .number) ∨
      (rest = [] ∧ IsStray first ∧ form = .stray) := by
  have fits := shaped.fits
  rw [beginning_of_other no_quote no_digit no_start] at fits
  exact fits

/-- Only one colon that no name contains divides a qualified name. -/
theorem qualified_injective
    {qualifier localPart qualifier' localPart' : Text}
    (named : IsName qualifier) (named' : IsName qualifier')
    (same : qualifier ++ ':' :: localPart = qualifier' ++ ':' :: localPart') :
    qualifier = qualifier' ∧ localPart = localPart' := by
  have outside : isNameChar ':' = false := by decide
  exact Text.cut_unique named.inside named'.inside outside outside same

/-- A text has at most one form. -/
theorem unique {text : Text} {form form' : Form}
    (shaped : Shaped text form) (shaped' : Shaped text form') :
    form = form' := by
  rcases List.exists_cons_of_ne_nil shaped.ne_nil with ⟨first, rest, rfl⟩
  have fits := shaped.fits
  have fits' := shaped'.fits
  cases way : beginning first with
  | quote =>
      rw [way] at fits fits'
      rcases fits with ⟨body, whole, -, rfl⟩
      rcases fits' with ⟨body', whole', -, rfl⟩
      rw [whole] at whole'
      rw [List.append_cancel_right whole']
  | digit =>
      rw [way] at fits fits'
      rw [fits.2, fits'.2]
  | name =>
      rw [way] at fits fits'
      rcases fits with
        ⟨named, rfl⟩ | ⟨qualifier, localPart, whole, named, -, rfl⟩
      · rcases fits' with
          ⟨-, rfl⟩ | ⟨qualifier', localPart', whole', -, -, rfl⟩
        · rfl
        · have absent := named.colon_not_mem
          rw [whole'] at absent
          exact
            absurd (List.mem_append_right _ List.mem_cons_self) absent
      · rcases fits' with
          ⟨named', rfl⟩ | ⟨qualifier', localPart', whole', named', -, rfl⟩
        · have absent := named'.colon_not_mem
          rw [whole] at absent
          exact
            absurd (List.mem_append_right _ List.mem_cons_self) absent
        · rw [whole] at whole'
          rcases qualified_injective named named' whole' with ⟨rfl, rfl⟩
          rfl
  | other =>
      rw [way] at fits fits'
      rcases fits with
        ⟨kind, listed, rfl⟩ | ⟨numeric, -, rfl⟩ | ⟨rfl, lone, rfl⟩
      · rcases fits' with
          ⟨kind', listed', rfl⟩ | ⟨numeric, -, rfl⟩ | ⟨rfl, lone, rfl⟩
        · rw [symbols_functional listed listed']
        · exact absurd listed (numeric.not_mem_symbols kind)
        · exact absurd listed (lone.not_symbol kind)
      · rcases fits' with
          ⟨kind', listed', rfl⟩ | ⟨-, -, rfl⟩ | ⟨rfl, lone, rfl⟩
        · exact absurd listed' (numeric.not_mem_symbols kind')
        · rfl
        · exact absurd numeric lone.not_isNumeral
      · rcases fits' with
          ⟨kind', listed', rfl⟩ | ⟨numeric, -, rfl⟩ | ⟨-, -, rfl⟩
        · exact absurd listed' (lone.not_symbol kind')
        · exact absurd numeric lone.not_isNumeral
        · rfl

end Shaped

end Lexeme

end XPathScan
