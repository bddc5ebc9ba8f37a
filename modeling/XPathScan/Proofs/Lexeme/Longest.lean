import XPathScan.Proofs.Lexeme.Language

/-!
# Readers take longest prefixes

Each reader of lexemes is compared with the language of lexemes: what it takes
off a text is the longest prefix that is a lexeme, and what is taken off as a
fault is the longest prefix with an exponent or has no closing quote.  The
comparison goes by the first character, because it leaves few forms that any
other prefix could have.
-/

namespace XPathScan

namespace Lexeme

open Text (LongestPrefix)

/-- A lexeme in front of a text shares its first character. -/
theorem IsLexeme.of_prefix {other behind : Text} {first : Char}
    (lexeme : IsLexeme other) (starts : other <+: first :: behind) :
    ∃ tail form,
      other = first :: tail ∧ tail <+: behind ∧
        Shaped (first :: tail) form := by
  rcases lexeme with ⟨form, shaped⟩
  rcases List.prefix_cons_iff.1 starts with rfl | ⟨tail, rfl, inside⟩
  · exact absurd rfl shaped.ne_nil
  · exact ⟨tail, form, rfl, inside, shaped⟩

/-! ## Strings -/

theorem readString_of_not_mem {quote : Char} {unread : Text}
    (absent : quote ∉ unread) :
    readString quote unread =
      (faulty .unclosedString (quote :: unread), []) := by
  have inside := Text.bne_of_not_mem absent
  have taken : unread.takeWhile (· != quote) = unread :=
    List.takeWhile_eq_self_iff.2 inside
  have left : unread.dropWhile (· != quote) = [] :=
    List.dropWhile_eq_nil_iff.2 inside
  rw [readString, left, taken]

theorem readString_append {quote : Char} {body rest : Text}
    (closed : quote ∉ body) :
    readString quote (body ++ quote :: rest) =
      (⟨.string, .string body, quote :: (body ++ [quote]), none⟩,
        rest) := by
  have inside := Text.bne_of_not_mem closed
  have outside : (quote != quote) = false := bne_self_eq_false quote
  rw [readString, Text.takeWhile_append_cons inside outside,
    Text.dropWhile_append_cons inside outside]
  rfl

/-- The first closing quote ends a string, whatever follows. -/
theorem longest_string {quote : Char} {body rest : Text}
    (quoting : IsQuote quote) (closed : quote ∉ body) :
    LongestPrefix IsLexeme (quote :: (body ++ [quote]))
      (quote :: (body ++ quote :: rest)) where
  starts := ⟨rest, by simp⟩
  holds := ⟨.string body, .string quoting closed⟩
  longest := by
    intro other starts lexeme
    rcases lexeme.of_prefix starts with ⟨tail, form, rfl, inside, shaped⟩
    rcases shaped.of_quote quoting with ⟨body', rfl, closed', -⟩
    rcases inside with ⟨behind, whole⟩
    rw [List.append_assoc, List.singleton_append] at whole
    -- both bodies are what stands in front of the first closing quote
    have bodies := congrArg (readString quote) whole
    rw [readString_append closed', readString_append closed] at bodies
    have same : body' = body := by
      simpa using congrArg (fun read => read.1.payload) bodies
    rw [same]

/-- Without a closing quote there is no lexeme. -/
theorem not_isLexeme_of_unclosed
    {quote : Char} {behind other : Text}
    (quoting : IsQuote quote) (absent : quote ∉ behind)
    (starts : other <+: quote :: behind) :
    ¬ IsLexeme other := by
  intro lexeme
  rcases lexeme.of_prefix starts with ⟨tail, form, rfl, inside, shaped⟩
  rcases shaped.of_quote quoting with ⟨body, rfl, -, -⟩
  apply absent
  apply inside.subset
  simp

/-! ## Numbers -/

theorem splitNumeral_pointed {digits behind : Text}
    (numeric : ∀ digit ∈ digits, isDigit digit = true) :
    splitNumeral (digits ++ '.' :: behind) =
      (digits ++ '.' :: behind.takeWhile isDigit,
        behind.dropWhile isDigit) := by
  have outside : isDigit '.' = false := by decide
  rw [splitNumeral, Text.takeWhile_append_cons numeric outside,
    Text.dropWhile_append_cons numeric outside]
  rfl

theorem takeWhile_prefix_splitNumeral (unread : Text) :
    unread.takeWhile isDigit <+: (splitNumeral unread).1 := by
  unfold splitNumeral
  split
  · exact List.prefix_append _ _
  · exact List.prefix_rfl

/-- No numeral in front of a text is longer than the one taken off. -/
theorem length_le_splitNumeral {numeral unread : Text}
    (numeric : IsNumeral numeral) (starts : numeral <+: unread) :
    numeral.length ≤ (splitNumeral unread).1.length := by
  cases numeric with
  | whole filled numeric =>
      exact
        (Text.length_le_takeWhile starts numeric).trans
          (takeWhile_prefix_splitNumeral unread).length_le
  | @pointed digits fraction filled numeric numeric_fraction =>
      rcases starts with ⟨rest, rfl⟩
      rw [List.append_assoc, List.cons_append,
        splitNumeral_pointed numeric]
      have shorter : fraction.length ≤
          ((fraction ++ rest).takeWhile isDigit).length :=
        Text.length_le_takeWhile (List.prefix_append _ _)
          numeric_fraction
      simpa using shorter

/-- Where a number is read, a numeral is taken off. -/
theorem isNumeral_splitNumeral {first : Char} {behind : Text}
    (numeric : isDigit first ∨ (first = '.' ∧ digitFollows behind)) :
    IsNumeral (splitNumeral (first :: behind)).1 := by
  have inside :
      ∀ digit ∈ (first :: behind).takeWhile isDigit,
        isDigit digit = true :=
    fun digit member => List.mem_takeWhile_imp member
  rcases numeric with digit | ⟨rfl, follows⟩
  · have filled : (first :: behind).takeWhile isDigit ≠ [] := by
      rw [List.takeWhile_cons_of_pos digit]
      exact List.cons_ne_nil _ _
    unfold splitNumeral
    split
    · exact
        .pointed (Or.inl filled) inside
          fun digit member => List.mem_takeWhile_imp member
    · exact .whole filled inside
  · have no_digits : ∀ digit ∈ ([] : Text), isDigit digit = true := by
      simp
    rw [← List.nil_append ('.' :: behind),
      splitNumeral_pointed no_digits]
    refine .pointed (Or.inr ?_) no_digits
      fun digit member => List.mem_takeWhile_imp member
    cases behind with
    | nil => cases follows
    | cons second rest =>
        change isDigit second = true at follows
        rw [List.takeWhile_cons_of_pos follows]
        exact List.cons_ne_nil _ _

/-- The numeral taken off is the longest lexeme. -/
theorem longest_number {first : Char} {behind : Text}
    (numeric : isDigit first ∨ (first = '.' ∧ digitFollows behind)) :
    LongestPrefix IsLexeme (splitNumeral (first :: behind)).1
      (first :: behind) where
  starts := ⟨_, splitNumeral_append (first :: behind)⟩
  holds := ⟨.number, .number (isNumeral_splitNumeral numeric)⟩
  longest := by
    intro other starts lexeme
    rcases lexeme.of_prefix starts with ⟨tail, form, rfl, inside, shaped⟩
    rcases numeric with digit | ⟨rfl, follows⟩
    · exact length_le_splitNumeral (shaped.of_digit digit).1 starts
    · have others :=
        shaped.of_other (by simp [IsQuote]) (by decide) (by decide)
      rcases others with
        ⟨kind, listed, -⟩ | ⟨numeral, -, -⟩ | ⟨rfl, lone, -⟩
      · cases tail with
        | nil =>
            exact
              List.length_pos_iff.2
                (splitNumeral_ne_nil (Or.inr ⟨rfl, follows⟩))
        | cons second tail =>
            -- the digit behind the point stands in no symbol
            rcases inside with ⟨rest, rfl⟩
            have absent :=
              digit_not_mem_symbols listed second (by simp)
            change isDigit second = true at follows
            rw [absent] at follows
            cases follows
      · exact length_le_splitNumeral numeral starts
      · exact
          List.length_pos_iff.2
            (splitNumeral_ne_nil (Or.inr ⟨rfl, follows⟩))

/-! ## Exponents -/

theorem splitExponent?_eq_some_iff {unread exponent rest : Text} :
    splitExponent? unread = some (exponent, rest) ↔
      ∃ mark behind,
        unread = mark :: behind ∧ IsExponentMark mark ∧
          exponent =
            mark ::
              ((splitSign behind).1 ++
                (splitSign behind).2.takeWhile isDigit) ∧
          rest = (splitSign behind).2.dropWhile isDigit := by
  cases unread with
  | nil => simp [splitExponent?]
  | cons mark behind =>
      rw [splitExponent?]
      by_cases marked : mark = 'e' ∨ mark = 'E'
      · rw [if_pos marked]
        constructor
        · intro found
          simp only [Option.some.injEq, Prod.mk.injEq] at found
          rcases found with ⟨rfl, rfl⟩
          exact ⟨mark, behind, rfl, marked, rfl, rfl⟩
        · rintro ⟨mark', behind', same, -, rfl, rfl⟩
          rw [List.cons.injEq] at same
          rcases same with ⟨rfl, rfl⟩
          rfl
      · rw [if_neg marked]
        constructor
        · intro found
          cases found
        · rintro ⟨mark', behind', same, marked', -, -⟩
          rw [List.cons.injEq] at same
          rw [← same.1] at marked'
          exact absurd marked' marked

theorem splitExponent?_eq_none_iff {unread : Text} :
    splitExponent? unread = none ↔
      ∀ mark ∈ unread.head?, ¬ IsExponentMark mark := by
  cases unread with
  | nil => simp [splitExponent?]
  | cons mark behind => simp [splitExponent?, IsExponentMark]

theorem isSign_splitSign (unread : Text) :
    IsSign (splitSign unread).1 := by
  unfold splitSign
  split
  · exact Or.inr (Or.inl rfl)
  · exact Or.inr (Or.inr rfl)
  · exact Or.inl rfl

/-- No sign with digits is longer than the ones taken off. -/
theorem length_le_splitSign {sign digits unread : Text}
    (signed : IsSign sign)
    (numeric : ∀ digit ∈ digits, isDigit digit = true)
    (starts : sign ++ digits <+: unread) :
    (sign ++ digits).length ≤
      ((splitSign unread).1 ++
        (splitSign unread).2.takeWhile isDigit).length := by
  have without_sign : ∀ {mark : Char} {behind : Text},
      isDigit mark = false → digits <+: mark :: behind →
        digits = [] := by
    intro mark behind outside starts
    have inside := Text.prefix_takeWhile starts numeric
    rw [List.takeWhile_cons_of_neg (Bool.not_eq_true _ ▸ outside)]
      at inside
    exact List.prefix_nil.1 inside
  rcases signed with rfl | rfl | rfl
  · rw [List.nil_append] at starts ⊢
    unfold splitSign
    split
    · rw [without_sign (by decide) starts]
      exact Nat.zero_le _
    · rw [without_sign (by decide) starts]
      exact Nat.zero_le _
    · exact Text.length_le_takeWhile starts numeric
  · rcases starts with ⟨rest, rfl⟩
    have shorter :=
      Text.length_le_takeWhile (List.prefix_append digits rest) numeric
    simpa [splitSign] using shorter
  · rcases starts with ⟨rest, rfl⟩
    have shorter :=
      Text.length_le_takeWhile (List.prefix_append digits rest) numeric
    simpa [splitSign] using shorter

/-- Two numerals in front of a text that an exponent follows are equal. -/
theorem numeral_unique {numeral numeral' behind behind' : Text}
    {mark mark' : Char}
    (numeric : IsNumeral numeral) (numeric' : IsNumeral numeral')
    (marked : IsExponentMark mark) (marked' : IsExponentMark mark')
    (same : numeral ++ mark :: behind = numeral' ++ mark' :: behind') :
    numeral = numeral' := by
  have outside : ∀ {mark : Char}, IsExponentMark mark →
      (isDigit mark || mark == '.') = false := by
    rintro mark (rfl | rfl) <;> decide
  have cut :=
    Text.cut_unique numeric.digit_or_point numeric'.digit_or_point
      (outside marked) (outside marked') same
  exact cut.1

/-- The number with its exponent is taken off as a whole. -/
theorem longest_scientific {first : Char} {behind exponent rest : Text}
    (numeric : isDigit first ∨ (first = '.' ∧ digitFollows behind))
    (found :
      splitExponent? (splitNumeral (first :: behind)).2 =
        some (exponent, rest)) :
    LongestPrefix IsScientific
      ((splitNumeral (first :: behind)).1 ++ exponent)
      (first :: behind) := by
  have numeral := isNumeral_splitNumeral numeric
  have whole := splitNumeral_append (first :: behind)
  have split := splitExponent?_append found
  rcases splitExponent?_eq_some_iff.1 found with
    ⟨mark, unread, follows, marked, rfl, -⟩
  refine ⟨⟨rest, ?_⟩, ?_, ?_⟩
  · rw [List.append_assoc, split, whole]
  · exact
      .mk numeral marked (isSign_splitSign unread)
        fun digit member => List.mem_takeWhile_imp member
  · intro other starts scientific
    cases scientific with
    | @mk numeral' sign digits mark' numeric' marked' signed digits_numeric =>
        rcases starts with ⟨behind', same⟩
        rw [follows] at whole
        rw [← whole, List.append_assoc, List.cons_append] at same
        have numerals := numeral_unique numeric' numeral marked' marked same
        rw [numerals, List.append_cancel_left_eq, List.cons.injEq] at same
        have shorter :=
          length_le_splitSign signed digits_numeric ⟨behind', same.2⟩
        rw [numerals]
        simpa using shorter

/-! ## Names -/

theorem isName_takeWhile {first : Char} {behind : Text}
    (start : isNameStart first = true) :
    IsName ((first :: behind).takeWhile isNameChar) := by
  rw [List.takeWhile_cons_of_pos (isNameChar_of_isNameStart start)]
  exact .mk start fun character member => List.mem_takeWhile_imp member

/-- What is taken off behind a colon is a name or a star. -/
theorem named_of_splitLocalPart? {behind localPart rest : Text}
    (found : splitLocalPart? behind = some (localPart, rest)) :
    IsName localPart ∨ localPart = ['*'] := by
  unfold splitLocalPart? at found
  split at found
  · simp only [Option.some.injEq, Prod.mk.injEq] at found
    exact Or.inr found.1.symm
  next first behind _ =>
    split at found
    next start =>
      simp only [Option.some.injEq, Prod.mk.injEq] at found
      rw [← found.1]
      exact
        Or.inl
          (.mk start fun character member => List.mem_takeWhile_imp member)
    next => cases found
  · cases found

/-- No local part in front of a text is longer than the one taken off. -/
theorem exists_splitLocalPart? {behind localPart : Text}
    (named : IsName localPart ∨ localPart = ['*'])
    (starts : ':' :: localPart <+: behind) :
    ∃ taken rest,
      splitLocalPart? behind = some (taken, rest) ∧
        localPart.length ≤ taken.length := by
  rcases starts with ⟨rest, rfl⟩
  rcases named with named | rfl
  · cases named with
    | @mk first tail start inside =>
        have shorter :=
          Text.length_le_takeWhile (List.prefix_append tail rest) inside
        refine
          ⟨first :: (tail ++ rest).takeWhile isNameChar,
            (tail ++ rest).dropWhile isNameChar, ?_, ?_⟩
        · have no_star : first = '*' → False := by
            rintro rfl
            cases start
          change splitLocalPart? (':' :: first :: (tail ++ rest)) = _
          rw [splitLocalPart?.eq_2 first (tail ++ rest) no_star,
            if_pos start]
        · simpa using shorter
  · exact ⟨['*'], rest, rfl, Nat.le_refl _⟩

/-- A qualified name in front of a text begins with the name taken off. -/
theorem qualifier_eq_takeWhile {qualifier localPart unread : Text}
    (named : IsName qualifier)
    (starts : qualifier ++ ':' :: localPart <+: unread) :
    qualifier = unread.takeWhile isNameChar ∧
      ':' :: localPart <+: unread.dropWhile isNameChar := by
  have outside : isNameChar ':' = false := by decide
  rcases starts with ⟨rest, rfl⟩
  rw [List.append_assoc, List.cons_append,
    Text.takeWhile_append_cons named.inside outside,
    Text.dropWhile_append_cons named.inside outside]
  exact ⟨rfl, rest, rfl⟩

theorem readName_of_some (previous : Option Kind)
    {unread localPart rest : Text}
    (found :
      splitLocalPart? (unread.dropWhile isNameChar) =
        some (localPart, rest)) :
    readName previous unread =
      (ofQualified previous (unread.takeWhile isNameChar) localPart rest,
        rest) := by
  rw [readName, found]

theorem readName_of_none (previous : Option Kind) {unread : Text}
    (missing : splitLocalPart? (unread.dropWhile isNameChar) = none) :
    readName previous unread =
      (ofWord previous (unread.takeWhile isNameChar)
          (unread.dropWhile isNameChar),
        unread.dropWhile isNameChar) := by
  rw [readName, missing]

/-- A name with all that belongs to it is the longest lexeme. -/
theorem longest_name (previous : Option Kind)
    {first : Char} {behind : Text}
    (start : isNameStart first = true) :
    LongestPrefix IsLexeme (readName previous (first :: behind)).1.text
      (first :: behind) where
  starts := ⟨_, text_append_readName previous (first :: behind)⟩
  holds := by
    have named : IsName ((first :: behind).takeWhile isNameChar) :=
      isName_takeWhile start
    cases found :
        splitLocalPart? ((first :: behind).dropWhile isNameChar) with
    | none =>
        rw [readName_of_none previous found, text_ofWord]
        exact ⟨_, .word named⟩
    | some taken =>
        rw [readName_of_some previous found, ofQualified, text_ofName]
        exact ⟨_, .qualified named (named_of_splitLocalPart? found)⟩
  longest := by
    intro other starts lexeme
    rcases lexeme.of_prefix starts with ⟨tail, form, rfl, -, shaped⟩
    have word_le : (first :: behind).takeWhile isNameChar <+:
        (readName previous (first :: behind)).1.text := by
      unfold readName
      split
      · rw [ofQualified, text_ofName]
        exact List.prefix_append _ _
      · exact ⟨[], by rw [text_ofWord, List.append_nil]⟩
    rcases shaped.of_nameStart start with
      ⟨named, -⟩ | ⟨qualifier, localPart, whole, named, named_local, -⟩
    · exact
        (Text.length_le_takeWhile starts named.inside).trans
          word_le.length_le
    · rw [whole] at starts ⊢
      rcases qualifier_eq_takeWhile named starts with ⟨rfl, follows⟩
      rcases exists_splitLocalPart? named_local follows with
        ⟨taken, rest, found, shorter⟩
      rw [readName_of_some previous found]
      simpa [ofQualified] using shorter

/-! ## Symbols -/

theorem pairKind?_eq_some_iff {first second : Char} {kind : Kind} :
    pairKind? first second = some kind ↔
      ([first, second], kind) ∈ symbols := by
  constructor
  · intro found
    unfold pairKind? at found
    split at found <;> cases found <;> decide
  · intro listed
    have agree :
        ∀ entry ∈ symbols,
          entry.1.length = 2 →
            (entry.1.head?.bind fun first =>
                entry.1.getLast?.bind (pairKind? first)) =
              some entry.2 := by
      decide
    exact agree _ listed rfl

theorem singleKind_of_mem_symbols {first : Char} {kind : Kind}
    (listed : ([first], kind) ∈ symbols) :
    singleKind first = kind := by
  have agree :
      ∀ entry ∈ symbols,
        entry.1.length = 1 →
          entry.1.head?.map singleKind = some entry.2 := by
    decide
  exact Option.some.inj (agree _ listed rfl)

/-- A character alone is a symbol or of unknown kind. -/
theorem mem_symbols_or_unknown (first : Char) :
    ([first], singleKind first) ∈ symbols ∨
      singleKind first = .unknown := by
  unfold singleKind
  split <;> simp [symbols]

/-- Symbols have one or two characters. -/
theorem rest_of_mem_symbols {first : Char} {rest : Text} {kind : Kind}
    (listed : (first :: rest, kind) ∈ symbols) :
    rest = [] ∨ ∃ second, rest = [second] := by
  have short : ∀ entry ∈ symbols, entry.1.length ≤ 2 := by decide
  have bound := short _ listed
  cases rest with
  | nil => exact Or.inl rfl
  | cons second tail =>
      simp only [List.length_cons] at bound
      have ended : tail = [] := List.length_eq_zero_iff.1 (by omega)
      exact Or.inr ⟨second, by rw [ended]⟩

theorem readSymbol_of_pair (previous : Option Kind)
    {first second : Char} {rest : Text} {kind : Kind}
    (paired : pairKind? first second = some kind) :
    readSymbol previous first (second :: rest) =
      (bare kind [first, second], rest) := by
  rw [readSymbol, paired]

theorem readSymbol_of_unpaired (previous : Option Kind) {first : Char}
    {behind : Text}
    (unpaired :
      ∀ second ∈ behind.head?, pairKind? first second = none) :
    readSymbol previous first behind =
      (ofSingle previous first, behind) := by
  cases behind with
  | nil => rfl
  | cons second rest => rw [readSymbol, unpaired second rfl]

theorem readSymbol_cases
    (previous : Option Kind) (first : Char) (behind : Text) :
    (∃ second rest kind,
        behind = second :: rest ∧
          ([first, second], kind) ∈ symbols ∧
          readSymbol previous first behind =
            (bare kind [first, second], rest)) ∨
      readSymbol previous first behind =
        (ofSingle previous first, behind) := by
  cases behind with
  | nil => exact Or.inr rfl
  | cons second rest =>
      cases paired : pairKind? first second with
      | none =>
          right
          rw [readSymbol, paired]
      | some kind =>
          left
          exact
            ⟨second, rest, kind, rfl, pairKind?_eq_some_iff.1 paired,
              readSymbol_of_pair previous paired⟩

/-- Any other character is a symbol or a stray by itself. -/
theorem symbol_or_stray {first : Char}
    (no_blank : isBlank first = false) (no_quote : ¬ IsQuote first)
    (no_digit : isDigit first = false)
    (no_start : isNameStart first = false) :
    ([first], singleKind first) ∈ symbols ∨
      (singleKind first = .unknown ∧ IsStray first) := by
  rcases mem_symbols_or_unknown first with listed | unknown
  · exact Or.inl listed
  · by_cases listed : ∃ kind, ([first], kind) ∈ symbols
    · rcases listed with ⟨kind, listed⟩
      rw [singleKind_of_mem_symbols listed]
      exact Or.inl listed
    · refine Or.inr ⟨unknown, ?_⟩
      exact
        { not_blank := no_blank
          not_quote := no_quote
          not_digit := no_digit
          not_nameStart := no_start
          not_symbol := not_exists.1 listed }

/-- Where no digit follows a point, no numeral begins with it. -/
theorem IsNumeral.digitFollows {rest behind : Text}
    (numeric : IsNumeral ('.' :: rest)) (starts : rest <+: behind) :
    digitFollows behind = true := by
  generalize whole : '.' :: rest = text at numeric
  cases numeric with
  | whole filled numeric =>
      subst whole
      have digit := numeric '.' List.mem_cons_self
      cases digit
  | @pointed digits fraction filled numeric numeric_fraction =>
      cases digits with
      | nil =>
          rw [List.nil_append, List.cons.injEq] at whole
          rcases whole with ⟨-, rfl⟩
          have filled : rest ≠ [] := by simpa using filled
          rcases List.exists_cons_of_ne_nil filled with ⟨digit, digits, rfl⟩
          rcases starts with ⟨rest, rfl⟩
          exact numeric_fraction digit List.mem_cons_self
      | cons digit digits =>
          rw [List.cons_append, List.cons.injEq] at whole
          have point := numeric digit List.mem_cons_self
          rw [← whole.1] at point
          cases point

/-- The longer symbol is taken where two are possible. -/
theorem longest_symbol (previous : Option Kind)
    {first : Char} {behind : Text}
    (no_blank : isBlank first = false) (no_quote : ¬ IsQuote first)
    (no_number :
      ¬ (isDigit first ∨ (first = '.' ∧ digitFollows behind)))
    (no_start : isNameStart first = false) :
    LongestPrefix IsLexeme (readSymbol previous first behind).1.text
      (first :: behind) := by
  rw [not_or, Bool.not_eq_true] at no_number
  have lexeme : IsLexeme (readSymbol previous first behind).1.text := by
    rcases readSymbol_cases previous first behind with
      ⟨second, rest, kind, -, listed, read⟩ | read
    · rw [read]
      exact ⟨.symbol kind, .symbol listed⟩
    · rw [read]
      rcases symbol_or_stray no_blank no_quote no_number.1 no_start with
        listed | ⟨-, lone⟩
      · exact ⟨_, .symbol listed⟩
      · exact ⟨.stray, .stray lone⟩
  have filled : 0 < (readSymbol previous first behind).1.text.length := by
    rcases lexeme with ⟨form, shaped⟩
    exact List.length_pos_iff.2 shaped.ne_nil
  refine
    ⟨⟨_, text_append_readSymbol previous first behind⟩, lexeme, ?_⟩
  · intro other starts lexeme
    rcases lexeme.of_prefix starts with ⟨tail, form, rfl, inside, shaped⟩
    rcases shaped.of_other no_quote no_number.1 no_start with
      ⟨kind, listed, -⟩ | ⟨numeral, rfl, -⟩ | ⟨rfl, -, -⟩
    · rcases rest_of_mem_symbols listed with rfl | ⟨second, rfl⟩
      · exact filled
      · rcases inside with ⟨rest, rfl⟩
        have paired := pairKind?_eq_some_iff.2 listed
        rw [List.singleton_append, readSymbol_of_pair previous paired]
        exact Nat.le_refl _
    · exact absurd ⟨rfl, numeral.digitFollows inside⟩ no_number.2
    · exact filled

end Lexeme

end XPathScan
