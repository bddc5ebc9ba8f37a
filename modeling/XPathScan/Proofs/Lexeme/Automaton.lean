import XPathScan.Proofs.Lexeme.Munch

/-!
# An automaton for lexical mistakes

Whether a text can be taken apart into lexemes is decided by an automaton that
passes over its characters once and has no lookahead.  The automaton does not
know where lexemes end, but it agrees with the reader where it matters: reading
one lexeme off a text leaves a text of the same verdict, or else the verdict is
the fault of the lexeme (`verdict_read`).  The cases of the proof are those of
the reader.
-/

namespace XPathScan

namespace Lexeme

namespace Automaton

/-- Where in a text the automaton stands. -/
inductive State
  /-- Between lexemes, or behind a symbol that nothing can change. -/
  | between
  | name
  /-- Behind a point that may begin a fraction or double. -/
  | point
  /-- Among the digits in front of a point. -/
  | whole
  /-- Among the digits behind a point. -/
  | fraction
  /-- Inside a string between apostrophes. -/
  | apostrophe
  /-- Inside a string between quotation marks. -/
  | quotation
  /-- Behind the mark of an exponent. -/
  | rejected
  deriving DecidableEq

/-- The state behind a character that begins something new. -/
def fresh (next : Char) : State :=
  if isDigit next then
    .whole
  else if isNameStart next then
    .name
  else if next = '.' then
    .point
  else if next = '\'' then
    .apostrophe
  else if next = '"' then
    .quotation
  else
    .between

/-- One step of the automaton. -/
def step (state : State) (next : Char) : State :=
  match state with
  | .between => fresh next
  | .name => if isNameChar next then .name else fresh next
  | .point =>
      if next = '.' then
        .between
      else if isDigit next then
        .fraction
      else
        fresh next
  | .whole =>
      if isDigit next then
        .whole
      else if next = '.' then
        .fraction
      else if next = 'e' ∨ next = 'E' then
        .rejected
      else
        fresh next
  | .fraction =>
      if isDigit next then
        .fraction
      else if next = 'e' ∨ next = 'E' then
        .rejected
      else
        fresh next
  | .apostrophe => if next = '\'' then .between else .apostrophe
  | .quotation => if next = '"' then .between else .quotation
  | .rejected => .rejected

/-- The state of the automaton behind a text. -/
def after (state : State) (text : Text) : State :=
  text.foldl step state

/-- The state of the automaton behind a text that it passes over from the start. -/
def scan (text : Text) : State :=
  after .between text

/-- What a state says about the text up to it. -/
def State.verdict : State → Option Fault
  | .rejected => some .scientificNotation
  | .apostrophe => some .unclosedString
  | .quotation => some .unclosedString
  | _ => none

/-! ## Passing over texts -/

theorem after_append (state : State) (front back : Text) :
    after state (front ++ back) = after (after state front) back :=
  List.foldl_append

theorem after_eq_self {state : State} {text : Text}
    (stays : ∀ character ∈ text, step state character = state) :
    after state text = state := by
  induction text with
  | nil => rfl
  | cons first rest induction =>
      have here := stays first List.mem_cons_self
      have later :
          ∀ character ∈ rest, step state character = state := by
        intro character member
        exact stays character (List.mem_cons_of_mem first member)
      calc
        after state (first :: rest) = after (step state first) rest := rfl
        _ = after state rest := by rw [here]
        _ = state := induction later

/-- There is no way back from an exponent. -/
theorem after_rejected (text : Text) :
    after .rejected text = .rejected :=
  after_eq_self fun _ _ => rfl

/-- Reaching an exponent anywhere is the same as ending there. -/
theorem exists_prefix_rejected_iff {text : Text} :
    (∃ front, front <+: text ∧ scan front = .rejected) ↔
      scan text = .rejected := by
  constructor
  · rintro ⟨front, ⟨back, rfl⟩, reached⟩
    rw [scan, after_append]
    change after (scan front) back = _
    rw [reached]
    exact after_rejected back
  · intro reached
    exact ⟨text, List.prefix_rfl, reached⟩

/-- A state that leaves nothing open in front of a text. -/
structure Leaves (state : State) (behind : Text) : Prop where
  clean : state.verdict = none
  anew : ∀ next ∈ behind.head?, step state next = fresh next

/-- Where nothing is left open, the text behind decides. -/
theorem Leaves.verdict_eq {state : State} {behind : Text}
    (leaves : Leaves state behind) :
    (after state behind).verdict = (scan behind).verdict := by
  cases behind with
  | nil => exact leaves.clean
  | cons next rest =>
      have step_eq : step state next = step .between next :=
        leaves.anew next rfl
      calc
        (after state (next :: rest)).verdict =
            (after (step state next) rest).verdict := rfl
        _ = (after (step .between next) rest).verdict := by rw [step_eq]
        _ = (scan (next :: rest)).verdict := rfl

/-- Passing over a text that leaves nothing open does not change the verdict. -/
theorem verdict_append {front behind : Text}
    (leaves : Leaves (scan front) behind) :
    (scan (front ++ behind)).verdict = (scan behind).verdict := by
  rw [scan, after_append]
  exact leaves.verdict_eq

theorem leaves_between (behind : Text) : Leaves .between behind :=
  ⟨rfl, fun _ _ => rfl⟩

theorem fresh_of_isBlank {next : Char} (blank : isBlank next = true) :
    fresh next = .between := by
  have listed : next = ' ' ∨ next = '\t' ∨ next = '\r' ∨ next = '\n' := by
    simpa [isBlank, or_assoc] using blank
  rcases listed with rfl | rfl | rfl | rfl <;> rfl

/-- Blanks in front of a text do not matter. -/
theorem scan_dropWhile_isBlank (text : Text) :
    scan (text.dropWhile isBlank) = scan text := by
  have passed : scan (text.takeWhile isBlank) = .between := by
    apply after_eq_self
    intro character member
    exact fresh_of_isBlank (List.mem_takeWhile_imp member)
  calc
    scan (text.dropWhile isBlank) =
        after (scan (text.takeWhile isBlank)) (text.dropWhile isBlank) := by
      rw [passed]
      rfl
    _ = scan (text.takeWhile isBlank ++ text.dropWhile isBlank) :=
      (after_append _ _ _).symm
    _ = scan text := by rw [List.takeWhile_append_dropWhile]

/-! ## Strings -/

/-- The state inside a string. -/
def inside (quote : Char) : State :=
  if quote = '\'' then .apostrophe else .quotation

theorem scan_quote {quote : Char} (quoting : IsQuote quote) :
    fresh quote = inside quote := by
  rcases quoting with rfl | rfl <;> rfl

theorem step_inside {quote : Char} (quoting : IsQuote quote)
    (next : Char) :
    step (inside quote) next =
      if next = quote then .between else inside quote := by
  rcases quoting with rfl | rfl <;> rfl

theorem after_inside {quote : Char} {body : Text}
    (quoting : IsQuote quote) (closed : quote ∉ body) :
    after (inside quote) body = inside quote := by
  apply after_eq_self
  intro character member
  rw [step_inside quoting, if_neg]
  rintro rfl
  exact closed member

theorem verdict_readString {quote : Char} {unread : Text}
    (quoting : IsQuote quote) :
    (scan (quote :: unread)).verdict =
      (readString quote unread).1.fault.or
        (scan (readString quote unread).2).verdict := by
  have opened :
      scan (quote :: unread) = after (inside quote) unread :=
    congrArg (after · unread) (scan_quote quoting)
  rw [opened]
  by_cases closed : quote ∈ unread
  · rcases List.eq_append_cons_of_mem closed with ⟨body, rest, rfl, free⟩
    have ended : step (inside quote) quote = .between := by
      rw [step_inside quoting, if_pos rfl]
    rw [readString_append free, after_append, after_inside quoting free]
    change (after (step (inside quote) quote) rest).verdict = _
    rw [ended]
    rfl
  · rw [readString_of_not_mem closed, after_inside quoting closed]
    rcases quoting with rfl | rfl <;> rfl

/-! ## Numbers -/

/-- A state behind the last digit or point of a number. -/
structure Counts (state : State) (behind : Text) : Prop where
  clean : state.verdict = none
  step_eq :
    ∀ next ∈ behind.head?,
      step state next =
        if next = 'e' ∨ next = 'E' then .rejected else fresh next

theorem Counts.verdict_eq {state : State} {behind : Text}
    (counts : Counts state behind) :
    (after state behind).verdict =
      if (splitExponent? behind).isSome then
        some .scientificNotation
      else
        (scan behind).verdict := by
  cases behind with
  | nil => exact counts.clean
  | cons mark rest =>
      have step_eq := counts.step_eq mark rfl
      rw [splitExponent?]
      by_cases marked : mark = 'e' ∨ mark = 'E'
      · rw [if_pos marked] at step_eq ⊢
        change (after (step state mark) rest).verdict = _
        rw [step_eq, after_rejected]
        rfl
      · rw [if_neg marked] at step_eq ⊢
        apply Leaves.verdict_eq
        refine ⟨counts.clean, ?_⟩
        rintro next ⟨⟩
        exact step_eq

theorem after_digits {state : State} {digits : Text}
    (stays : ∀ digit, isDigit digit = true → step state digit = state)
    (numeric : ∀ digit ∈ digits, isDigit digit = true) :
    after state digits = state :=
  after_eq_self fun digit member => stays digit (numeric digit member)

theorem step_whole {digit : Char} (numeric : isDigit digit = true) :
    step .whole digit = .whole :=
  if_pos numeric

theorem step_fraction {digit : Char} (numeric : isDigit digit = true) :
    step .fraction digit = .fraction :=
  if_pos numeric

/-- Digits in front of a text, if there are any, make up a whole number. -/
theorem scan_digits {first : Char} {rest : Text}
    (numeric : ∀ digit ∈ first :: rest, isDigit digit = true) :
    scan (first :: rest) = .whole := by
  have start : fresh first = .whole :=
    if_pos (numeric first List.mem_cons_self)
  calc
    scan (first :: rest) = after (fresh first) rest := rfl
    _ = after .whole rest := by rw [start]
    _ = .whole := by
      apply after_digits fun _ => step_whole
      intro digit member
      exact numeric digit (List.mem_cons_of_mem first member)

theorem counts_whole {behind : Text}
    (ended : ∀ next ∈ behind.head?, isDigit next = false)
    (no_point : ∀ next ∈ behind.head?, next ≠ '.') :
    Counts .whole behind where
  clean := rfl
  step_eq := by
    intro next member
    rw [step, if_neg (Bool.not_eq_true _ ▸ ended next member),
      if_neg (no_point next member)]

theorem counts_fraction {behind : Text}
    (ended : ∀ next ∈ behind.head?, isDigit next = false) :
    Counts .fraction behind where
  clean := rfl
  step_eq := by
    intro next member
    rw [step, if_neg (Bool.not_eq_true _ ▸ ended next member)]

theorem after_fraction (behind : Text) :
    after .fraction (behind.takeWhile isDigit) = .fraction := by
  apply after_digits fun _ => step_fraction
  intro digit member
  exact List.mem_takeWhile_imp member

/-- A point with a digit behind it begins a fraction. -/
theorem after_point {behind : Text} (follows : digitFollows behind = true) :
    after .point (behind.takeWhile isDigit) = .fraction := by
  cases behind with
  | nil => cases follows
  | cons digit rest =>
      have numeric : isDigit digit = true := follows
      have no_point : digit ≠ '.' := by
        rintro rfl
        cases numeric
      have step_eq : step .point digit = .fraction := by
        rw [step, if_neg no_point, if_pos numeric]
      rw [List.takeWhile_cons_of_pos numeric]
      change after (step .point digit) (rest.takeWhile isDigit) = _
      rw [step_eq]
      exact after_fraction rest

/-- Behind a numeral only the mark of an exponent matters. -/
theorem counts_splitNumeral {first : Char} {behind : Text}
    (numeric : isDigit first ∨ (first = '.' ∧ digitFollows behind)) :
    Counts (scan (splitNumeral (first :: behind)).1)
      (splitNumeral (first :: behind)).2 := by
  have ended := Text.head?_dropWhile_eq_false isDigit
  by_cases digit : isDigit first = true
  · have scanned :
        scan ((first :: behind).takeWhile isDigit) = .whole := by
      rw [List.takeWhile_cons_of_pos digit]
      apply scan_digits
      intro character member
      rw [← List.takeWhile_cons_of_pos digit] at member
      exact List.mem_takeWhile_imp member
    unfold splitNumeral
    split
    next rest found =>
      have pointed :
          scan ((first :: behind).takeWhile isDigit ++
              '.' :: rest.takeWhile isDigit) =
            .fraction := by
        rw [scan, after_append]
        change after (step (scan _) '.') (rest.takeWhile isDigit) = _
        rw [scanned]
        exact after_fraction rest
      rw [pointed]
      exact counts_fraction (ended rest)
    next no_point =>
      rw [scanned]
      apply counts_whole (ended _)
      rintro next member rfl
      rcases List.head?_eq_some_iff.1 member with ⟨rest, found⟩
      exact no_point rest found
  · rcases numeric.resolve_left digit with ⟨rfl, follows⟩
    have alone := @splitNumeral_pointed [] behind (by simp)
    rw [List.nil_append] at alone
    rw [alone]
    have pointed :
        scan ([] ++ '.' :: behind.takeWhile isDigit) = .fraction :=
      after_point follows
    rw [pointed]
    exact counts_fraction (ended behind)

theorem verdict_readNumber {first : Char} {behind : Text}
    (numeric : isDigit first ∨ (first = '.' ∧ digitFollows behind)) :
    (scan (first :: behind)).verdict =
      (readNumber (first :: behind)).1.fault.or
        (scan (readNumber (first :: behind)).2).verdict := by
  have counts := (counts_splitNumeral numeric).verdict_eq
  rw [scan, ← after_append, splitNumeral_append] at counts
  rw [scan, counts, readNumber]
  cases splitExponent? (splitNumeral (first :: behind)).2 <;> rfl

/-! ## Names -/

theorem scan_name {name : Text} (named : IsName name) :
    scan name = .name := by
  cases named with
  | @mk first rest start inside =>
      have no_digit : isDigit first = false := by
        rw [← Bool.not_eq_true]
        intro digit
        rw [not_isNameStart_of_isDigit digit] at start
        cases start
      have fresh_eq : fresh first = .name := by
        rw [fresh, no_digit]
        exact if_pos start
      calc
        scan (first :: rest) = after (fresh first) rest := rfl
        _ = after .name rest := by rw [fresh_eq]
        _ = .name := by
          apply after_eq_self
          intro character member
          exact if_pos (inside character member)

theorem leaves_name {behind : Text}
    (ended : ∀ next ∈ behind.head?, isNameChar next = false) :
    Leaves .name behind where
  clean := rfl
  anew := by
    intro next member
    rw [step, if_neg (Bool.not_eq_true _ ▸ ended next member)]

/-- Behind a local part nothing is left open. -/
theorem leaves_localPart {behind localPart rest : Text}
    (found : splitLocalPart? behind = some (localPart, rest)) :
    Leaves (scan localPart) rest := by
  unfold splitLocalPart? at found
  split at found
  · cases found
    exact leaves_between rest
  next first more _ =>
    split at found
    next start =>
      cases found
      have named : IsName (first :: more.takeWhile isNameChar) :=
        .mk start fun character member => List.mem_takeWhile_imp member
      rw [scan_name named]
      exact leaves_name (Text.head?_dropWhile_eq_false isNameChar more)
    next => cases found
  · cases found

theorem verdict_readName (previous : Option Kind) {first : Char}
    {behind : Text} (start : isNameStart first = true) :
    (scan (first :: behind)).verdict =
      (readName previous (first :: behind)).1.fault.or
        (scan (readName previous (first :: behind)).2).verdict := by
  have whole :
      (first :: behind).takeWhile isNameChar ++
          (first :: behind).dropWhile isNameChar =
        first :: behind :=
    List.takeWhile_append_dropWhile
  have named := scan_name (@isName_takeWhile first behind start)
  have ended :=
    Text.head?_dropWhile_eq_false isNameChar (first :: behind)
  rw [fault_readName, Option.none_or]
  cases found : splitLocalPart? ((first :: behind).dropWhile isNameChar) with
  | none =>
      have leaves := leaves_name ended
      rw [← named] at leaves
      have passed := verdict_append leaves
      rw [whole] at passed
      rw [readName_of_none previous found]
      exact passed
  | some taken =>
      rcases taken with ⟨localPart, rest⟩
      have colon : step .name ':' = .between := rfl
      rw [← splitLocalPart?_append found] at whole
      rw [readName_of_some previous found]
      calc
        (scan (first :: behind)).verdict =
            (after (scan ((first :: behind).takeWhile isNameChar))
              (':' :: localPart ++ rest)).verdict := by
          rw [scan, scan, ← after_append, whole]
        _ = (after (step .name ':') (localPart ++ rest)).verdict := by
          rw [named]
          rfl
        _ = (scan rest).verdict := by
          rw [colon]
          exact verdict_append (leaves_localPart found)

/-! ## Symbols -/

/-- What begins neither a string nor a number nor a name leaves a point at most. -/
theorem fresh_of_other {first : Char}
    (no_quote : ¬ IsQuote first) (no_digit : isDigit first = false)
    (no_start : isNameStart first = false) :
    fresh first = if first = '.' then .point else .between := by
  rw [IsQuote, not_or] at no_quote
  rw [fresh, no_digit, no_start, if_neg no_quote.1, if_neg no_quote.2]
  rfl

theorem scan_pair {first second : Char} {kind : Kind}
    (paired : pairKind? first second = some kind) :
    scan [first, second] = .between := by
  have agree :
      ∀ entry ∈ symbols, entry.1.length = 2 → scan entry.1 = .between := by
    decide
  exact agree _ (pairKind?_eq_some_iff.1 paired) rfl

theorem leaves_single {first : Char} {behind : Text}
    (no_quote : ¬ IsQuote first) (no_digit : isDigit first = false)
    (no_start : isNameStart first = false)
    (no_fraction : first = '.' → digitFollows behind = false)
    (unpaired :
      ∀ second ∈ behind.head?, pairKind? first second = none) :
    Leaves (fresh first) behind := by
  rw [fresh_of_other no_quote no_digit no_start]
  by_cases pointed : first = '.'
  · subst pointed
    refine ⟨rfl, ?_⟩
    intro next member
    have no_digit : isDigit next = false := by
      rcases List.head?_eq_some_iff.1 member with ⟨rest, rfl⟩
      exact no_fraction rfl
    have no_point : next ≠ '.' := by
      rintro rfl
      cases unpaired '.' member
    change step .point next = _
    rw [step, if_neg no_point, no_digit]
    rfl
  · rw [if_neg pointed]
    exact leaves_between behind

theorem verdict_readSymbol (previous : Option Kind) {first : Char}
    {behind : Text}
    (no_quote : ¬ IsQuote first) (no_digit : isDigit first = false)
    (no_start : isNameStart first = false)
    (no_fraction : first = '.' → digitFollows behind = false) :
    (scan (first :: behind)).verdict =
      (readSymbol previous first behind).1.fault.or
        (scan (readSymbol previous first behind).2).verdict := by
  have single := leaves_single no_quote no_digit no_start no_fraction
  rw [fault_readSymbol, Option.none_or]
  cases behind with
  | nil => exact (single (by simp)).verdict_eq
  | cons second rest =>
      cases paired : pairKind? first second with
      | some kind =>
          have leaves := leaves_between rest
          rw [← scan_pair paired] at leaves
          rw [readSymbol_of_pair previous paired]
          exact verdict_append leaves
      | none =>
          have unpaired :
              ∀ next ∈ (second :: rest).head?,
                pairKind? first next = none := by
            rintro next ⟨⟩
            exact paired
          rw [readSymbol, paired]
          exact (single unpaired).verdict_eq

/-! ## All lexemes -/

/--
Reading a lexeme leaves a text with the verdict of the whole one, unless the
lexeme is malformed: then its fault is the verdict.
-/
theorem verdict_read (previous : Option Kind) (unread : Text) :
    (scan unread).verdict =
      (read previous unread).1.fault.or
        (scan (read previous unread).2).verdict := by
  cases unread with
  | nil => rfl
  | cons first behind =>
      rw [read]
      by_cases quoting : first = '"' ∨ first = '\''
      · rw [if_pos quoting]
        exact verdict_readString quoting
      · rw [if_neg quoting]
        by_cases numeric :
            isDigit first ∨ (first = '.' ∧ digitFollows behind)
        · rw [if_pos numeric]
          exact verdict_readNumber numeric
        · rw [if_neg numeric]
          rw [not_or, Bool.not_eq_true] at numeric
          by_cases start : isNameStart first
          · rw [if_pos start]
            exact verdict_readName previous start
          · rw [if_neg start]
            rw [Bool.not_eq_true] at start
            apply
              verdict_readSymbol previous quoting numeric.1 start
            intro pointed
            rw [← Bool.not_eq_true]
            exact fun follows => numeric.2 ⟨pointed, follows⟩

end Automaton

end Lexeme

end XPathScan
