import XPathScan.Scanner.Stream

/-!
# What streams yield

A ready stream yields the token of its scanner and then what follows from the
scanner one step further.  The equations below unfold a stream once, by what
that step finds, and `tokens_eq_ok_iff` says that the tokens of a stream are
its items if none of them is a diagnostic.
-/

namespace XPathScan

namespace Stream

/-- A stream is started where a scanner is. -/
theorem start?_of_scanner {source : Text} {offset : Nat}
    {scanner : Scanner}
    (started : Scanner.start? source offset = .ok scanner) :
    start? source offset = .ok ⟨scanner, .ready⟩ := by
  rw [start?, started]
  rfl

theorem start?_of_failure {source : Text} {offset : Nat}
    {failure : ScanError}
    (failed : Scanner.start? source offset = .error failure) :
    start? source offset = .error failure := by
  rw [start?, failed]
  rfl

theorem exists_scanner_of_start? {source : Text} {offset : Nat}
    {stream : Stream}
    (started : start? source offset = .ok stream) :
    ∃ scanner,
      Scanner.start? source offset = .ok scanner ∧
        stream = ⟨scanner, .ready⟩ := by
  rw [start?] at started
  cases found : Scanner.start? source offset with
  | error failure =>
      rw [found] at started
      cases started
  | ok scanner =>
      rw [found] at started
      exact ⟨scanner, rfl, (Except.ok.inj started).symm⟩

/-! ## Single items -/

theorem next_ready_of_eof {scanner : Scanner}
    (ended : scanner.kind = .eof) :
    next ⟨scanner, .ready⟩ =
      (some (.ok scanner.token), ⟨scanner, .ended⟩) := by
  rw [next]
  exact if_pos ended

/-- The diagnostic of the lexeme ahead is held back. -/
theorem next_ready_of_malformed {scanner : Scanner}
    {diagnostic : Diagnostic} (inside : scanner.kind ≠ .eof)
    (malformed : scanner.next.diagnostic? = some diagnostic) :
    next ⟨scanner, .ready⟩ =
      (some (.ok scanner.token), ⟨scanner.next, .failing diagnostic⟩) := by
  simp only [next, if_neg inside, malformed]

theorem next_ready_of_sound {scanner : Scanner}
    (inside : scanner.kind ≠ .eof)
    (sound : scanner.next.diagnostic? = none) :
    next ⟨scanner, .ready⟩ =
      (some (.ok scanner.token), ⟨scanner.next, .ready⟩) := by
  simp only [next, if_neg inside, sound]

/-! ## All items -/

/-- All items that are left in a stream. -/
def items (stream : Stream) : List Item :=
  stream.collect.1

/-- The tokens that a stream yields, also if a diagnostic ends it. -/
def yielded (stream : Stream) : List Token :=
  stream.items.filterMap Except.toOption

theorem items_of_none {stream later : Stream}
    (stopped : stream.next = (none, later)) :
    stream.items = [] := by
  rw [items, collect]
  split
  next => rfl
  next item later' yielded =>
    rw [stopped] at yielded
    cases yielded

theorem items_of_some {stream later : Stream} {item : Item}
    (found : stream.next = (some item, later)) :
    stream.items = item :: later.items := by
  rw [items, collect]
  split
  next later' yielded =>
    rw [found] at yielded
    cases yielded
  next item' later' yielded =>
    rw [found] at yielded
    cases yielded
    rfl

theorem items_ended (scanner : Scanner) :
    items ⟨scanner, .ended⟩ = [] :=
  items_of_none rfl

theorem items_failing (scanner : Scanner) (diagnostic : Diagnostic) :
    items ⟨scanner, .failing diagnostic⟩ = [.error diagnostic] := by
  have found :
      next ⟨scanner, .failing diagnostic⟩ =
        (some (.error diagnostic), ⟨scanner, .ended⟩) := rfl
  rw [items_of_some found, items_ended]

theorem items_of_eof {scanner : Scanner} (ended : scanner.kind = .eof) :
    items ⟨scanner, .ready⟩ = [.ok scanner.token] := by
  rw [items_of_some (next_ready_of_eof ended), items_ended]

theorem items_of_malformed {scanner : Scanner} {diagnostic : Diagnostic}
    (inside : scanner.kind ≠ .eof)
    (malformed : scanner.next.diagnostic? = some diagnostic) :
    items ⟨scanner, .ready⟩ = [.ok scanner.token, .error diagnostic] := by
  rw [items_of_some (next_ready_of_malformed inside malformed),
    items_failing]

theorem items_of_sound {scanner : Scanner}
    (inside : scanner.kind ≠ .eof)
    (sound : scanner.next.diagnostic? = none) :
    items ⟨scanner, .ready⟩ =
      .ok scanner.token :: items ⟨scanner.next, .ready⟩ :=
  items_of_some (next_ready_of_sound inside sound)

/-- A ready stream yields the token of its scanner first. -/
theorem exists_items_ready (scanner : Scanner) :
    ∃ later, items ⟨scanner, .ready⟩ = .ok scanner.token :: later := by
  by_cases ended : scanner.kind = .eof
  · exact ⟨_, items_of_eof ended⟩
  · cases malformed : scanner.next.diagnostic? with
    | none => exact ⟨_, items_of_sound ended malformed⟩
    | some diagnostic =>
        exact ⟨_, items_of_malformed ended malformed⟩

/-- A ready stream that yields two tokens steps from the one to the other. -/
theorem sound_of_items {scanner : Scanner} {token following : Token}
    {later : List Item}
    (yields :
      items ⟨scanner, .ready⟩ = .ok token :: .ok following :: later) :
    scanner.kind ≠ .eof ∧ scanner.next.diagnostic? = none ∧
      token = scanner.token ∧
        items ⟨scanner.next, .ready⟩ = .ok following :: later := by
  by_cases ended : scanner.kind = .eof
  · rw [items_of_eof ended] at yields
    simp at yields
  · cases malformed : scanner.next.diagnostic? with
    | none =>
        rw [items_of_sound ended malformed] at yields
        simp only [List.cons.injEq, Except.ok.injEq] at yields
        exact ⟨ended, rfl, yields.1.symm, yields.2⟩
    | some diagnostic =>
        rw [items_of_malformed ended malformed] at yields
        simp at yields

theorem yielded_of_eof {scanner : Scanner} (ended : scanner.kind = .eof) :
    yielded ⟨scanner, .ready⟩ = [scanner.token] := by
  rw [yielded, items_of_eof ended]
  rfl

theorem yielded_of_malformed
    {scanner : Scanner} {diagnostic : Diagnostic}
    (inside : scanner.kind ≠ .eof)
    (malformed : scanner.next.diagnostic? = some diagnostic) :
    yielded ⟨scanner, .ready⟩ = [scanner.token] := by
  rw [yielded, items_of_malformed inside malformed]
  rfl

theorem yielded_of_sound {scanner : Scanner}
    (inside : scanner.kind ≠ .eof)
    (sound : scanner.next.diagnostic? = none) :
    yielded ⟨scanner, .ready⟩ =
      scanner.token :: yielded ⟨scanner.next, .ready⟩ := by
  rw [yielded, items_of_sound inside sound]
  rfl

theorem mapM_id_eq_ok_iff {items : List Item} {tokens : List Token} :
    items.mapM id = .ok tokens ↔ items = tokens.map .ok := by
  induction items generalizing tokens with
  | nil => cases tokens <;> simp [pure, Except.pure]
  | cons item items induction =>
      rw [List.mapM_cons]
      cases item with
      | error diagnostic => cases tokens <;> simp [bind, Except.bind]
      | ok token =>
          cases rest : items.mapM id with
          | error diagnostic =>
              cases tokens with
              | nil => simp [bind, Except.bind]
              | cons first tokens =>
                  simp [bind, Except.bind, ← induction, rest]
          | ok later =>
              cases tokens with
              | nil => simp [bind, Except.bind, pure, Except.pure]
              | cons first tokens =>
                  simp [bind, Except.bind, pure, Except.pure,
                    ← induction, rest]

/-- The tokens of a stream are its items if none is a diagnostic. -/
theorem tokens_eq_ok_iff {stream : Stream} {tokens : List Token} :
    stream.tokens = .ok tokens ↔ stream.items = tokens.map .ok :=
  mapM_id_eq_ok_iff

/-- A stream that no diagnostic ends yields just its tokens. -/
theorem yielded_of_tokens {stream : Stream} {tokens : List Token}
    (sound : stream.tokens = .ok tokens) :
    stream.yielded = tokens := by
  rw [yielded, tokens_eq_ok_iff.1 sound, List.filterMap_map]
  exact List.filterMap_some

end Stream

/-- An expression is tokenized if its stream yields tokens only. -/
theorem tokenize_eq_ok_iff {source : Text} {tokens : List Token} :
    tokenize source = .ok tokens ↔
      ∃ stream,
        Stream.start? source 0 = .ok stream ∧
          stream.items = tokens.map .ok := by
  constructor
  · intro tokenized
    cases started : Stream.start? source 0 with
    | error failure =>
        rw [tokenize, started] at tokenized
        cases tokenized
    | ok stream =>
        rw [tokenize, started] at tokenized
        refine ⟨stream, rfl, Stream.tokens_eq_ok_iff.1 ?_⟩
        change stream.tokens.mapError ScanError.malformed = .ok tokens at tokenized
        cases found : stream.tokens with
        | error diagnostic =>
            rw [found] at tokenized
            cases tokenized
        | ok tokens' =>
            rw [found] at tokenized
            cases tokenized
            rfl
  · rintro ⟨stream, started, yields⟩
    rw [tokenize, started]
    change stream.tokens.mapError ScanError.malformed = .ok tokens
    rw [Stream.tokens_eq_ok_iff.2 yields]
    rfl

end XPathScan
