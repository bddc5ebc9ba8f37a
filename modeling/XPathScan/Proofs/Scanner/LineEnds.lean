import XPathScan.Proofs.Lexeme.LineEnds
import XPathScan.Proofs.Scanner.Items
import XPathScan.Proofs.Scanner.Recovery

/-!
# Line ends behind a source

A source is scanned side by side with a longer one, which has line ends behind
it.  `stretched` is the scanner in the longer source that belongs to a scanner
in the shorter one: a step leads from the one pair to the next
(`next_stretched`).  So the two streams yield the same tokens, and only the last
items tell the two sources apart, since the end and an open string reach to the
end of the source (`Counterpart`).
-/

namespace XPathScan

/-- The end of an expression of a given size as a token. -/
def Token.atEnd (size : Nat) : Token :=
  ⟨.eof, ⟨size, size⟩, Kind.eofForm, .nothing⟩

/-- The last items of two streams that go the same way through two sources. -/
inductive Stream.Counterpart (source longer : Text) :
    Stream.Item → Stream.Item → Prop
  | ended :
      Counterpart source longer
        (.ok (.atEnd source.size)) (.ok (.atEnd longer.size))
  /-- The span does not reach to the end of the sources. -/
  | scientific (span : Span) :
      Counterpart source longer
        (.error ⟨.scientificNotation, source, span⟩)
        (.error ⟨.scientificNotation, longer, span⟩)
  | unclosed (start : Nat) :
      Counterpart source longer
        (.error ⟨.unclosedString, source, ⟨start, source.size⟩⟩)
        (.error ⟨.unclosedString, longer, ⟨start, longer.size⟩⟩)

namespace Scanner

open Text (IsLineEnds)
open XPathScan.Stream (Counterpart items)

/-- The scanner on the same lexeme of a source with more text behind it. -/
def stretched (tail : Text) (scanner : Scanner) : Scanner :=
  if scanner.kind = .eof then
    { scanner with
      source := scanner.source ++ tail
      start := scanner.start + Text.size tail }
  else
    { scanner with
      source := scanner.source ++ tail
      current := (Lexeme.stretch tail (scanner.current, scanner.unread)).1
      unread := (Lexeme.stretch tail (scanner.current, scanner.unread)).2 }

section

variable {tail : Text} {scanner : Scanner}

theorem stretched_of_eof (ended : scanner.kind = .eof) :
    stretched tail scanner =
      { scanner with
        source := scanner.source ++ tail
        start := scanner.start + Text.size tail } :=
  if_pos ended

theorem stretched_of_closed (inside : scanner.kind ≠ .eof)
    (closed : scanner.current.fault ≠ some .unclosedString) :
    stretched tail scanner =
      { scanner with
        source := scanner.source ++ tail
        unread := scanner.unread ++ tail } := by
  rw [stretched, if_neg inside, Lexeme.stretch, if_neg closed]

theorem stretched_of_sound (inside : scanner.kind ≠ .eof)
    (sound : scanner.current.fault = none) :
    stretched tail scanner =
      { scanner with
        source := scanner.source ++ tail
        unread := scanner.unread ++ tail } := by
  apply stretched_of_closed inside
  rw [sound]
  exact nofun

theorem stretched_of_unclosed (inside : scanner.kind ≠ .eof)
    (unclosed : scanner.current.fault = some .unclosedString) :
    stretched tail scanner =
      { scanner with
        source := scanner.source ++ tail
        current :=
          Lexeme.faulty .unclosedString (scanner.current.text ++ tail)
        unread := [] } := by
  rw [stretched, if_neg inside, Lexeme.stretch, if_pos unclosed]

/-- Line ends behind the text move the end and are otherwise not seen. -/
theorem seek_append_lineEnds (ends : IsLineEnds tail)
    (source unread : Text) (offset : Nat) (previous : Option Kind) :
    seek (source ++ tail) offset previous (unread ++ tail) =
      stretched tail (seek source offset previous unread) := by
  by_cases blank : unread.dropWhile isBlank = []
  · have skipped : unread.takeWhile isBlank = unread :=
      List.takeWhile_eq_self_iff.2 (List.dropWhile_eq_nil_iff.1 blank)
    have ended : (seek source offset previous unread).kind = .eof := by
      rw [kind, seek, blank]
      rfl
    rw [stretched_of_eof ended]
    simp [seek, List.takeWhile_append, List.dropWhile_append, blank,
      skipped, ends.takeWhile_isBlank, ends.dropWhile_isBlank, Lexeme.read,
      Nat.add_assoc]
  · have inside : (seek source offset previous unread).kind ≠ .eof :=
      mt (Lexeme.kind_read_eq_eof_iff previous _).1 blank
    have whole : unread.takeWhile isBlank ++ unread.dropWhile isBlank =
        unread :=
      List.takeWhile_append_dropWhile
    have shorter : (unread.takeWhile isBlank).length ≠ unread.length := by
      have total := congrArg List.length whole
      have positive := List.length_pos_iff.2 blank
      rw [List.length_append] at total
      omega
    rw [stretched, if_neg inside]
    simp [seek, List.takeWhile_append, List.dropWhile_append, shorter,
      blank, Lexeme.read_append_lineEnds ends previous blank]

theorem next_stretched (ends : IsLineEnds tail)
    (inside : scanner.kind ≠ .eof) (sound : scanner.current.fault = none) :
    (stretched tail scanner).next = stretched tail scanner.next := by
  have inside' : (stretched tail scanner).kind ≠ .eof := by
    rw [stretched_of_sound inside sound]
    exact inside
  rw [next_of_ne_eof inside, next_of_ne_eof inside',
    ← seek_append_lineEnds ends, stretched_of_sound inside sound]
  rfl

theorem fault_stretched (sound : scanner.current.fault = none) :
    (stretched tail scanner).current.fault = none := by
  rw [stretched, Lexeme.stretch]
  split
  · exact sound
  · rw [sound]
    exact sound

theorem token_stretched (inside : scanner.kind ≠ .eof)
    (sound : scanner.current.fault = none) :
    (stretched tail scanner).token = scanner.token := by
  rw [stretched_of_sound inside sound]
  rfl

end

/-! ## Last items -/

section

variable {source tail front gap front' gap' : Text} {offset : Nat}
  {scanner : Scanner}

/-- An open string reaches to the end of the source. -/
theorem Placed.span_of_unclosedString
    (placed : Placed source offset scanner front gap)
    (unclosed : scanner.current.fault = some .unclosedString) :
    scanner.span = ⟨scanner.start, Text.size source⟩ := by
  have whole := placed.whole_at_stop
  rw [placed.unread_of_unclosedString unclosed, List.append_nil] at whole
  rw [span, placed.stop_eq, ← whole]

/-- The end lies behind all text. -/
theorem token_of_eof (placed : Placed source offset scanner front gap)
    (ended : scanner.kind = .eof) :
    scanner.token = .atEnd (Text.size source) := by
  have current := placed.current_of_eof ended
  have stop : scanner.stop = Text.size source := by
    have nothing := placed.kind_eq_eof_iff.1 ended
    have whole := placed.whole_at_stop
    rw [(List.append_eq_nil_iff.1 nothing).2, List.append_nil] at whole
    rw [placed.stop_eq, ← whole]
  have start : scanner.start = scanner.stop := by
    rw [Scanner.stop, Scanner.size, current]
    rfl
  rw [token, span, spelling, if_pos ended, ended, current, start, stop]
  rfl

/-- The two scanners on a malformed lexeme have the same complaint. -/
theorem exists_counterpart {fault : Fault}
    (placed : Placed source offset scanner front gap)
    (placed' :
      Placed (source ++ tail) offset (stretched tail scanner) front' gap')
    (malformed : scanner.current.fault = some fault) :
    ∃ diagnostic diagnostic',
      scanner.diagnostic? = some diagnostic ∧
        (stretched tail scanner).diagnostic? = some diagnostic' ∧
          Counterpart source (source ++ tail)
            (.error diagnostic) (.error diagnostic') := by
  have inside : scanner.kind ≠ .eof := by
    intro ended
    rw [placed.current_of_eof ended] at malformed
    cases malformed
  have found := placed.diagnostic?_eq
  have found' := placed'.diagnostic?_eq
  rw [malformed] at found
  cases fault with
  | scientificNotation =>
      have closed : scanner.current.fault ≠ some .unclosedString := by
        rw [malformed]
        exact nofun
      have stretches := @stretched_of_closed tail scanner inside closed
      have span : (stretched tail scanner).span = scanner.span := by
        rw [stretches]
        rfl
      have malformed' : (stretched tail scanner).current.fault =
          some .scientificNotation := by
        rw [stretches]
        exact malformed
      rw [malformed', span] at found'
      exact ⟨_, _, found, found', .scientific scanner.span⟩
  | unclosedString =>
      have stretches := @stretched_of_unclosed tail scanner inside malformed
      have start : (stretched tail scanner).start = scanner.start := by
        rw [stretches]
      have malformed' : (stretched tail scanner).current.fault =
          some .unclosedString := by
        rw [stretches]
        rfl
      rw [malformed', placed'.span_of_unclosedString malformed',
        start] at found'
      rw [placed.span_of_unclosedString malformed] at found
      exact ⟨_, _, found, found', .unclosed scanner.start⟩

/-! ## Runs -/

/--
From a sound lexeme on, two streams yield the same tokens and then items that
belong together.
-/
theorem exists_items_stretched (ends : IsLineEnds tail)
    (sound : scanner.current.fault = none)
    (placed : Placed source offset scanner front gap)
    (placed' :
      Placed (source ++ tail) offset
        (stretched tail scanner) front' gap') :
    ∃ (tokens : List Token) (last last' : Stream.Item),
      Counterpart source (source ++ tail) last last' ∧
        items ⟨scanner, .ready⟩ = tokens.map .ok ++ [last] ∧
          items ⟨stretched tail scanner, .ready⟩ =
            tokens.map .ok ++ [last'] := by
  induction scanner using states.induct generalizing
      front gap front' gap' with
  | case1 scanner ended =>
      have ended' : (stretched tail scanner).kind = .eof := by
        rw [stretched_of_eof ended]
        exact ended
      refine ⟨[], _, _, .ended, ?_, ?_⟩
      · rw [Stream.items_of_eof ended, token_of_eof placed ended]
        rfl
      · rw [Stream.items_of_eof ended', token_of_eof placed' ended']
        rfl
  | case2 scanner inside induction =>
      have token := @token_stretched tail scanner inside sound
      have inside' : (stretched tail scanner).kind ≠ .eof := by
        rw [stretched_of_sound inside sound]
        exact inside
      have steps := next_stretched ends inside sound
      have later := placed.next inside
      have later' := placed'.next inside'
      rw [steps] at later'
      cases fault : scanner.next.current.fault with
      | none =>
          rcases induction fault later later' with
            ⟨tokens, last, last', belong, yields, yields'⟩
          have sound' : (stretched tail scanner).next.diagnostic? = none := by
            rw [steps, diagnostic?_eq_none_iff]
            exact fault_stretched fault
          refine ⟨scanner.token :: tokens, last, last', belong, ?_, ?_⟩
          · rw [Stream.items_of_sound inside
              (diagnostic?_eq_none_iff.2 fault), yields]
            rfl
          · rw [Stream.items_of_sound inside' sound', steps, yields', token]
            rfl
      | some fault_next =>
          rcases exists_counterpart later later' fault with
            ⟨diagnostic, diagnostic', found, found', belong⟩
          rw [← steps] at found'
          refine ⟨[scanner.token], _, _, belong, ?_, ?_⟩
          · exact Stream.items_of_malformed inside found
          · rw [Stream.items_of_malformed inside' found', token]
            rfl

end

end Scanner

/-! ## Whole scans -/

/--
How a scan of a source and a scan of a longer one from the same offset go alike:
both yield the same tokens up to items that belong together, or both fail in
their first lexeme.
-/
inductive ScannedAlike (source longer : Text) (offset : Nat) : Prop
  | yields {stream stream' : Stream} {tokens : List Token}
      {last last' : Stream.Item}
      (started : Stream.start? source offset = .ok stream)
      (started' : Stream.start? longer offset = .ok stream')
      (items_eq : stream.items = tokens.map .ok ++ [last])
      (items_eq' : stream'.items = tokens.map .ok ++ [last'])
      (belong : Stream.Counterpart source longer last last') :
      ScannedAlike source longer offset
  | fails {diagnostic diagnostic' : Diagnostic}
      (failed :
        Stream.start? source offset = .error (.malformed diagnostic))
      (failed' :
        Stream.start? longer offset = .error (.malformed diagnostic'))
      (belong :
        Stream.Counterpart source longer
          (.error diagnostic) (.error diagnostic')) :
      ScannedAlike source longer offset

namespace Stream

open Text (IsLineEnds)

/-- A scan that starts inside a source goes on alike with line ends behind. -/
theorem scannedAlike_append {source tail : Text} {offset : Nat}
    (ends : IsLineEnds tail) (boundary : Text.IsBoundary source offset)
    (inside : offset < Text.size source) :
    ScannedAlike source (source ++ tail) offset := by
  rcases boundary with ⟨front, unread, whole, size_front⟩
  have filled : unread ≠ [] := by
    rintro rfl
    rw [List.append_nil] at whole
    rw [whole, size_front] at inside
    exact Nat.lt_irrefl offset inside
  have whole' : source ++ tail = front ++ (unread ++ tail) := by
    rw [whole, List.append_assoc]
  have filled' : unread ++ tail ≠ [] :=
    List.append_ne_nil_of_left_ne_nil filled tail
  have started := Scanner.start?_eq_answer whole size_front filled
  have started' := Scanner.start?_eq_answer whole' size_front filled'
  have placed :=
    Scanner.placed_seek none whole size_front (Nat.le_refl offset)
  have placed' :=
    Scanner.placed_seek none whole' size_front (Nat.le_refl offset)
  rw [Scanner.seek_append_lineEnds ends] at started' placed'
  cases fault : (Scanner.seek source offset none unread).current.fault with
  | none =>
      have sound := Scanner.diagnostic?_eq_none_iff.2 fault
      have sound' := Scanner.diagnostic?_eq_none_iff.2
        (@Scanner.fault_stretched tail _ fault)
      rw [Scanner.answer_of_sound sound] at started
      rw [Scanner.answer_of_sound sound'] at started'
      rcases Scanner.exists_items_stretched ends fault placed placed' with
        ⟨tokens, last, last', belong, yields, yields'⟩
      exact
        .yields (start?_of_scanner started) (start?_of_scanner started')
          yields yields' belong
  | some fault_first =>
      rcases Scanner.exists_counterpart placed placed' fault with
        ⟨diagnostic, diagnostic', found, found', belong⟩
      rw [Scanner.answer_of_malformed found] at started
      rw [Scanner.answer_of_malformed found'] at started'
      exact
        .fails (start?_of_failure started) (start?_of_failure started')
          belong

/-- A scan that starts in the line ends finds the end at once. -/
theorem items_of_lineEnds {source tail : Text} {offset : Nat}
    (ends : IsLineEnds tail) (behind : Text.size source ≤ offset)
    (inside : offset < Text.size (source ++ tail)) :
    ∃ stream,
      start? (source ++ tail) offset = .ok stream ∧
        stream.items = [.ok (.atEnd (Text.size (source ++ tail)))] := by
  rw [Text.size_append] at inside
  have skips : offset - Text.size source < Text.size tail := by
    omega
  rcases ends.exists_cut skips with
    ⟨skipped, unread, rfl, size_skipped, filled⟩
  have whole : source ++ (skipped ++ unread) = source ++ skipped ++ unread :=
    (List.append_assoc source skipped unread).symm
  have size_front : Text.size (source ++ skipped) = offset := by
    rw [Text.size_append]
    omega
  have ends_unread : IsLineEnds unread := fun character member =>
    ends character (List.mem_append_right skipped member)
  have placed :=
    Scanner.placed_seek none whole size_front (Nat.le_refl offset)
  have current :
      (Scanner.seek (source ++ (skipped ++ unread)) offset none
        unread).current = Lexeme.eof := by
    rw [Scanner.seek, ends_unread.dropWhile_isBlank]
    rfl
  have ended :
      (Scanner.seek (source ++ (skipped ++ unread)) offset none
        unread).kind = .eof :=
    congrArg Lexeme.kind current
  have sound :
      (Scanner.seek (source ++ (skipped ++ unread)) offset none
        unread).diagnostic? = none :=
    Scanner.diagnostic?_eq_none_iff.2 (congrArg Lexeme.fault current)
  have started := Scanner.start?_eq_answer whole size_front filled
  rw [Scanner.answer_of_sound sound] at started
  refine ⟨_, start?_of_scanner started, ?_⟩
  rw [items_of_eof ended, Scanner.token_of_eof placed ended]

end Stream

end XPathScan
