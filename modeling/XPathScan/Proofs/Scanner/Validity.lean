import XPathScan.Proofs.Lexeme.Automaton
import XPathScan.Proofs.Scanner.Run

/-!
# Lexical validity in one pass

A scanner takes lexemes with lookahead and goes on over malformed ones; the
automaton of `Lexeme.Automaton` passes over single characters.  Both agree on
whether a text has a lexical mistake and on the kind of the first one, because
each step of a scanner leaves an unread text of the same verdict or stands on
the malformed lexeme itself.
-/

namespace XPathScan

namespace Scanner

open Lexeme.Automaton (State scan)

/-! ## Verdicts along a run -/

theorem verdict_seek
    (source : Text) (offset : Nat) (previous : Option Kind)
    (unread : Text) :
    (scan unread).verdict =
      (seek source offset previous unread).current.fault.or
        (scan (seek source offset previous unread).unread).verdict := by
  rw [← Lexeme.Automaton.scan_dropWhile_isBlank]
  exact Lexeme.Automaton.verdict_read previous _

theorem verdict_next {scanner : Scanner}
    (inside : scanner.kind ≠ .eof) :
    (scan scanner.unread).verdict =
      scanner.next.current.fault.or
        (scan scanner.next.unread).verdict := by
  rw [next_of_ne_eof inside]
  exact verdict_seek _ _ _ _

section

variable {source front gap : Text} {offset : Nat} {scanner : Scanner}

theorem Placed.unread_of_eof
    (placed : Placed source offset scanner front gap)
    (ended : scanner.kind = .eof) :
    scanner.unread = [] := by
  rw [placed.kind_eq_eof_iff, List.append_eq_nil_iff] at ended
  exact ended.2

theorem Placed.outcome_eq_ok_iff
    (placed : Placed source offset scanner front gap) :
    (∃ kind, scanner.outcome = .ok kind) ↔
      scanner.current.fault = none := by
  rw [placed.outcome_eq]
  cases scanner.current.fault <;> simp

/-- In front of a text without mistakes no step finds a malformed lexeme. -/
theorem Placed.sound_of_verdict
    (placed : Placed source offset scanner front gap)
    (verdict : (scan scanner.unread).verdict = none) (count : Nat) :
    (scanner.advanced (count + 1)).current.fault = none := by
  induction count generalizing scanner front gap with
  | zero =>
      by_cases ended : scanner.kind = .eof
      · rw [advanced_succ, advanced, next_of_eof ended,
          placed.current_of_eof ended]
        rfl
      · rw [verdict_next ended, Option.or_eq_none_iff] at verdict
        exact verdict.1
  | succ count induction =>
      rw [← advanced_next]
      by_cases ended : scanner.kind = .eof
      · rw [next_of_eof ended]
        exact induction placed verdict
      · rw [verdict_next ended, Option.or_eq_none_iff] at verdict
        exact induction (placed.next ended) verdict.2

/-- If all steps to the end find sound lexemes, there is no mistake. -/
theorem Placed.verdict_of_sound
    (placed : Placed source offset scanner front gap) {count : Nat}
    (ended : (scanner.advanced count).kind = .eof)
    (sound :
      ∀ earlier < count,
        (scanner.advanced (earlier + 1)).current.fault = none) :
    (scan scanner.unread).verdict = none := by
  induction count generalizing scanner front gap with
  | zero =>
      rw [placed.unread_of_eof ended]
      rfl
  | succ count induction =>
      by_cases here : scanner.kind = .eof
      · rw [placed.unread_of_eof here]
        rfl
      · have sound_next : scanner.next.current.fault = none :=
          sound 0 (Nat.succ_pos count)
        rw [verdict_next here, sound_next, Option.none_or]
        rw [← advanced_next] at ended
        apply induction (placed.next here) ended
        intro earlier before
        rw [advanced_next]
        exact sound (earlier + 1) (Nat.succ_lt_succ before)

/-- In front of a text with a mistake some step finds it first. -/
theorem Placed.exists_fault
    (placed : Placed source offset scanner front gap) {fault : Fault}
    (verdict : (scan scanner.unread).verdict = some fault) :
    ∃ count,
      (∀ earlier < count,
        (scanner.advanced (earlier + 1)).current.fault = none) ∧
      (scanner.advanced (count + 1)).current.fault = some fault := by
  induction scanner using states.induct generalizing front gap with
  | case1 scanner ended =>
      rw [placed.unread_of_eof ended] at verdict
      cases verdict
  | case2 scanner inside induction =>
      rw [verdict_next inside] at verdict
      cases found : scanner.next.current.fault with
      | some fault' =>
          rw [found] at verdict
          refine ⟨0, fun earlier before => by omega, ?_⟩
          exact found.trans verdict
      | none =>
          rw [found, Option.none_or] at verdict
          rcases induction (placed.next inside) verdict with
            ⟨count, before, here⟩
          refine ⟨count + 1, ?_, ?_⟩
          · intro earlier bound
            cases earlier with
            | zero => exact found
            | succ earlier =>
                rw [← advanced_next]
                exact before earlier (by omega)
          · rw [← advanced_next]
            exact here

end

/-! ## Whole runs -/

/-- Scanning from an offset succeeds up to the end. -/
def ScansSoundly (source : Text) (offset : Nat) : Prop :=
  ∃ first count,
    start? source offset = .ok first ∧
      (first.advanced count).kind = .eof ∧
      ∀ earlier < count,
        ∃ kind, (first.advanced earlier).advance.1 = .ok kind

/-- The first error that scanning from an offset reports. -/
inductive FirstError (source : Text) (offset : Nat) : Diagnostic → Prop
  | start {diagnostic : Diagnostic}
      (malformed : start? source offset = .error (.malformed diagnostic)) :
      FirstError source offset diagnostic
  | advance {first : Scanner} {count : Nat} {diagnostic : Diagnostic}
      (started : start? source offset = .ok first)
      (before :
        ∀ earlier < count,
          ∃ kind, (first.advanced earlier).advance.1 = .ok kind)
      (malformed :
        (first.advanced count).advance.1 = .error diagnostic) :
      FirstError source offset diagnostic

section

variable {source front unread : Text} {offset : Nat}

/--
A scanner that starts in front of some text stands on a sound lexeme, and the
verdict on the whole text is that on the text behind this lexeme.
-/
theorem start?_of_sound
    (whole : source = front ++ unread)
    (size_front : Text.size front = offset) (filled : unread ≠ [])
    (sound :
      (seek source offset none unread).current.fault = none) :
    start? source offset = .ok (seek source offset none unread) ∧
      (scan unread).verdict =
        (scan (seek source offset none unread).unread).verdict := by
  constructor
  · rw [start?_eq_answer whole size_front filled]
    exact answer_of_sound (diagnostic?_eq_none_iff.2 sound)
  · have verdict := verdict_seek source offset none unread
    rw [sound, Option.none_or] at verdict
    exact verdict

/-- A scanner that has started stands on the first lexeme. -/
theorem eq_seek_of_split {first : Scanner}
    (whole : source = front ++ unread)
    (size_front : Text.size front = offset)
    (started : start? source offset = .ok first) :
    first = seek source offset none unread ∧
      first.current.fault = none := by
  rcases eq_seek_of_start? started with
    ⟨front', unread', whole', size_front', -, standing, sound⟩
  have cut := Text.splitAt?_eq_some_iff.2 ⟨whole, size_front⟩
  have cut' := Text.splitAt?_eq_some_iff.2 ⟨whole', size_front'⟩
  rw [cut, Option.some.injEq, Prod.mk.injEq] at cut'
  rw [cut'.2]
  exact ⟨standing, diagnostic?_eq_none_iff.1 sound⟩

/-- Scanning succeeds up to the end if the automaton finds no mistake. -/
theorem scansSoundly_iff
    (whole : source = front ++ unread)
    (size_front : Text.size front = offset) (filled : unread ≠ []) :
    ScansSoundly source offset ↔ (scan unread).verdict = none := by
  have placed :=
    @placed_seek source front unread offset offset none whole size_front
      (Nat.le_refl offset)
  constructor
  · rintro ⟨first, count, started, ended, steps⟩
    rcases eq_seek_of_split whole size_front started with ⟨rfl, sound⟩
    rw [(start?_of_sound whole size_front filled sound).2]
    apply placed.verdict_of_sound ended
    intro earlier before
    rcases placed.exists_advanced (earlier + 1) with ⟨_, _, here⟩
    exact here.outcome_eq_ok_iff.1 (steps earlier before)
  · intro verdict
    have first_verdict := verdict_seek source offset none unread
    rw [verdict, eq_comm, Option.or_eq_none_iff] at first_verdict
    rcases first_verdict with ⟨sound, verdict_behind⟩
    rcases start?_of_sound whole size_front filled sound with ⟨started, -⟩
    rcases exists_advanced_eof (seek source offset none unread) with
      ⟨count, ended, -⟩
    refine ⟨_, count, started, ended, ?_⟩
    intro earlier before
    rcases placed.exists_advanced (earlier + 1) with ⟨_, _, here⟩
    exact
      here.outcome_eq_ok_iff.2
        (placed.sound_of_verdict verdict_behind earlier)

/-- The first error is the mistake that the automaton finds. -/
theorem exists_firstError {fault : Fault}
    (whole : source = front ++ unread)
    (size_front : Text.size front = offset) (filled : unread ≠ [])
    (verdict : (scan unread).verdict = some fault) :
    ∃ diagnostic,
      FirstError source offset diagnostic ∧
        diagnostic.complaint = fault.complaint := by
  have placed :=
    @placed_seek source front unread offset offset none whole size_front
      (Nat.le_refl offset)
  cases found : (seek source offset none unread).current.fault with
  | some fault' =>
      have first_verdict := verdict_seek source offset none unread
      rw [verdict, found, Option.some_or, Option.some.injEq]
        at first_verdict
      have outcome := placed.outcome_eq
      rw [found] at outcome
      refine
        ⟨⟨fault'.complaint, source, (seek source offset none unread).span⟩,
          .start ?_, congrArg Fault.complaint first_verdict.symm⟩
      rw [start?_eq_answer whole size_front filled, answer, outcome]
  | none =>
      rcases start?_of_sound whole size_front filled found with
        ⟨started, same⟩
      rw [same] at verdict
      rcases placed.exists_fault verdict with ⟨count, before, here⟩
      rcases placed.exists_advanced (count + 1) with ⟨_, _, placed_here⟩
      have outcome := placed_here.outcome_eq
      rw [here] at outcome
      refine ⟨_, .advance started ?_ outcome, rfl⟩
      intro earlier bound
      rcases placed.exists_advanced (earlier + 1) with ⟨_, _, placed_there⟩
      exact placed_there.outcome_eq_ok_iff.2 (before earlier bound)

end

/-! ## The automaton decides -/

/--
The automaton accepts a text: it reaches no exponent and does not end inside a
string.
-/
structure Accepts (text : Text) : Prop where
  no_exponent : ∀ front, front <+: text → scan front ≠ .rejected
  no_apostrophe : scan text ≠ .apostrophe
  no_quotation : scan text ≠ .quotation

theorem accepts_iff (text : Text) :
    Accepts text ↔ (scan text).verdict = none := by
  constructor
  · intro accepts
    have no_exponent := accepts.no_exponent text List.prefix_rfl
    have no_apostrophe := accepts.no_apostrophe
    have no_quotation := accepts.no_quotation
    generalize scan text = state at no_exponent no_apostrophe no_quotation
    cases state with
    | rejected => exact absurd rfl no_exponent
    | apostrophe => exact absurd rfl no_apostrophe
    | quotation => exact absurd rfl no_quotation
    | _ => rfl
  · intro verdict
    constructor
    · intro front starts reached
      rw [Lexeme.Automaton.exists_prefix_rejected_iff.1
        ⟨front, starts, reached⟩] at verdict
      cases verdict
    · intro ends
      rw [ends] at verdict
      cases verdict
    · intro ends
      rw [ends] at verdict
      cases verdict

/--
Lexical validity is decided by the automaton.  A scanner cannot start at an
offset at or behind the end or inside a character.  Everywhere else scanning
succeeds up to the end if and only if the automaton accepts the text from there
on; and the first error is a number in scientific notation if the automaton
reaches an exponent, and an open string if it ends inside a string.
-/
theorem scansSoundly_iff_accepts (source : Text) (offset : Nat) :
    (start? source offset =
          .error (.outOfRange offset (Text.size source)) ↔
        Text.size source ≤ offset ∨ ¬ Text.IsBoundary source offset) ∧
      ∀ front unread,
        Text.splitAt? source offset = some (front, unread) →
          offset < Text.size source →
            (ScansSoundly source offset ↔ Accepts unread) ∧
            ((∃ reached, reached <+: unread ∧ scan reached = .rejected) →
              ∃ diagnostic,
                FirstError source offset diagnostic ∧
                  diagnostic.category = .scientificNotation) ∧
            (scan unread = .apostrophe ∨ scan unread = .quotation →
              ∃ diagnostic,
                FirstError source offset diagnostic ∧
                  diagnostic.category = .unclosedString) := by
  refine ⟨start?_eq_outOfRange_iff source offset, ?_⟩
  intro front unread cut inside
  rcases Text.eq_append_of_splitAt? cut with ⟨whole, size_front⟩
  have filled : unread ≠ [] := by
    rintro rfl
    rw [List.append_nil] at whole
    rw [← whole] at size_front
    omega
  have first_error := @exists_firstError source front unread offset
  refine ⟨?_, ?_, ?_⟩
  · rw [accepts_iff]
    exact scansSoundly_iff whole size_front filled
  · intro reached
    have ends := Lexeme.Automaton.exists_prefix_rejected_iff.1 reached
    rcases first_error whole size_front filled (congrArg State.verdict ends)
      with ⟨diagnostic, first, complaint⟩
    exact ⟨diagnostic, first, congrArg Complaint.category complaint⟩
  · intro ends
    have verdict : (scan unread).verdict = some .unclosedString := by
      rcases ends with ends | ends <;> exact congrArg State.verdict ends
    rcases first_error whole size_front filled verdict with
      ⟨diagnostic, first, complaint⟩
    exact ⟨diagnostic, first, congrArg Complaint.category complaint⟩

/-- The fraction behind a second point ends in an exponent. -/
theorem scansSoundly_iff_accepts_exponent :
    Text.splitAt? ['é', '1', '.', '.', '5', 'e', '3', '\''] 2 =
        some (['é'], ['1', '.', '.', '5', 'e', '3', '\'']) ∧
      2 < Text.size ['é', '1', '.', '.', '5', 'e', '3', '\''] ∧
      ¬ ScansSoundly ['é', '1', '.', '.', '5', 'e', '3', '\''] 2 ∧
      ∃ diagnostic,
        FirstError ['é', '1', '.', '.', '5', 'e', '3', '\''] 2 diagnostic ∧
          diagnostic.category = .scientificNotation := by
  have laws :=
    (scansSoundly_iff_accepts
      ['é', '1', '.', '.', '5', 'e', '3', '\''] 2).2 ['é']
      ['1', '.', '.', '5', 'e', '3', '\''] rfl (by decide)
  have reached :
      scan ['1', '.', '.', '5', 'e', '3', '\''] = .rejected := rfl
  refine ⟨rfl, by decide, ?_, laws.2.1 ⟨_, List.prefix_rfl, reached⟩⟩
  intro soundly
  exact (laws.1.1 soundly).no_exponent _ List.prefix_rfl reached

end Scanner

end XPathScan
