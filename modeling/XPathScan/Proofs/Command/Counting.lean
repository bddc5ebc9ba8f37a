import Mathlib.Tactic
import XPathScan.Checked.Command
import XPathScan.Proofs.Scanner.Pull
import XPathScan.Proofs.Text.Digits

/-!
# Counting lexemes

A check counts one lexeme in front of each step, so it counts all items that the
stream yields but one (`counted`).  It counts with 32 bits, one of them for the
sign: a counter that wraps around holds the number modulo `2 ^ 32`, and one that
is checked is full at `2 ^ 31`.  The two agree on an expression just as long as
it has fewer lexemes to count (`Countable`).
-/

namespace XPathScan

namespace Scanner

/-! ## The lexemes that are counted -/

/-- The number of lexemes in front of a step, up to the end or up to the first
step that fails. -/
def counted (scanner : Scanner) : Nat :=
  scanner.pulled.items.length - 1

section

variable {scanner : Scanner}

theorem length_items_pulled (scanner : Scanner) :
    scanner.pulled.items.length = scanner.counted + 1 := by
  have positive : 0 < scanner.pulled.tokens.length :=
    (List.getElem?_eq_some_iff.1 scanner.head?_pulled).1
  rw [counted, Pulled.items, List.length_append, List.length_map]
  omega

theorem counted_of_eof (ended : scanner.kind = .eof) :
    scanner.counted = 0 := by
  rw [counted, pulled_of_eof ended]
  rfl

theorem counted_of_malformed {diagnostic : Diagnostic}
    (inside : scanner.kind ≠ .eof)
    (malformed : scanner.next.diagnostic? = some diagnostic) :
    scanner.counted = 1 := by
  rw [counted, pulled_of_malformed inside malformed]
  rfl

theorem counted_of_sound (inside : scanner.kind ≠ .eof)
    (sound : scanner.next.diagnostic? = none) :
    scanner.counted = scanner.next.counted + 1 := by
  rw [counted, pulled_of_sound inside sound, ← length_items_pulled]
  rfl

theorem counted_pos (inside : scanner.kind ≠ .eof) :
    0 < scanner.counted := by
  cases found : scanner.next.diagnostic? with
  | none =>
      rw [counted_of_sound inside found]
      exact Nat.succ_pos _
  | some diagnostic =>
      rw [counted_of_malformed inside found]
      exact Nat.one_pos

/-- If no step fails, all tokens are counted but the end. -/
theorem length_tokens_of_complete
    (complete : scanner.pulled.failure = none) :
    scanner.pulled.tokens.length = scanner.counted + 1 := by
  rw [← length_items_pulled, Pulled.items, complete, List.length_append,
    List.length_map]
  rfl

end

end Scanner

namespace Command

/-! ## Numbers with 32 bits -/

/-- A number that wraps around is read back as no greater number. -/
theorem toInt_ofNat_le (number : Nat) :
    (Int32.ofNat number).toInt ≤ number := by
  rw [Int32.toInt_ofNat', Int.bmod_def]
  split <;> simp [Int32.size] <;> omega

/-- Up to the greatest number there is always one more. -/
theorem toInt_add_one {count : Int32} (room : count ≠ Int32.maxValue) :
    (count + 1).toInt = count.toInt + 1 := by
  have low := count.le_toInt
  have high := count.toInt_lt
  have apart : count.toInt ≠ 2 ^ 31 - 1 := by
    rw [← Int32.toInt_maxValue, Ne, Int32.toInt_inj]
    exact room
  rw [Int32.toInt_add, Int.bmod_eq_of_le] <;> simp <;> omega

/-! ## The counter that wraps around -/

section

variable {scanner : Scanner}

theorem countSteps_of_eof (ended : scanner.kind = .eof) (count : Int32) :
    countSteps scanner count = (count, none) := by
  rw [countSteps, if_pos ended]

theorem countSteps_of_malformed {diagnostic : Diagnostic}
    (inside : scanner.kind ≠ .eof)
    (malformed : scanner.next.diagnostic? = some diagnostic)
    (count : Int32) :
    countSteps scanner count = (count + 1, some diagnostic) := by
  have fails : scanner.advance.1 = .error diagnostic :=
    Scanner.outcome_of_malformed malformed
  rw [countSteps, if_neg inside, fails]

theorem countSteps_of_sound (inside : scanner.kind ≠ .eof)
    (sound : scanner.next.diagnostic? = none) (count : Int32) :
    countSteps scanner count = countSteps scanner.next (count + 1) := by
  have succeeds : scanner.advance.1 = .ok scanner.next.kind :=
    Scanner.outcome_of_sound sound
  rw [countSteps, if_neg inside, succeeds]
  rfl

/-- The loop adds what is counted to its counter and fails as pulling does. -/
theorem countSteps_eq (scanner : Scanner) (count : Int32) :
    countSteps scanner count =
      (count + Int32.ofNat scanner.counted, scanner.pulled.failure) := by
  induction scanner using Scanner.states.induct generalizing count with
  | case1 scanner ended =>
      rw [countSteps_of_eof ended, Scanner.counted_of_eof ended,
        Scanner.pulled_of_eof ended]
      exact congrArg (·, none) (Int32.add_zero count).symm
  | case2 scanner inside induction =>
      cases found : scanner.next.diagnostic? with
      | none =>
          rw [countSteps_of_sound inside found, induction,
            Scanner.pulled_of_sound inside found,
            Scanner.counted_of_sound inside found, Nat.add_comm,
            Int32.ofNat_add, Int32.add_assoc]
          rfl
      | some diagnostic =>
          rw [countSteps_of_malformed inside found,
            Scanner.counted_of_malformed inside found,
            Scanner.pulled_of_malformed inside found]
          rfl

/-- The loop of a check counts the lexemes, as far as they can be counted. -/
theorem countSteps_zero (scanner : Scanner) :
    countSteps scanner 0 =
      (Int32.ofNat scanner.counted, scanner.pulled.failure) := by
  rw [countSteps_eq, Int32.zero_add]

end

/-! ## Expressions with lexemes that can be counted -/

/--
From an offset on, an expression yields no more items than can be counted, where
the last one is not: the end, or the diagnostic with which a step fails.
-/
def Countable (expression : Text) (start : Nat) : Prop :=
  ∀ stream, Stream.start? expression start = .ok stream →
    stream.items.length ≤ 2 ^ 31

theorem countable_of_failure {expression : Text} {start : Nat}
    {error : ScanError}
    (failed : Scanner.start? expression start = .error error) :
    Countable expression start := by
  intro stream started
  rw [Stream.start?_of_failure failed] at started
  cases started

theorem countable_iff {expression : Text} {start : Nat} {first : Scanner}
    (started : Scanner.start? expression start = .ok first) :
    Countable expression start ↔ first.counted < 2 ^ 31 := by
  rw [Countable, Stream.start?_of_scanner started]
  simp only [Except.ok.injEq, forall_eq', Scanner.items_ready,
    Scanner.length_items_pulled]
  exact Nat.succ_le_iff

end Command

namespace Checked

open Command (Countable)

/-! ## The counter that is checked -/

theorem increment_of_room {count : Int32} (room : count ≠ Int32.maxValue) :
    increment count = .ok (count + 1) :=
  if_neg room

theorem increment_maxValue : increment Int32.maxValue = .error .overflow :=
  if_pos rfl

section

variable {scanner : Scanner}

theorem countSteps_of_eof (ended : scanner.kind = .eof) (count : Int32) :
    countSteps scanner count = .ok (count, none) := by
  rw [countSteps, if_pos ended, pure_eq_ok]

theorem countSteps_of_full (inside : scanner.kind ≠ .eof) :
    countSteps scanner Int32.maxValue = .error .overflow := by
  rw [countSteps, if_neg inside, increment_maxValue]
  rfl

theorem countSteps_of_malformed {diagnostic : Diagnostic} {count : Int32}
    (inside : scanner.kind ≠ .eof)
    (malformed : scanner.next.diagnostic? = some diagnostic)
    (room : count ≠ Int32.maxValue) :
    countSteps scanner count = .ok (count + 1, some diagnostic) := by
  have fails : scanner.advance.1 = .error diagnostic :=
    Scanner.outcome_of_malformed malformed
  rw [countSteps, if_neg inside, increment_of_room room, ok_bind, fails]
  rfl

theorem countSteps_of_sound {count : Int32} (inside : scanner.kind ≠ .eof)
    (sound : scanner.next.diagnostic? = none)
    (room : count ≠ Int32.maxValue) :
    countSteps scanner count = countSteps scanner.next (count + 1) := by
  have succeeds : scanner.advance.1 = .ok scanner.next.kind :=
    Scanner.outcome_of_sound sound
  rw [countSteps, if_neg inside, increment_of_room room, ok_bind, succeeds]
  rfl

end

/-- The loop has a result unless it has to count on with a full counter. -/
theorem countSteps_eq (scanner : Scanner) (count : Int32) :
    countSteps scanner count =
      if count.toInt + scanner.counted < 2 ^ 31 then
        .ok (Command.countSteps scanner count)
      else
        .error .overflow := by
  induction scanner using Scanner.states.induct generalizing count with
  | case1 scanner ended =>
      have fits : count.toInt + (0 : Nat) < 2 ^ 31 := by
        have below := count.toInt_lt
        omega
      rw [countSteps_of_eof ended, Command.countSteps_of_eof ended,
        Scanner.counted_of_eof ended, if_pos fits]
  | case2 scanner inside induction =>
      by_cases full : count = Int32.maxValue
      · have positive := Scanner.counted_pos inside
        have spent :
            ¬ (Int32.maxValue.toInt + scanner.counted < 2 ^ 31) := by
          rw [Int32.toInt_maxValue]
          omega
        rw [full, countSteps_of_full inside, if_neg spent]
      · have more := Command.toInt_add_one full
        cases found : scanner.next.diagnostic? with
        | none =>
            rw [countSteps_of_sound inside found full, induction,
              Command.countSteps_of_sound inside found,
              Scanner.counted_of_sound inside found, more, Nat.cast_succ,
              Int.add_right_comm, ← Int.add_assoc]
        | some diagnostic =>
            have below := (count + 1).toInt_lt
            rw [more] at below
            rw [countSteps_of_malformed inside found full,
              Command.countSteps_of_malformed inside found,
              Scanner.counted_of_malformed inside found, if_pos]
            omega

/-- The loop of a check has a result if its lexemes can be counted. -/
theorem countSteps_zero (scanner : Scanner) :
    countSteps scanner 0 =
      if scanner.counted < 2 ^ 31 then
        .ok (Command.countSteps scanner 0)
      else
        .error .overflow := by
  rw [countSteps_eq, Int32.toInt_zero, Int.zero_add]
  norm_cast

/-! ## Checks with the checked counter -/

section

variable {expression : Text} {start : Nat}

/-- What can be counted is checked as with a counter that wraps around. -/
theorem check_of_countable (countable : Countable expression start) :
    check start expression = .ok (Command.check start expression) := by
  rw [check, Command.check]
  cases started : Scanner.start? expression start with
  | error error => rfl
  | ok first =>
      have few := (Command.countable_iff started).1 countable
      dsimp only
      rw [countSteps_zero, if_pos few, ok_bind, pure_eq_ok]

/-- A check of more lexemes than can be counted has no result. -/
theorem check_of_not_countable (many : ¬ Countable expression start) :
    check start expression = .error .overflow := by
  rw [check]
  cases started : Scanner.start? expression start with
  | error error => exact absurd (Command.countable_of_failure started) many
  | ok first =>
      rw [Command.countable_iff started] at many
      dsimp only
      rw [countSteps_zero, if_neg many]
      rfl

end

end Checked

end XPathScan
