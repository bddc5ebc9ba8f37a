import XPathScan.Checked.Basic
import XPathScan.Command.Run

/-!
# Checked commands

A check counts lexemes with 32 bits, one of them for the sign.  Here a counter
that is full does not wrap around: to count on is a breach, which ends the run
without an outcome.  Nothing else in a run counts with so few bits.
-/

namespace XPathScan

namespace Checked

open Command

/-- The number behind a counter, if there is one. -/
def increment (count : Int32) : Checked Int32 :=
  if count = Int32.maxValue then
    .error .overflow
  else
    .ok (count + 1)

/--
The loop of a check: a lexeme is counted and then stepped over, up to the end
or up to the first step that fails.
-/
def countSteps (scanner : Scanner) (count : Int32) :
    Checked (Int32 × Option Diagnostic) :=
  if scanner.kind = .eof then
    pure (count, none)
  else do
    let counted ← increment count
    match scanner.advance.1 with
    | .error diagnostic => pure (counted, some diagnostic)
    | .ok _ => countSteps scanner.advance.2 counted
termination_by scanner.remaining
decreasing_by exact Scanner.remaining_next_lt ‹_›

/-- Check that every lexeme of an expression is well formed. -/
def check (start : Nat) (expression : Text) : Checked Report :=
  match Scanner.start? expression start with
  | .error error => pure (unscannable error)
  | .ok scanner => do
      let found ← countSteps scanner 0
      pure (reportCount found)

/-- Do what is to be done with an expression. -/
def perform (settings : Settings) (expression : Text) :
    Action → Checked Report
  | .tokens request => pure (listTokens settings request expression)
  | .check start => check start expression

/-- Run a command. -/
def run
    (reader : SettingsReader) (files : Files) (userPath : Option Text)
    (invocation : Invocation) : Checked Outcome :=
  match loadSettings reader files invocation.config userPath with
  | .error failure => pure (invocation.refused failure)
  | .ok settings =>
      match readExpression files invocation.expression invocation.file with
      | .error failure =>
          pure (invocation.outcome settings (.failed failure))
      | .ok expression => do
          let report ← perform settings expression invocation.action
          pure
            (invocation.outcome settings
              (report.after [.executing invocation.action.task]))

end Checked

end XPathScan
