import XPathScan.Checked.Scanner
import XPathScan.Session

/-!
# Checked sessions

A checked session answers the same requests with a checked scanner.  A breach in
the work on one request ends the session without answers.
-/

namespace XPathScan

namespace Machine

/-- The view from a checked scanner. -/
def view (machine : Machine) : Checked View := do
  let size ← machine.size
  let span ← machine.span
  let width ← machine.width
  let spelling ← machine.spelling
  let token ← machine.token
  pure
    { source := machine.cursor.source.toList
      kind := machine.kind
      start := machine.start
      size := size
      previousStop := machine.previousStop
      previousKind := machine.previousKind
      span := span
      width := some width
      spelling := spelling
      token := token
      axis := machine.axis
      name := machine.name
      qualifier := machine.qualifier
      callable := machine.callable
      body := machine.body }

/-- Carry out an operation on a checked scanner. -/
def operate : Operation → Machine → Checked (Answer × Machine)
  | .advance, machine => do
      let (outcome, later) ← machine.advance
      pure (.stepped outcome, later)
  | .next, machine => do
      let (item, later) ← machine.next
      pure (.yielded item, later)
  | .view, machine => do
      let view ← machine.view
      pure (.viewed view, machine)
  | .complain moved complaint, machine => do
      let diagnostic ← machine.complain moved complaint
      pure (.complained diagnostic, machine)

end Machine

namespace Checked

/-- Answer a request about a source, with the checked scanner that there is. -/
def answer (source : String) :
    Request → Option Machine → Checked (Answer × Option Machine)
  | .start offset, standing => do
      let started ← Machine.start? source offset
      match started with
      | .ok machine => pure (.started none, some machine)
      | .error failure => pure (.started (some failure), standing)
  | .operate _, none => pure (.idle, none)
  | .operate operation, some machine => do
      let (answer, later) ← machine.operate operation
      pure (answer, some later)
  | .describe error, standing => do
      let message ← describe error
      pure (.described message, standing)

/-- Answer requests one after another. -/
def answers (source : String) :
    List Request → Option Machine → Checked (List Answer)
  | [], _ => pure []
  | request :: requests, standing => do
      let (first, later) ← answer source request standing
      let rest ← answers source requests later
      pure (first :: rest)

end Checked

end XPathScan
