import XPathScan.Checked.Diagnostic
import XPathScan.Checked.Lexeme
import XPathScan.Scanner.Stream

/-!
# Checked scanners

A checked scanner keeps no text.  It knows the offset at which its lexeme begins
and has a cursor behind the lexeme; spans, sizes and spellings are computed from
the two whenever they are asked for, and every such computation is checked.  The
scanner also keeps what an iteration over its tokens still has to yield.
-/

namespace XPathScan

/-- A scanner that reaches its text through a cursor only. -/
structure Machine where
  /-- The cursor, which stands behind the current lexeme. -/
  cursor : Cursor
  /-- The kind of the current lexeme. -/
  kind : Kind
  /-- The offset of the current lexeme. -/
  start : Nat
  /-- The offset behind the lexeme before the current one. -/
  previousStop : Nat
  /-- The kind of the lexeme before the current one, if there is one. -/
  previousKind : Option Kind
  /-- What the current lexeme carries. -/
  detail : Detail
  /-- The diagnostic that the iteration yields next. -/
  pending : Option Diagnostic
  /-- Whether the iteration has yielded its last item. -/
  exhausted : Bool

namespace Machine

/-! ## Steps -/

/-- Leave the current lexeme behind: remember it and clear its fields. -/
def leave (previous : Option Kind) (machine : Machine) : Machine :=
  { machine with
    previousStop := machine.cursor.position
    previousKind := previous
    detail := .nothing }

/-- Read the lexeme behind the current one. -/
def readNext (previous : Option Kind) (machine : Machine) :
    Checked (Except Diagnostic Kind × Machine) := do
  let left := machine.leave previous
  let begun ← Checked.eatWhile isBlank left.cursor
  let reading ←
    Checked.read left.previousKind begun.position left.detail begun
  pure
    (reading.outcome,
      { left with
        cursor := reading.cursor
        kind := reading.kind
        start := begun.position
        detail := reading.detail })

/-- A scanner in front of its first lexeme. -/
def fresh (cursor : Cursor) : Machine where
  cursor := cursor
  kind := .unknown
  start := cursor.position
  previousStop := cursor.position
  previousKind := none
  detail := .nothing
  pending := none
  exhausted := false

/--
Stand on the first lexeme at or behind an offset, which must be a boundary with
text behind it.
-/
def start? (source : String) (offset : Nat) :
    Checked (Except ScanError Machine) :=
  if source.utf8ByteSize ≤ offset ∨
      ¬ (⟨offset⟩ : String.Pos.Raw).isValid source = true then
    pure (.error (.outOfRange offset source.utf8ByteSize))
  else do
    let cursor ← Checked.moveTo offset (Cursor.start source)
    let (outcome, machine) ← (fresh cursor).readNext none
    match outcome with
    | .ok _ => pure (.ok machine)
    | .error diagnostic => pure (.error (.malformed diagnostic))

/-- Step to the next lexeme and tell its kind or its diagnostic. -/
def advance (machine : Machine) :
    Checked (Except Diagnostic Kind × Machine) :=
  if machine.kind = .eof then
    pure (.ok .eof, machine)
  else
    machine.readNext (some machine.kind)

/-! ## The current lexeme -/

/-- The span of the current lexeme. -/
def span (machine : Machine) : Checked Span :=
  Checked.span machine.start machine.cursor.position

/-- The number of bytes of the current lexeme. -/
def size (machine : Machine) : Checked Nat :=
  Checked.subtract machine.cursor.position machine.start

/-- The number of bytes that the span of the current lexeme covers. -/
def width (machine : Machine) : Checked Nat := do
  let covered ← machine.span
  Checked.subtract covered.stop covered.start

/-- The current lexeme as written, or the form of the end. -/
def spelling (machine : Machine) : Checked Text :=
  if machine.kind = .eof then
    pure Kind.eofForm
  else
    Checked.sliceFrom machine.cursor machine.start

/-- What the current lexeme carries, chosen by its kind. -/
def payload (machine : Machine) : Payload :=
  match machine.kind with
  | .name =>
      .name machine.detail.qualifier machine.detail.word
        machine.detail.callable
  | .string => .string machine.detail.body
  | .axis => .axis machine.detail.axis
  | _ => .nothing

/-- The current lexeme as a token. -/
def token (machine : Machine) : Checked Token := do
  let covered ← machine.span
  let text ← machine.spelling
  pure ⟨machine.kind, covered, text, machine.payload⟩

/-- The axis that the current lexeme names. -/
def axis (machine : Machine) : Except Misuse Axis :=
  if machine.kind ≠ .axis ∨ machine.detail.axis = .unknown then
    .error .notAnAxis
  else
    .ok machine.detail.axis

/-- A field of the current lexeme, if the lexeme is of the expected kind. -/
def field {Field : Type} (machine : Machine) (expected : Kind)
    (misuse : Misuse) (value : Field) : Except Misuse Field :=
  if machine.kind = expected then .ok value else .error misuse

/-- The local name of the current lexeme. -/
def name (machine : Machine) : Except Misuse Text :=
  machine.field .name .notAName machine.detail.word

/-- The qualifier of the current lexeme; empty if it has none. -/
def qualifier (machine : Machine) : Except Misuse Text :=
  machine.field .name .notAName machine.detail.qualifier

/-- Whether `(` follows the name on which the scanner stands at once. -/
def callable (machine : Machine) : Except Misuse Bool :=
  machine.field .name .notAName machine.detail.callable

/-- The body of the string on which the scanner stands. -/
def body (machine : Machine) : Except Misuse Text :=
  machine.field .string .notAString machine.detail.body

/--
A complaint about the current lexeme, or about another span of the expression.
-/
def complain
    (machine : Machine) (moved : Option Span) (complaint : Complaint) :
    Checked Diagnostic := do
  let here ← Checked.anchor machine.start machine.cursor
  let place : Anchor := { here with span := moved.getD here.span }
  pure (place.complain complaint)

/-! ## Iteration -/

/-- Yield the current token and step on, holding back a diagnostic. -/
def yieldToken (machine : Machine) :
    Checked (Option Stream.Item × Machine) := do
  let token ← machine.token
  if token.kind = .eof then
    pure (some (.ok token), { machine with exhausted := true })
  else do
    let (outcome, later) ← machine.advance
    match outcome with
    | .ok _ => pure (some (.ok token), later)
    | .error diagnostic =>
        pure (some (.ok token), { later with pending := some diagnostic })

/-- The next item of the iteration, if it has one. -/
def next (machine : Machine) : Checked (Option Stream.Item × Machine) :=
  match machine.pending with
  | some diagnostic =>
      pure
        (some (.error diagnostic),
          { machine with pending := none, exhausted := true })
  | none =>
      if machine.exhausted then
        pure (none, machine)
      else
        machine.yieldToken

end Machine

end XPathScan
