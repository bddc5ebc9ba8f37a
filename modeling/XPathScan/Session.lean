import XPathScan.Scanner.Stream

/-!
# Sessions

In a session somebody asks for things one after another: to start a scanner
somewhere, to step it or to take the next token from it, to look at the lexeme
on which it stands, to complain about this lexeme, and to word an error.  The
requests come in any order, and there is no scanner before one has been started.
A scanner that cannot be started leaves the one before it in place.
-/

namespace XPathScan

/-- All that can be asked about the lexeme on which a scanner stands. -/
structure View where
  source : Text
  kind : Kind
  start : Nat
  size : Nat
  previousStop : Nat
  previousKind : Option Kind
  span : Span
  /-- The number of bytes that the span covers. -/
  width : Option Nat
  spelling : Text
  token : Token
  axis : Except Misuse Axis
  name : Except Misuse Text
  qualifier : Except Misuse Text
  callable : Except Misuse Bool
  body : Except Misuse Text

/-- The view from a scanner. -/
def Scanner.view (scanner : Scanner) : View where
  source := scanner.source
  kind := scanner.kind
  start := scanner.start
  size := scanner.size
  previousStop := scanner.previousStop
  previousKind := scanner.previousKind
  span := scanner.span
  width := scanner.span.length?
  spelling := scanner.spelling
  token := scanner.token
  axis := scanner.axis
  name := scanner.name
  qualifier := scanner.qualifier
  callable := scanner.callable
  body := scanner.body

/--
A complaint about the current lexeme, or about another span of the expression.
-/
def Scanner.complain
    (scanner : Scanner) (moved : Option Span) (complaint : Complaint) :
    Diagnostic :=
  let place : Anchor :=
    { scanner.anchor with span := moved.getD scanner.span }
  place.complain complaint

/-- What can be asked of a scanner. -/
inductive Operation
  /-- Step to the next lexeme. -/
  | advance
  /-- Yield the next token. -/
  | next
  /-- Look at the current lexeme. -/
  | view
  /-- Complain about the current lexeme, or about another span. -/
  | complain (moved : Option Span) (complaint : Complaint)

/-- What can be asked for in a session. -/
inductive Request
  /-- Start a scanner at an offset. -/
  | start (offset : Nat)
  /-- Ask the scanner, if there is one. -/
  | operate (operation : Operation)
  /-- Word an error. -/
  | describe (error : ScanError)

/-- What is answered in a session. -/
inductive Answer
  /-- There is no scanner to ask. -/
  | idle
  /-- A scanner has been started, or why it has not. -/
  | started (failure : Option ScanError)
  | stepped (outcome : Except Diagnostic Kind)
  | yielded (item : Option Stream.Item)
  | viewed (view : View)
  | complained (diagnostic : Diagnostic)
  | described (message : Text)

/-- Carry out an operation on a stream. -/
def Stream.operate : Operation → Stream → Answer × Stream
  | .advance, stream => (.stepped stream.advance.1, stream.advance.2)
  | .next, stream => (.yielded stream.next.1, stream.next.2)
  | .view, stream => (.viewed stream.scanner.view, stream)
  | .complain moved complaint, stream =>
      (.complained (stream.scanner.complain moved complaint), stream)

namespace Session

/-- Answer a request about a source, with the stream that there is. -/
def answer (source : Text) :
    Request → Option Stream → Answer × Option Stream
  | .start offset, standing =>
      match Stream.start? source offset with
      | .ok stream => (.started none, some stream)
      | .error failure => (.started (some failure), standing)
  | .operate _, none => (.idle, none)
  | .operate operation, some stream =>
      ((stream.operate operation).1, some (stream.operate operation).2)
  | .describe error, standing => (.described error.message, standing)

/-- Answer requests one after another. -/
def answers (source : Text) : List Request → Option Stream → List Answer
  | [], _ => []
  | request :: requests, standing =>
      (answer source request standing).1 ::
        answers source requests (answer source request standing).2

end Session

end XPathScan
