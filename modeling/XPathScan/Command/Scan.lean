import XPathScan.Command.Report
import XPathScan.Settings

/-!
# Commands on expressions

One command lists the tokens of an expression, the other checks that all its
lexemes are well formed and counts them.  Both report the first lexical error,
and tell one in the first lexeme from one behind it.
-/

namespace XPathScan

namespace Command

/-! ## Where the expression comes from -/

/-- Whether a character ends a line. -/
def isLineEnd (character : Char) : Bool :=
  character == '\r' || character == '\n'

/-- A text without the line ends at its end. -/
def dropLineEnds (text : Text) : Text :=
  (text.reverse.dropWhile isLineEnd).reverse

/-- The expression that is given, or that stands in a file. -/
def readExpression
    (files : Files) (expression file : Option Text) : Except Failure Text :=
  match expression, file with
  | some expression, none => .ok expression
  | none, some path =>
      match (files path).text with
      | .ok content => .ok (dropLineEnds content)
      | .error fault => .error (.unreadable fault)
  | some _, some _ => .error .twoExpressions
  | none, none => .error .noExpression

/-! ## Scanning -/

/-- The event of a scan error, if it is a lexical error. -/
def scanErrorEvents : ScanError → List Event
  | .malformed diagnostic => [.lexicalError diagnostic]
  | .outOfRange _ _ => []

/-- The report on an expression that cannot be scanned from its start on. -/
def unscannable (error : ScanError) : Report :=
  ⟨scanErrorEvents error, .error (.unscannable error)⟩

/-- The report on a malformed lexeme behind the first one. -/
def malformed (diagnostic : Diagnostic) : Report :=
  ⟨[.lexicalError diagnostic], .error (.malformed diagnostic)⟩

/-- What is wanted of a listing. -/
structure ListingRequest where
  start : Nat
  /-- The word for the form, if one is given. -/
  format : Option Text
  spans : Bool
  deriving DecidableEq

/-- The form that a word names, or a failure. -/
def resolveFormat (word : Text) : Except Failure Listing.Format :=
  match Listing.Format.ofName? word with
  | some format => .ok format
  | none => .error (.unknownFormat word)

/-- Tokens in one of the forms of listings. -/
def render
    (format : Listing.Format) (withSpans : Bool) (tokens : List Token) : Text :=
  match format with
  | .text => Listing.renderLines withSpans tokens
  | .json => Listing.renderJson tokens ++ ['\n']

/-- List the tokens of an expression in a given form. -/
def listIn
    (format : Listing.Format) (withSpans : Bool)
    (start : Nat) (expression : Text) : Report :=
  match Stream.start? expression start with
  | .error error => unscannable error
  | .ok stream =>
      match stream.tokens with
      | .error diagnostic => malformed diagnostic
      | .ok tokens =>
          ⟨[.scanned tokens.length], .ok (render format withSpans tokens)⟩

/-- List the tokens of an expression. -/
def listTokens
    (settings : Settings) (request : ListingRequest) (expression : Text) :
    Report :=
  match resolveFormat (request.format.getD settings.format) with
  | .error failure => .failed failure
  | .ok format =>
      (listIn format (request.spans || settings.showSpans) request.start
        expression).after [.scanning request.start format]

/--
The loop of a check: a lexeme is counted and then stepped over, up to the end
or up to the first step that fails.  The counter has 32 bits, one of them for
the sign, and wraps around.
-/
def countSteps (scanner : Scanner) (count : Int32) :
    Int32 × Option Diagnostic :=
  if scanner.kind = .eof then
    (count, none)
  else
    match scanner.advance.1 with
    | .error diagnostic => (count + 1, some diagnostic)
    | .ok _ => countSteps scanner.advance.2 (count + 1)
termination_by scanner.remaining
decreasing_by exact Scanner.remaining_next_lt ‹_›

/-- The line with which a check succeeds. -/
def verdict (count : Int) : Text :=
  "ok: ".toList ++ Text.ofInt count ++ " tokens\n".toList

/-- The report on what the loop of a check has found. -/
def reportCount : Int32 × Option Diagnostic → Report
  | (_, some diagnostic) => malformed diagnostic
  | (count, none) => ⟨[.valid count], .ok (verdict count.toInt)⟩

/-- Check that every lexeme of an expression is well formed. -/
def check (start : Nat) (expression : Text) : Report :=
  match Scanner.start? expression start with
  | .error error => unscannable error
  | .ok scanner => reportCount (countSteps scanner 0)

end Command

end XPathScan
