import XPathScan.Token

/-!
# Scanners

A scanner stands on one lexeme of an expression.  It knows where the lexeme
lies, what kind of lexeme came before it, and which text is still unread; the
step to the next lexeme depends on nothing else.  Malformed lexemes are stood
on like any other, so that scanning goes on behind them.  `states` follows a
scanner to the end of the expression; it ends because every step leaves less
text unread.
-/

namespace XPathScan

/-- A place in an expression, on one of its lexemes. -/
structure Scanner where
  /-- The whole expression. -/
  source : Text
  /-- The offset behind the lexeme before the current one. -/
  previousStop : Nat
  /-- The kind of the lexeme before the current one, if there is one. -/
  previousKind : Option Kind
  /-- The offset of the current lexeme. -/
  start : Nat
  /-- The current lexeme. -/
  current : Lexeme
  /-- The text behind the current lexeme. -/
  unread : Text
  deriving DecidableEq

/-- Why an expression cannot be scanned. -/
inductive ScanError
  /-- No lexeme can start at this offset of an expression of this size. -/
  | outOfRange (offset size : Nat)
  | malformed (diagnostic : Diagnostic)
  deriving DecidableEq

/-- The wording of a scan error. -/
def ScanError.message : ScanError → Text
  | outOfRange offset size =>
      "start offset ".toList ++ Text.ofNat offset ++
        " is out of range for an expression of ".toList ++
        Text.ofNat size ++ " bytes".toList
  | malformed diagnostic => diagnostic.report

namespace Scanner

/-- Stand on the first lexeme of the text that begins at an offset. -/
def seek
    (source : Text) (offset : Nat) (previous : Option Kind) (unread : Text) :
    Scanner :=
  let found := Lexeme.read previous (unread.dropWhile isBlank)
  { source := source
    previousStop := offset
    previousKind := previous
    start := offset + Text.size (unread.takeWhile isBlank)
    current := found.1
    unread := found.2 }

/-- The kind of the current lexeme. -/
def kind (scanner : Scanner) : Kind :=
  scanner.current.kind

/-- The number of bytes of the current lexeme. -/
def size (scanner : Scanner) : Nat :=
  scanner.current.text.size

/-- The offset behind the current lexeme. -/
def stop (scanner : Scanner) : Nat :=
  scanner.start + scanner.size

/-- The span of the current lexeme. -/
def span (scanner : Scanner) : Span :=
  ⟨scanner.start, scanner.stop⟩

/-- The place of the current lexeme, for complaints. -/
def anchor (scanner : Scanner) : Anchor :=
  ⟨scanner.source, scanner.span⟩

/-- The diagnostic for the current lexeme, if it is malformed. -/
def diagnostic? (scanner : Scanner) : Option Diagnostic :=
  scanner.current.fault.map fun fault =>
    scanner.anchor.complain fault.complaint

/-- The kind of the current lexeme, or its diagnostic if it is malformed. -/
def outcome (scanner : Scanner) : Except Diagnostic Kind :=
  match scanner.diagnostic? with
  | some diagnostic => .error diagnostic
  | none => .ok scanner.kind

/--
Stand on the first lexeme at or behind an offset, which must be a boundary with
text behind it.
-/
def start? (source : Text) (offset : Nat) : Except ScanError Scanner :=
  match source.splitAt? offset with
  | some (_, first :: behind) =>
      let scanner := seek source offset none (first :: behind)
      match scanner.diagnostic? with
      | some diagnostic => .error (.malformed diagnostic)
      | none => .ok scanner
  | _ => .error (.outOfRange offset source.size)

/-- Step to the next lexeme.  There is no step from the end. -/
def next (scanner : Scanner) : Scanner :=
  if scanner.kind = .eof then
    scanner
  else
    seek scanner.source scanner.stop (some scanner.kind) scanner.unread

/-- Step to the next lexeme and tell its kind or its diagnostic. -/
def advance (scanner : Scanner) : Except Diagnostic Kind × Scanner :=
  (scanner.next.outcome, scanner.next)

/-! ## The current lexeme -/

/-- The current lexeme as written, or the form of the end. -/
def spelling (scanner : Scanner) : Text :=
  if scanner.kind = .eof then Kind.eofForm else scanner.current.text

/-- The current lexeme as a token. -/
def token (scanner : Scanner) : Token :=
  ⟨scanner.kind, scanner.span, scanner.spelling, scanner.current.payload⟩

/-- The axis that the current lexeme names. -/
def axis (scanner : Scanner) : Except Misuse Axis :=
  match scanner.current.payload with
  | .axis axis => .ok axis
  | _ => .error .notAnAxis

/-- The local name of the current lexeme. -/
def name (scanner : Scanner) : Except Misuse Text :=
  match scanner.current.payload with
  | .name _ word _ => .ok word
  | _ => .error .notAName

/-- The qualifier of the current lexeme; empty if it has none. -/
def qualifier (scanner : Scanner) : Except Misuse Text :=
  match scanner.current.payload with
  | .name qualifier _ _ => .ok qualifier
  | _ => .error .notAName

/-- Whether `(` follows the name on which the scanner stands at once. -/
def callable (scanner : Scanner) : Except Misuse Bool :=
  match scanner.current.payload with
  | .name _ _ callable => .ok callable
  | _ => .error .notAName

/-- The body of the string on which the scanner stands. -/
def body (scanner : Scanner) : Except Misuse Text :=
  match scanner.current.payload with
  | .string body => .ok body
  | _ => .error .notAString

/-! ## Runs -/

/-- A bound on the number of steps to the end. -/
def remaining (scanner : Scanner) : Nat :=
  if scanner.kind = .eof then 0 else scanner.unread.length + 1

theorem kind_seek_eq_eof_iff
    (source : Text) (offset : Nat) (previous : Option Kind) (unread : Text) :
    (seek source offset previous unread).kind = .eof ↔
      unread.dropWhile isBlank = [] :=
  Lexeme.kind_read_eq_eof_iff _ _

theorem remaining_seek_le
    (source : Text) (offset : Nat) (previous : Option Kind) (unread : Text) :
    (seek source offset previous unread).remaining ≤ unread.length := by
  unfold remaining
  split
  · exact Nat.zero_le _
  next inside =>
    rw [kind_seek_eq_eof_iff] at inside
    have shorter := Lexeme.length_rest_read_lt previous inside
    have suffix : unread.dropWhile isBlank <:+ unread :=
      List.dropWhile_suffix isBlank
    exact Nat.le_trans shorter suffix.length_le

/-- Every step that is made brings the end nearer. -/
theorem remaining_next_lt
    {scanner : Scanner} (inside : scanner.kind ≠ .eof) :
    scanner.next.remaining < scanner.remaining := by
  have bound := remaining_seek_le scanner.source scanner.stop
    (some scanner.kind) scanner.unread
  rw [next, if_neg inside]
  rw [remaining.eq_def scanner, if_neg inside]
  omega

/-- A scanner and all scanners that it steps to, up to the end. -/
def states (scanner : Scanner) : List Scanner :=
  if scanner.kind = .eof then
    [scanner]
  else
    scanner :: states scanner.next
termination_by scanner.remaining
decreasing_by exact remaining_next_lt ‹_›

end Scanner

end XPathScan
