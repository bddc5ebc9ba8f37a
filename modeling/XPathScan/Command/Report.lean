import XPathScan.Files
import XPathScan.Listing
import XPathScan.Scanner.Stream

/-!
# Reports of commands

A command ends in its output or in one failure, and leaves log entries on the
way.  Failures are causes; their wording is in `Failure.message`.
-/

namespace XPathScan

namespace Command

/-- Why a command has no output. -/
inductive Failure
  | settingsMissing (path : Text)
  /-- The text of the settings file is no document, or not one of settings. -/
  | settingsMalformed (reason : Text)
  | unreadable (fault : FileFault)
  | twoExpressions
  | noExpression
  | unknownFormat (word : Text)
  /-- The expression cannot be scanned from its start on. -/
  | unscannable (error : ScanError)
  /-- A lexeme behind the first one is malformed. -/
  | malformed (diagnostic : Diagnostic)
  deriving DecidableEq

/-- The wording of a failure. -/
def Failure.message : Failure → Text
  | settingsMissing path =>
      "Configuration error: Configuration file not found: ".toList ++ path
  | settingsMalformed reason =>
      "Configuration error: Failed to parse configuration: ".toList ++ reason
  | unreadable fault => "IO error: ".toList ++ fault.message
  | twoExpressions =>
      "Validation error: Give either an expression or --file, ".toList ++
        "not both".toList
  | noExpression =>
      "Validation error: No expression given; pass one or use --file".toList
  | unknownFormat word =>
      "Validation error: Unknown format: ".toList ++ word
  | unscannable error => error.message
  | malformed diagnostic => diagnostic.report

/-- What a command does with an expression. -/
inductive Task
  | tokens
  | check
  deriving DecidableEq

/-- The word for a task. -/
def Task.word : Task → Text
  | tokens => "tokens".toList
  | check => "check".toList

/-- The word for a form of listings in log entries. -/
def formatLabel : Listing.Format → Text
  | .text => "Text".toList
  | .json => "Json".toList

/-- What happens in a command. -/
inductive Event
  | executing (task : Task)
  | scanning (start : Nat) (format : Listing.Format)
  | lexicalError (diagnostic : Diagnostic)
  | scanned (count : Nat)
  | valid (count : Int32)
  deriving DecidableEq

/-- Whether an event is logged only where details are wanted. -/
def Event.isDetail : Event → Bool
  | executing _ | scanning _ _ | lexicalError _ => true
  | scanned _ | valid _ => false

/-- The log entry of an event. -/
def Event.entry : Event → Text
  | executing task =>
      "DEBUG executing command=\"".toList ++ task.word ++ ['"']
  | scanning start format =>
      "DEBUG scanning expression start=".toList ++ Text.ofNat start ++
        " format=".toList ++ formatLabel format
  | lexicalError diagnostic =>
      "DEBUG lexical error kind=".toList ++ diagnostic.category.display ++
        " span=".toList ++ diagnostic.span.display
  | scanned count =>
      "INFO scanned tokens count=".toList ++ Text.ofNat count
  | valid count =>
      "INFO expression is lexically valid count=".toList ++
        Text.ofInt count.toInt

/-- What a command leaves behind. -/
structure Report where
  /-- What happened, in order. -/
  events : List Event
  /-- The output, or why there is none. -/
  result : Except Failure Text

/-- Put events in front of a report. -/
def Report.after (events : List Event) (report : Report) : Report :=
  { report with events := events ++ report.events }

/-- A report of a failure without events. -/
def Report.failed (failure : Failure) : Report :=
  ⟨[], .error failure⟩

end Command

end XPathScan
