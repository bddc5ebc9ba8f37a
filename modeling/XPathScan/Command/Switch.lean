import XPathScan.Command.Report

/-!
# Switches of the command line

The options and flags that may be given, at which level they may be given, how
one argument names them, and which values they take.  An option takes a value,
a flag does not.  The level of the program has the switches that every command
shares; each command adds its own.
-/

namespace XPathScan

namespace Command

/-- The options and flags. -/
inductive Switch
  | verbose
  | config
  | noColor
  | version
  | help
  | file
  | start
  | format
  | spans
  deriving DecidableEq

/-- Where a switch is given: before the word for a command or behind it. -/
inductive Level
  | program
  | command (task : Task)
  deriving DecidableEq

namespace Switch

/-- The long name of a switch, without its dashes. -/
def long : Switch → Text
  | verbose => "verbose".toList
  | config => "config".toList
  | noColor => "no-color".toList
  | version => "version".toList
  | help => "help".toList
  | file => "file".toList
  | start => "start".toList
  | format => "format".toList
  | spans => "spans".toList

/-- The letter for a switch, if it has one. -/
def letter? : Switch → Option Char
  | verbose => some 'v'
  | config => some 'c'
  | noColor => none
  | version => some 'V'
  | help => some 'h'
  | file => some 'f'
  | start => some 's'
  | format => some 'F'
  | spans => none

/-- Whether a switch takes a value. -/
def takesValue : Switch → Bool
  | config | file | start | format => true
  | verbose | noColor | version | help | spans => false

/-- The environment variable that stands in for a switch. -/
def environmentName? : Switch → Option Text
  | verbose => some "XPT_VERBOSE".toList
  | config => some "XPT_CONFIG".toList
  | noColor => some "XPT_NO_COLOR".toList
  | _ => none

/-- The switches that may be given at every level. -/
def shared : List Switch :=
  [verbose, config, noColor, version, help]

end Switch

/-- The switches that may be given at a level. -/
def Level.switches : Level → List Switch
  | program => Switch.shared
  | command .tokens =>
      Switch.shared ++ [.file, .start, .format, .spans]
  | command .check => Switch.shared ++ [.file, .start]

/-- Why a command line is refused. -/
inductive UsageError
  | unknownArgument (argument : Text)
  | unexpectedValue (switch : Switch)
  | missingValue (switch : Switch)
  | repeated (switch : Switch)
  | badValue (switch : Switch) (value : Text)
  | surplusWord (word : Text)
  | unknownCommand (word : Text)
  | missingCommand
  deriving DecidableEq

/-- A switch as it is written in full. -/
def Switch.display (switch : Switch) : Text :=
  '-' :: '-' :: switch.long

/-- The wording of a usage error. -/
def UsageError.message : UsageError → Text
  | unknownArgument argument => "unknown argument: ".toList ++ argument
  | unexpectedValue switch =>
      switch.display ++ " takes no value".toList
  | missingValue switch => switch.display ++ " needs a value".toList
  | repeated switch => switch.display ++ " is given twice".toList
  | badValue switch value =>
      switch.display ++ " cannot be '".toList ++ value ++ ['\'']
  | surplusWord word => "unexpected argument: ".toList ++ word
  | unknownCommand word => "unknown command: ".toList ++ word
  | missingCommand => "a command is needed: tokens or check".toList

/-! ## Values -/

/-- The least number above all offsets. -/
def offsetBound : Nat :=
  Nat.pow 2 64

/-- The offset that decimal digits spell, behind a plus sign or none. -/
def offset? (value : Text) : Option Nat :=
  let digits : Text :=
    match value with
    | '+' :: digits => digits
    | digits => digits
  if digits ≠ [] ∧ digits.all isDigit ∧ digits.toNat < offsetBound then
    some digits.toNat
  else
    none

/-- Whether a switch takes a value on the command line. -/
def Switch.accepts (switch : Switch) (value : Text) : Bool :=
  match switch with
  | config | file => value != []
  | start => (offset? value).isSome
  | _ => true

/-- Whether the variable of a switch may have a value. -/
def Switch.acceptsVariable (switch : Switch) (value : Text) : Bool :=
  if switch.takesValue then
    switch.accepts value
  else
    value == "true".toList || value == "false".toList

/-! ## Arguments that begin with a dash -/

/-- How an argument names a switch. -/
inductive Occurrence
  | flag (switch : Switch)
  | option (switch : Switch) (value : Text)
  /-- The value must be the next argument. -/
  | awaiting (switch : Switch)
  | refused (error : UsageError)
  deriving DecidableEq

/-- Whether an argument begins with a dash and is not a dash alone. -/
def isDashed : Text → Bool
  | '-' :: _ :: _ => true
  | _ => false

/-- The switch that a long name names, with its value behind an equals sign. -/
def Level.longOccurrence (level : Level) (argument : Text) : Occurrence :=
  let name := argument.takeWhile (· != '=')
  match level.switches.find? (·.long == name) with
  | none => .refused (.unknownArgument ('-' :: '-' :: argument))
  | some switch =>
      match switch.takesValue, argument.dropWhile (· != '=') with
      | true, [] => .awaiting switch
      | true, _ :: value => .option switch value
      | false, [] => .flag switch
      | false, _ :: _ => .refused (.unexpectedValue switch)

/--
The switches that letters name.  What follows the letter of an option is its
value, with or without an equals sign between them.
-/
def Level.letterOccurrences (level : Level) : Text → List Occurrence
  | [] => []
  | letter :: rest =>
      match level.switches.find? (·.letter? == some letter) with
      | none => [.refused (.unknownArgument ['-', letter])]
      | some switch =>
          if switch.takesValue then
            match rest with
            | [] => [.awaiting switch]
            | '=' :: value => [.option switch value]
            | value => [.option switch value]
          else
            .flag switch :: level.letterOccurrences rest

/-- The switches that an argument names, from left to right. -/
def Level.occurrences (level : Level) : Text → List Occurrence
  | '-' :: '-' :: argument => [level.longOccurrence argument]
  | '-' :: letters => level.letterOccurrences letters
  | _ => []

end Command

end XPathScan
