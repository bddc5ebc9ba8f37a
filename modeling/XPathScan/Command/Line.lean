import XPathScan.Command.Scan
import XPathScan.Command.Switch

/-!
# Command lines

A command line is read from left to right, first at the level of the program up
to the word for a command, then at the level of that command.  The first mistake
ends the reading, and so does a question for the version or for help.  No switch
may be given twice at one level.  A shared switch that is given at the level of
the command wins over the level of the program, and both win over the
environment; but the variable of a switch is looked at wherever the switch is
not given, and must then be well formed.

An option whose value is an argument of its own is held: it is looked at with
what comes next at its level, or else at the end of the level.  The level of the
program ends behind that of the command, so a question for the version of a
command is answered before an option held in front of its word is looked at.
-/

namespace XPathScan

namespace Command

/-- The values of environment variables. -/
abbrev Environment := Text → Option Text

/-- Why there is nothing to run. -/
inductive Halt
  | usage (error : UsageError)
  | version (level : Level)
  | help
  deriving DecidableEq

/-- What is given at one level. -/
structure Given where
  /-- The switches with their values; the value of a flag is empty. -/
  switches : List (Switch × Text)
  /-- An option with its value that is yet to be looked at. -/
  held : Option (Switch × Text)
  /-- The arguments that name no switch. -/
  words : List Text
  deriving DecidableEq

namespace Given

/-- Nothing is given. -/
def nothing : Given :=
  ⟨[], none, []⟩

/-- The value of a switch, if it is given. -/
def value? (switch : Switch) (given : Given) : Option Text :=
  given.switches.lookup switch

/-- Whether a switch is given. -/
def has (switch : Switch) (given : Given) : Bool :=
  (given.value? switch).isSome

/-- Enter a switch with its value, if it is new and takes the value. -/
def enter (switch : Switch) (value : Text) (given : Given) :
    Except Halt Given :=
  if given.has switch then
    .error (.usage (.repeated switch))
  else if switch.accepts value then
    .ok { given with switches := (switch, value) :: given.switches }
  else
    .error (.usage (.badValue switch value))

/-- Look at the option that is held, if there is one. -/
def settle (given : Given) : Except Halt Given :=
  match given.held with
  | some (switch, value) => { given with held := none }.enter switch value
  | none => .ok given

/-- Add a switch with its value. -/
def add (level : Level) (switch : Switch) (value : Text) (given : Given) :
    Except Halt Given := do
  let given ← given.settle
  if switch = .version then
    .error (.version level)
  else if switch = .help then
    .error .help
  else
    given.enter switch value

/-- Hold an option with its value. -/
def hold (switch : Switch) (value : Text) (given : Given) :
    Except Halt Given := do
  let given ← given.settle
  return { given with held := some (switch, value) }

/-- Add a word.  Only one is wanted. -/
def addWord (given : Given) (word : Text) : Except Halt Given := do
  let given ← given.settle
  if given.words = [] then
    .ok { given with words := [word] }
  else
    .error (.usage (.surplusWord word))

/--
Add the switches that an argument names.  The last one may still await its
value.
-/
def addOccurrences (level : Level) :
    List Occurrence → Given → Except Halt (Given × Option Switch)
  | [], given => .ok (given, none)
  | .flag switch :: rest, given => do
      let given ← given.add level switch []
      addOccurrences level rest given
  | .option switch value :: rest, given => do
      let given ← given.add level switch value
      addOccurrences level rest given
  | .awaiting switch :: _, given => .ok (given, some switch)
  | .refused error :: _, _ => .error (.usage error)

end Given

/--
Read the arguments of a level, where the switch before them may await its
value.  At the level of the program the first word ends the reading and is
given back with all that follows it.
-/
def readArguments (level : Level) :
    Option Switch → Given → List Text → Except Halt (Given × List Text)
  | some switch, _, [] => .error (.usage (.missingValue switch))
  | none, given, [] => .ok (given, [])
  | some switch, given, argument :: rest =>
      if isDashed argument then
        .error (.usage (.missingValue switch))
      else do
        let given ← given.hold switch argument
        readArguments level none given rest
  | none, given, argument :: rest =>
      if argument = ['-', '-'] then
        if level = .program then
          .error (.usage .missingCommand)
        else do
          let given ← rest.foldlM Given.addWord given
          return (given, [])
      else if isDashed argument then do
        let (given, awaiting) ←
          given.addOccurrences level (level.occurrences argument)
        readArguments level awaiting given rest
      else if level = .program then
        .ok (given, argument :: rest)
      else do
        let given ← given.addWord argument
        readArguments level none given rest

/-- Look at the variable of a switch that is not given at a level. -/
def checkVariable
    (environment : Environment) (given : Given) (switch : Switch) :
    Except Halt Unit :=
  match given.has switch, switch.environmentName?.bind environment with
  | false, some value =>
      if switch.acceptsVariable value then
        .ok ()
      else
        .error (.usage (.badValue switch value))
  | _, _ => .ok ()

/-- Look at the variables of all switches that are not given at a level. -/
def checkVariables
    (environment : Environment) (given : Given) : Except Halt Unit :=
  Switch.shared.forM (checkVariable environment given)

/-- What is to be done with the expression. -/
inductive Action
  | tokens (request : ListingRequest)
  | check (start : Nat)
  deriving DecidableEq

/-- The task of an action. -/
def Action.task : Action → Task
  | tokens _ => .tokens
  | check _ => .check

/-- What a command line asks for. -/
structure Invocation where
  verbose : Bool
  noColor : Bool
  /-- The path of the settings file, if one is given. -/
  config : Option Text
  expression : Option Text
  /-- The path of a file with the expression, if one is given. -/
  file : Option Text
  action : Action
  deriving DecidableEq

/-- Whether a shared flag is set at one of the levels or in the environment. -/
def isSet
    (environment : Environment) (outer inner : Given) (switch : Switch) :
    Bool :=
  inner.has switch || outer.has switch ||
    switch.environmentName?.bind environment == some "true".toList

/-- The value of a shared option. -/
def sharedValue
    (environment : Environment) (outer inner : Given) (switch : Switch) :
    Option Text :=
  inner.value? switch <|> outer.value? switch <|>
    switch.environmentName?.bind environment

/-- What a command does with what it is given. -/
def actionOf (task : Task) (given : Given) : Action :=
  let start := ((given.value? .start).bind offset?).getD 0
  match task with
  | .tokens =>
      .tokens ⟨start, given.value? .format, given.has .spans⟩
  | .check => .check start

/-- The task that a word asks for. -/
def Task.ofWord? (word : Text) : Option Task :=
  [Task.tokens, Task.check].find? (·.word == word)

/-- The word that asks for help. -/
def helpWord : Text :=
  "help".toList

/-- Whether help can be given on some words. -/
def hasHelp : List Text → Bool
  | [] => true
  | [word] => word == helpWord || (Task.ofWord? word).isSome
  | _ => false

/-- What a command line asks for, or why there is nothing to run. -/
def parse (environment : Environment) (arguments : List Text) :
    Except Halt Invocation := do
  let (outer, rest) ← readArguments .program none .nothing arguments
  match rest with
  | [] => .error (.usage .missingCommand)
  | word :: rest =>
      match Task.ofWord? word with
      | none =>
          if word = helpWord ∧ hasHelp rest then
            .error .help
          else
            .error (.usage (.unknownCommand word))
      | some task => do
          let (inner, _) ← readArguments (.command task) none .nothing rest
          let inner ← inner.settle
          checkVariables environment inner
          let outer ← outer.settle
          checkVariables environment outer
          return {
            verbose := isSet environment outer inner .verbose
            noColor := isSet environment outer inner .noColor
            config := sharedValue environment outer inner .config
            expression := inner.words.head?
            file := inner.value? .file
            action := actionOf task inner }

end Command

end XPathScan
