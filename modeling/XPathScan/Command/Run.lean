import XPathScan.Command.Line

/-!
# Runs of commands

A run goes through stages: the settings, the expression, the form of the
listing, the lexemes.  The first stage that fails ends the run, and nothing but
its failure is told.  Exactly one settings file is looked at: the given one,
else the one in the working directory, else the one of the user; if there is
none, the standard settings hold.  How the text of a settings file is understood
is left to a reader, which a run is given.
-/

namespace XPathScan

namespace Command

/-- The name of settings files. -/
def settingsName : Text :=
  "xpt.toml".toList

/-- The first path that leads to something. -/
def firstPresent? (files : Files) (paths : List Text) : Option Text :=
  paths.find? fun path => (files path).isPresent

/-- The settings file that is looked at, if there is one. -/
def settingsPath?
    (files : Files) (given userPath : Option Text) : Option Text :=
  match given with
  | some path => some path
  | none => firstPresent? files (settingsName :: userPath.toList)

/-- How the text of a settings file is read: as settings, or with a reason why
it says none. -/
abbrev SettingsReader := Text → Except Text Settings

/-- The settings in a file. -/
def readSettings (reader : SettingsReader) (files : Files) (path : Text) :
    Except Failure Settings :=
  if (files path).isPresent then
    match (files path).text with
    | .error fault => .error (.unreadable fault)
    | .ok content => (reader content).mapError .settingsMalformed
  else
    .error (.settingsMissing path)

/-- The settings for a run. -/
def loadSettings
    (reader : SettingsReader) (files : Files)
    (given userPath : Option Text) : Except Failure Settings :=
  match settingsPath? files given userPath with
  | some path => readSettings reader files path
  | none => .ok .standard

/-- Do what is to be done with an expression. -/
def Action.perform
    (settings : Settings) (expression : Text) : Action → Report
  | tokens request => listTokens settings request expression
  | check start => Command.check start expression

/-- Run a command once its settings are known. -/
def Invocation.perform
    (files : Files) (settings : Settings) (invocation : Invocation) : Report :=
  match readExpression files invocation.expression invocation.file with
  | .error failure => .failed failure
  | .ok expression =>
      (invocation.action.perform settings expression).after
        [.executing invocation.action.task]

/-- What a run leaves behind. -/
structure Outcome where
  /-- The output, or why there is none. -/
  result : Except Failure Text
  /-- The log entries, in order. -/
  log : List Text
  /-- Whether log entries are coloured. -/
  colored : Bool

/-- The exit code of a run. -/
def Outcome.exitCode (outcome : Outcome) : Nat :=
  match outcome.result with
  | .ok _ => 0
  | .error _ => 1

/-- What a run prints. -/
def Outcome.output (outcome : Outcome) : Text :=
  match outcome.result with
  | .ok output => output
  | .error _ => []

/-- Whether an event is logged. -/
def isLogged (verbose : Bool) (event : Event) : Bool :=
  verbose || !event.isDetail

/-- What a report leaves behind under some settings. -/
def Invocation.outcome
    (settings : Settings) (invocation : Invocation) (report : Report) :
    Outcome where
  result := report.result
  log :=
    let verbose := invocation.verbose || settings.verbose
    (report.events.filter (isLogged verbose)).map Event.entry
  colored := !invocation.noColor

@[simp]
theorem Invocation.result_outcome
    (settings : Settings) (invocation : Invocation) (report : Report) :
    (invocation.outcome settings report).result = report.result := rfl

/-- What a run without settings leaves behind. -/
def Invocation.refused (invocation : Invocation) (failure : Failure) :
    Outcome :=
  ⟨.error failure, [], !invocation.noColor⟩

/-- Run a command. -/
def Invocation.run
    (reader : SettingsReader) (files : Files) (userPath : Option Text)
    (invocation : Invocation) : Outcome :=
  match loadSettings reader files invocation.config userPath with
  | .error failure => invocation.refused failure
  | .ok settings =>
      invocation.outcome settings (invocation.perform files settings)

/-- The settings file of a user, given two directories that may hold it. -/
def userSettings? (configHome home : Option Text) : Option Text :=
  let inDirectory (directory : Text) : Text :=
    directory ++ "/xpt/".toList ++ settingsName
  match configHome, home with
  | some ('/' :: directory), _ => some (inDirectory ('/' :: directory))
  | _, some directory => some (inDirectory (directory ++ "/.config".toList))
  | _, none => none

/-- The paths that a run may look at. -/
def Invocation.paths
    (userPath : Option Text) (invocation : Invocation) : List Text :=
  invocation.config.toList ++ settingsName :: userPath.toList ++
    invocation.file.toList

/-- The name of the program. -/
def programName : Text :=
  "xpt".toList

/-- The line that names the version of a level. -/
def versionLine (level : Level) : Text :=
  let name :=
    match level with
    | .program => programName
    | .command task => programName ++ '-' :: task.word
  name ++ " 0.1.0\n".toList

end Command

end XPathScan
