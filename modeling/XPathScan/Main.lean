import XPathScan.Command.Run

/-!
# The program

Arguments, environment and files are handed to `Command.parse` and
`Invocation.run`, with `Settings.read` as the reader of settings, and what they
leave behind is printed.
-/

namespace XPathScan

namespace Program

/-- The value of an environment variable. -/
def environmentValue (name : Text) : IO (Option Text) := do
  let value ← IO.getEnv (String.ofList name)
  return value.map String.toList

/-- The refusal with a number that may be counted downwards from zero. -/
def refusal (code : UInt32) (wording : String) : FileFault :=
  let number := if code < 0x80000000 then code else 0 - code
  .ofCode number.toNat wording.toList

/-- Why a file cannot be read. -/
def fileFault (error : IO.Error) : FileFault :=
  match error with
  | .noFileOrDirectory _ code wording
  | .interrupted _ code wording
  | .alreadyExists _ code wording
  | .invalidArgument _ code wording
  | .permissionDenied _ code wording
  | .resourceExhausted _ code wording
  | .inappropriateType _ code wording
  | .noSuchThing _ code wording
  | .otherError code wording
  | .resourceBusy code wording
  | .resourceVanished code wording
  | .unsupportedOperation code wording
  | .hardwareFault code wording
  | .unsatisfiedConstraints code wording
  | .illegalOperation code wording
  | .protocolError code wording
  | .timeExpired code wording => refusal code wording
  | .unexpectedEof => .system 0 "unexpected end of file".toList
  | .userError wording => .system 0 wording.toList

/-- What a path leads to.  What cannot be read may be there all the same. -/
def entry (path : Text) : IO Entry := do
  if '\x00' ∈ path then
    return .unreachable .nameInterrupted
  try
    return .file (← IO.FS.readBinFile (String.ofList path))
  catch error =>
    let fault := fileFault error
    try
      let _ ← IO.FS.realPath (String.ofList path)
      return .unreadable fault
    catch _ =>
      return .unreachable fault

/-- The environment as far as it bears on the command line. -/
def environment : IO Command.Environment := do
  let names := Command.Switch.shared.filterMap
    Command.Switch.environmentName?
  let values ← names.filterMapM fun name => do
    return (← environmentValue name).map (name, ·)
  return fun name => values.lookup name

/-- The files at some paths. -/
def snapshot (paths : List Text) : IO Files := do
  let entries ← paths.mapM fun path => return (path, ← entry path)
  return fun path => (entries.lookup path).getD (.unreachable .notFound)

/-- A log entry, faint where colours are wanted. -/
def decorate (colored : Bool) (entry : Text) : String :=
  if colored then
    "\x1b[2m" ++ String.ofList entry ++ "\x1b[0m"
  else
    String.ofList entry

/-- Print what a run leaves behind, and give back its exit code. -/
def print (outcome : Command.Outcome) : IO UInt32 := do
  for entry in outcome.log do
    IO.eprintln (decorate outcome.colored entry)
  IO.print (String.ofList outcome.output)
  match outcome.result with
  | .ok _ => pure ()
  | .error failure =>
      IO.eprintln ("error: " ++ String.ofList failure.message)
  return outcome.exitCode.toUInt32

/-- Do what a command line asks for. -/
def run (arguments : List Text) : IO UInt32 := do
  match Command.parse (← environment) arguments with
  | .ok invocation =>
      let userPath := Command.userSettings?
        (← environmentValue "XDG_CONFIG_HOME".toList)
        (← environmentValue "HOME".toList)
      let files ← snapshot (invocation.paths userPath)
      print (invocation.run Settings.read files userPath)
  | .error (.version level) =>
      IO.print (String.ofList (Command.versionLine level))
      return 0
  | .error .help =>
      IO.println "usage: xpt [tokens | check] [options] [expression]"
      return 0
  | .error (.usage error) =>
      IO.eprintln ("error: " ++ String.ofList error.message)
      return 2

end Program

end XPathScan

/-- Scan XPath expressions from the command line. -/
def main (arguments : List String) : IO UInt32 :=
  XPathScan.Program.run (arguments.map String.toList)
