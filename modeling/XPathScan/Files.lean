import XPathScan.Text.Basic

/-!
# Files

What a path leads to, and the text of a file.  Commands see the file system as
a function from paths to entries, so that a run is determined by it.  That there
is something at the end of a path does not mean that it can be read.
-/

namespace XPathScan

/-- Why there is no text at the end of a path. -/
inductive FileFault
  /-- The system refuses, with a number and a wording for its reason. -/
  | system (code : Nat) (wording : Text)
  /-- The path holds the character that ends a path. -/
  | nameInterrupted
  | notText
  deriving DecidableEq

namespace FileFault

/-- There is nothing at the end of the path. -/
def notFound : FileFault :=
  system 2 "No such file or directory".toList

/-- The file may not be read. -/
def permissionDenied : FileFault :=
  system 13 "Permission denied".toList

/-- The path leads on from something that is no directory. -/
def notADirectory : FileFault :=
  system 20 "Not a directory".toList

/-- A directory has no text. -/
def isADirectory : FileFault :=
  system 21 "Is a directory".toList

def nameTooLong : FileFault :=
  system 36 "File name too long".toList

/-- The refusal with a number, and with a wording where none is known. -/
def ofCode (code : Nat) (wording : Text) : FileFault :=
  match code with
  | 2 => notFound
  | 13 => permissionDenied
  | 20 => notADirectory
  | 21 => isADirectory
  | 36 => nameTooLong
  | 40 => system 40 "Too many levels of symbolic links".toList
  | _ => system code wording

/-- The wording of a file fault. -/
def message : FileFault → Text
  | system code wording =>
      wording ++ " (os error ".toList ++ Text.ofNat code ++ [')']
  | nameInterrupted =>
      "file name contained an unexpected NUL byte".toList
  | notText => "stream did not contain valid UTF-8".toList

end FileFault

/-- What a path leads to. -/
inductive Entry
  /-- Nothing, as far as can be seen. -/
  | unreachable (fault : FileFault)
  /-- Something that cannot be read, such as a directory. -/
  | unreadable (fault : FileFault)
  | file (content : ByteArray)

/-- A file system as commands see it. -/
abbrev Files := Text → Entry

/-- Whether a path leads to anything. -/
def Entry.isPresent : Entry → Bool
  | unreadable _ | file _ => true
  | unreachable _ => false

/-- The text of a file in UTF-8. -/
def Entry.text : Entry → Except FileFault Text
  | unreachable fault => .error fault
  | unreadable fault => .error fault
  | file content =>
      match String.fromUTF8? content with
      | some text => .ok text.toList
      | none => .error .notText

end XPathScan
