import XPathScan.Toml.Document

/-!
# Settings

Settings are read from a TOML document.  Keys without a meaning are ignored,
missing keys have defaults, and a value of another type than its key demands is
refused together with the whole document.
-/

namespace XPathScan

/-- What a settings file says. -/
structure Settings where
  /-- Whether detailed log entries are wanted. -/
  verbose : Bool
  /-- The word for the form of listings. -/
  format : Text
  /-- Whether listings show spans. -/
  showSpans : Bool
  deriving DecidableEq

namespace Settings

/-- The settings where no file says otherwise. -/
def standard : Settings :=
  ⟨false, "text".toList, false⟩

/-- The text that a value is, if it is one. -/
def text? : Toml.Value → Option Text
  | .string content => some content
  | _ => none

/-- The truth value that a value is, if it is one. -/
def flag? : Toml.Value → Option Bool
  | .boolean holds => some holds
  | _ => none

/-- The value of a key read in a given way, or a default if it is missing. -/
def field {α : Type} (read : Toml.Value → Option α) (default : α)
    (key : Text) (entries : Toml.Entries) : Option α :=
  match entries.find? key with
  | none => some default
  | some value => read value

/-- The member of an array read in a given way, or a default behind its end. -/
def member {α : Type} (read : Toml.Value → Option α) (default : α)
    (index : Nat) (members : List Toml.Value) : Option α :=
  match members[index]? with
  | none => some default
  | some value => read value

/--
Take the output settings from the value of their key: a table, or an array of
the two settings in order.  A moment says nothing about them.
-/
def withOutput (settings : Settings) : Toml.Value → Option Settings
  | .table _ entries => do
      let format ← field text? settings.format "format".toList entries
      let showSpans ←
        field flag? settings.showSpans "show_spans".toList entries
      return { settings with format := format, showSpans := showSpans }
  | .array members => do
      let format ← member text? settings.format 0 members
      let showSpans ← member flag? settings.showSpans 1 members
      return { settings with format := format, showSpans := showSpans }
  | .moment => some settings
  | _ => none

/-- The settings in the entries of a document. -/
def ofEntries? (entries : Toml.Entries) : Option Settings := do
  let verbose ← field flag? standard.verbose "verbose".toList entries
  let settings := { standard with verbose := verbose }
  match entries.find? "output".toList with
  | none => return settings
  | some value => settings.withOutput value

/-- The settings in a document, if it is well formed. -/
def parse? (document : Text) : Option Settings :=
  (Toml.parse? document).bind ofEntries?

/-- The settings in a document, or what is wrong with it. -/
def read (document : Text) : Except Text Settings :=
  match parse? document with
  | some settings => .ok settings
  | none => .error "malformed document".toList

end Settings

end XPathScan
