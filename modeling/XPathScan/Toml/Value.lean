import XPathScan.Text.Basic

/-!
# Values and tables of TOML documents

A table keeps, beside its entries, how it came to be, since that decides who
may still add to it: a dotted key passes through tables made by dotted keys or
implied by the headers of their subtables, a header passes through every table,
and nothing is ever added to an inline table or to another value.  A key that
has been given a value is never given another.
-/

namespace XPathScan

namespace Toml

/-- How a table came to be. -/
inductive Origin
  /-- By the header of one of its subtables. -/
  | implied
  /-- By a dotted key. -/
  | dotted
  /-- By a header of its own, or as the document itself. -/
  | headed
  /-- By being written out as a value. -/
  | inline
  deriving DecidableEq

/-- What a key stands for. -/
inductive Value
  | string (content : Text)
  | integer (number : Int)
  | float
  | boolean (holds : Bool)
  | moment
  /-- An array that is written out as a value. -/
  | array (members : List Value)
  | table (origin : Origin) (entries : List (Text × Value))
  /-- The tables under one array header, the last one first. -/
  | tables (last : List (Text × Value)) (earlier : List (List (Text × Value)))

/-- The entries of a table. -/
abbrev Entries := List (Text × Value)

namespace Entries

/-- The value of a key. -/
def find? (key : Text) (entries : Entries) : Option Value :=
  entries.lookup key

/-- Give a key another value, or add it at the end. -/
def set (key : Text) (value : Value) : Entries → Entries
  | [] => [(key, value)]
  | entry :: rest =>
      if entry.1 = key then
        (key, value) :: rest
      else
        entry :: set key value rest

/-- Add a key that has no value yet. -/
def add? (key : Text) (value : Value) (entries : Entries) : Option Entries :=
  match find? key entries with
  | none => some (set key value entries)
  | some _ => none

end Entries

/-- What passes through a table on its way to another. -/
inductive Traveller
  | header
  | dottedKey
  deriving DecidableEq

/-- The table that a traveller makes where there is none. -/
def Traveller.makes : Traveller → Origin
  | header => .implied
  | dottedKey => .dotted

/-- Whether a traveller may pass through a table. -/
def Traveller.passes : Traveller → Origin → Bool
  | _, .inline => false
  | header, _ => true
  | dottedKey, .headed => false
  | dottedKey, _ => true

/--
Change the table at the end of a path.  The change is told how that table came
to be.  Tables on the way are made where they are missing, and of an array of
tables the last one is meant.
-/
def changeAt
    (traveller : Traveller) (change : Origin → Entries → Option Entries) :
    List Text → Origin → Entries → Option Entries
  | [], origin, entries => change origin entries
  | key :: path, _, entries =>
      match Entries.find? key entries with
      | none =>
          (changeAt traveller change path traveller.makes []).map fun inner =>
            Entries.set key (.table traveller.makes inner) entries
      | some (.table origin inner) =>
          if traveller.passes origin then
            (changeAt traveller change path origin inner).map fun inner =>
              Entries.set key (.table origin inner) entries
          else
            none
      | some (.tables last earlier) =>
          (changeAt traveller change path .headed last).map fun last =>
            Entries.set key (.tables last earlier) entries
      | some _ => none

/-- A path through tables and the key at its end. -/
structure Key where
  path : List Text
  last : Text
  deriving DecidableEq

/--
Give a key a value in a table.  The table at the end of a dotted path must
itself have been made by dotted keys.
-/
def assign (key : Key) (value : Value) : Origin → Entries → Option Entries :=
  changeAt .dottedKey
    (fun origin entries =>
      if key.path.isEmpty ∨ origin = .dotted then
        Entries.add? key.last value entries
      else
        none)
    key.path

/--
Open the table of a header.  It must be missing or implied so far.
-/
def openTable (key : Key) (document : Entries) : Option Entries :=
  changeAt .header
    (fun _ entries =>
      match Entries.find? key.last entries with
      | none => some (Entries.set key.last (.table .headed []) entries)
      | some (.table .implied inner) =>
          some (Entries.set key.last (.table .headed inner) entries)
      | some _ => none)
    key.path .headed document

/-- Add a table to the array of tables of a header. -/
def addTable (key : Key) (document : Entries) : Option Entries :=
  changeAt .header
    (fun _ entries =>
      match Entries.find? key.last entries with
      | none => some (Entries.set key.last (.tables [] []) entries)
      | some (.tables last earlier) =>
          some (Entries.set key.last (.tables [] (last :: earlier)) entries)
      | some _ => none)
    key.path .headed document

/-- Give a key a value in the table that the last header opened. -/
def assignUnder
    (header : List Text) (key : Key) (value : Value) (document : Entries) :
    Option Entries :=
  changeAt .header (assign key value) header .headed document

end Toml

end XPathScan
