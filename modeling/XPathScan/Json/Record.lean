import XPathScan.Json.Quoted

/-!
# Records in JSON

A record is a list of named scalars, and a document is an array of records.
They are laid out with one field a line and two spaces for every level.
-/

namespace XPathScan

namespace Json

/-- The value of a field. -/
inductive Scalar
  | text (content : Text)
  | number (value : Nat)
  | flag (holds : Bool)
  deriving DecidableEq

/-- Named values in a fixed order. -/
abbrev Record := List (Text × Scalar)

/-- A value as it is written. -/
def Scalar.render : Scalar → Text
  | .text content => quote content
  | .number value => Text.ofNat value
  | .flag true => "true".toList
  | .flag false => "false".toList

/-- What stands between the members of an array or an object. -/
def separator : Text :=
  [',', '\n']

/-- A field on a line of its own. -/
def renderField (field : Text × Scalar) : Text :=
  "    ".toList ++ quote field.1 ++ [':', ' '] ++ field.2.render

/-- A record as an object. -/
def renderRecord (record : Record) : Text :=
  ' ' :: ' ' :: '{' :: '\n' ::
    separator.intercalate (record.map renderField) ++
      ['\n', ' ', ' ', '}']

/-- Records as an array of objects. -/
def renderRecords : List Record → Text
  | [] => ['[', ']']
  | records =>
      '[' :: '\n' :: separator.intercalate (records.map renderRecord) ++
        ['\n', ']']

end Json

end XPathScan
