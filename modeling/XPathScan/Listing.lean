import XPathScan.Json.Record
import XPathScan.Token

/-!
# Listings of tokens

Tokens are listed either as text, one line for each, or as JSON, one record
for each.  A line may be preceded by the span of its token.  A record has a
field for everything that its token carries and no other.
-/

namespace XPathScan

namespace Listing

/-- The two forms of a listing. -/
inductive Format
  | text
  | json
  deriving DecidableEq

/-- The form that a word names, in upper or lower case. -/
def Format.ofName? (word : Text) : Option Format :=
  let lowered := word.map Char.toLower
  if lowered = "text".toList ∨ lowered = "txt".toList then
    some .text
  else if lowered = "json".toList then
    some .json
  else
    none

/-- The least number of columns that a span takes up. -/
def spanWidth : Nat := 9

/-- The line for a token, with its line feed. -/
def line (withSpan : Bool) (token : Token) : Text :=
  let place :=
    if withSpan then
      Text.alignRight spanWidth token.span.display ++ [' ', ' ']
    else
      []
  place ++ token.display ++ ['\n']

/-- The lines for some tokens. -/
def renderLines (withSpans : Bool) (tokens : List Token) : Text :=
  tokens.flatMap (line withSpans)

/-- The fields for what a token carries. -/
def payloadFields : Payload → Json.Record
  | .nothing => []
  | .name qualifier word callable =>
      [("prefix".toList, .text qualifier), ("name".toList, .text word),
        ("can_be_function".toList, .flag callable)]
  | .string body => [("value".toList, .text body)]
  | .axis axis =>
      match axis.spelling? with
      | some word => [("axis".toList, .text word)]
      | none => []

/-- The record for a token. -/
def record (token : Token) : Json.Record :=
  ("kind".toList, .text token.kind.label) ::
    ("start".toList, .number token.span.start) ::
    ("end".toList, .number token.span.stop) ::
    ("text".toList, .text token.text) ::
    payloadFields token.payload

/-- The records for some tokens. -/
def renderJson (tokens : List Token) : Text :=
  Json.renderRecords (tokens.map record)

end Listing

end XPathScan
