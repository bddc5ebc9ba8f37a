import Mathlib.Data.List.Forall2
import XPathScan.Listing
import XPathScan.Proofs.Json.Records
import XPathScan.Proofs.Lexeme.Payload
import XPathScan.Proofs.Scanner.Pull

/-!
# Listings in JSON lose nothing

The records of a listing are read back as objects.  `Describes` says what an
object shows of its token: the kind, the place and the text always, and what the
token carries in the fields that go with its kind and in no others.  A token is
found again in what its object shows (`Describes.token?_eq`), and so the tokens
of a scan are found again in their listing (`renderJson_lossless`).
-/

namespace XPathScan

namespace Listing

open Json (Value)

/-- The fields of an object as it is read. -/
abbrev Object := List (Text × Value)

/-! ## What an object shows -/

/-- The names of the fields that objects may have. -/
def fieldNames : List Text :=
  ["kind".toList, "start".toList, "end".toList, "text".toList,
    "prefix".toList, "name".toList, "can_be_function".toList,
    "value".toList, "axis".toList]

/-- An object shows what a token of a kind carries, and nothing else of it. -/
structure Shows (object : Object) (kind : Kind) (payload : Payload) : Prop where
  name :
    kind = .name →
      ∃ qualifier word callable,
        payload = .name qualifier word callable ∧
          object.lookup "prefix".toList = some (.text qualifier) ∧
          object.lookup "name".toList = some (.text word) ∧
          object.lookup "can_be_function".toList = some (.flag callable)
  no_name :
    kind ≠ .name →
      object.lookup "prefix".toList = none ∧
        object.lookup "name".toList = none ∧
        object.lookup "can_be_function".toList = none
  string :
    kind = .string →
      ∃ body,
        payload = .string body ∧
          object.lookup "value".toList = some (.text body)
  no_string : kind ≠ .string → object.lookup "value".toList = none
  axis :
    kind = .axis →
      ∃ named word,
        payload = .axis named ∧ named.spelling? = some word ∧
          object.lookup "axis".toList = some (.text word)
  no_axis : kind ≠ .axis → object.lookup "axis".toList = none
  /-- There is nothing else that could be shown. -/
  bare : kind ∉ [.name, .string, .axis] → payload = .nothing

/-- An object describes a token. -/
structure Describes (object : Object) (token : Token) : Prop where
  /-- No field is unknown, and none is there twice. -/
  fields : (object.map Prod.fst).Sublist fieldNames
  kind : object.lookup "kind".toList = some (.text token.kind.label)
  start :
    object.lookup "start".toList =
      some (.number (Text.ofNat token.span.start))
  stop :
    object.lookup "end".toList =
      some (.number (Text.ofNat token.span.stop))
  text : object.lookup "text".toList = some (.text token.text)
  shows : Shows object token.kind token.payload

/-- The record for a token, as it is read. -/
def object (token : Token) : Object :=
  (record token).map fun (name, scalar) => (name, .ofScalar scalar)

theorem payloadFields_axis {named : Axis} {word : Text}
    (spelled : named.spelling? = some word) :
    payloadFields (.axis named) = [("axis".toList, .text word)] := by
  rw [payloadFields, spelled]

theorem names_object (token : Token) :
    ((object token).map Prod.fst).Sublist fieldNames := by
  rcases token with ⟨kind, span, text, payload⟩
  cases payload with
  | axis named =>
      cases named <;> exact List.isSublist_iff_sublist.1 rfl
  | _ => exact List.isSublist_iff_sublist.1 rfl

/-- What goes with a kind is shown. -/
theorem shows_object {token : Token}
    (carries : Carries token.kind token.payload) :
    Shows (object token) token.kind token.payload := by
  rcases token with ⟨kind, span, text, payload⟩
  change Carries kind payload at carries
  cases carries with
  | name qualifier word callable =>
      exact
        { name := fun _ => ⟨qualifier, word, callable, rfl, rfl, rfl, rfl⟩
          no_name := fun other => absurd rfl other
          string := nofun
          no_string := fun _ => rfl
          axis := nofun
          no_axis := fun _ => rfl
          bare := fun other => absurd List.mem_cons_self other }
  | string body =>
      exact
        { name := nofun
          no_name := fun _ => ⟨rfl, rfl, rfl⟩
          string := fun _ => ⟨body, rfl, rfl⟩
          no_string := fun other => absurd rfl other
          axis := nofun
          no_axis := fun _ => rfl
          bare := fun other =>
            absurd (.tail _ List.mem_cons_self) other }
  | @axis named listed =>
      rcases Option.isSome_iff_exists.1 (Axis.mem_named_iff.1 listed) with
        ⟨word, spelled⟩
      rw [object, record, payloadFields_axis spelled]
      exact
        { name := nofun
          no_name := fun _ => ⟨rfl, rfl, rfl⟩
          string := nofun
          no_string := fun _ => rfl
          axis := fun _ => ⟨named, word, rfl, spelled, rfl⟩
          no_axis := fun other => absurd rfl other
          bare := fun other =>
            absurd (.tail _ (.tail _ List.mem_cons_self)) other }
  | nothing other =>
      simp only [List.mem_cons, List.not_mem_nil, or_false, not_or] at other
      exact
        { name := fun kind => absurd kind other.1
          no_name := fun _ => ⟨rfl, rfl, rfl⟩
          string := fun kind => absurd kind other.2.1
          no_string := fun _ => rfl
          axis := fun kind => absurd kind other.2.2
          no_axis := fun _ => rfl
          bare := fun _ => rfl }

/-- A record describes its token. -/
theorem describes_object {token : Token}
    (carries : Carries token.kind token.payload) :
    Describes (object token) token where
  fields := names_object token
  kind := rfl
  start := rfl
  stop := rfl
  text := rfl
  shows := shows_object carries

/-! ## Tokens from objects -/

/-- The text in a field. -/
def textField? (object : Object) (name : Text) : Option Text :=
  match object.lookup name with
  | some (.text content) => some content
  | _ => none

/-- The number in a field. -/
def numberField? (object : Object) (name : Text) : Option Nat :=
  match object.lookup name with
  | some (.number literal) => some literal.toNat
  | _ => none

/-- The flag in a field. -/
def flagField? (object : Object) (name : Text) : Option Bool :=
  match object.lookup name with
  | some (.flag holds) => some holds
  | _ => none

/-- What a token of a kind carries, by its object. -/
def payload? (object : Object) : Kind → Option Payload
  | .name => do
      let qualifier ← textField? object "prefix".toList
      let word ← textField? object "name".toList
      let callable ← flagField? object "can_be_function".toList
      some (.name qualifier word callable)
  | .string => (textField? object "value".toList).map .string
  | .axis => do
      let spelling ← textField? object "axis".toList
      some (.axis (Axis.ofSpelling spelling))
  | _ => some .nothing

/-- The token that an object describes. -/
def token? : Value → Option Token
  | .object fields => do
      let label ← textField? fields "kind".toList
      let kind ← Kind.ofLabel? label
      let start ← numberField? fields "start".toList
      let stop ← numberField? fields "end".toList
      let text ← textField? fields "text".toList
      let payload ← payload? fields kind
      some ⟨kind, ⟨start, stop⟩, text, payload⟩
  | _ => none

/-- The tokens that an array describes. -/
def tokens? : Value → Option (List Token)
  | .array members => members.mapM token?
  | _ => none

section

variable {object : Object}

theorem textField?_eq {name content : Text}
    (shown : object.lookup name = some (.text content)) :
    textField? object name = some content := by
  rw [textField?, shown]

theorem numberField?_eq {name : Text} {number : Nat}
    (shown : object.lookup name = some (.number (Text.ofNat number))) :
    numberField? object name = some number := by
  rw [numberField?, shown]
  exact congrArg some (Text.toNat_ofNat number)

theorem flagField?_eq {name : Text} {holds : Bool}
    (shown : object.lookup name = some (.flag holds)) :
    flagField? object name = some holds := by
  rw [flagField?, shown]

/-- What is shown of a kind is found again. -/
theorem Shows.payload?_eq {kind : Kind} {payload : Payload}
    (shows : Shows object kind payload) :
    payload? object kind = some payload := by
  unfold payload?
  split
  next =>
    rcases shows.name rfl with
      ⟨qualifier, word, callable, rfl, prefixed, named, called⟩
    simp only [textField?_eq prefixed, textField?_eq named,
      flagField?_eq called, Option.bind_eq_bind, Option.bind_some]
  next =>
    rcases shows.string rfl with ⟨body, rfl, shown⟩
    simp only [textField?_eq shown, Option.map_some]
  next =>
    rcases shows.axis rfl with ⟨named, word, rfl, spelled, shown⟩
    simp only [textField?_eq shown, Axis.ofSpelling_of_spelling? spelled,
      Option.bind_eq_bind, Option.bind_some]
  next no_name no_string no_axis =>
    rw [shows.bare]
    simp only [List.mem_cons, List.not_mem_nil, or_false, not_or]
    exact ⟨no_name, no_string, no_axis⟩

/-- A token is found again in what its object shows. -/
theorem Describes.token?_eq {token : Token}
    (describes : Describes object token) :
    token? (.object object) = some token := by
  simp only [token?, textField?_eq describes.kind, Kind.ofLabel?_label,
    numberField?_eq describes.start, numberField?_eq describes.stop,
    textField?_eq describes.text, describes.shows.payload?_eq,
    Option.bind_eq_bind, Option.bind_some]

end

/-- Tokens are found again in their objects. -/
theorem tokens?_of_describes {objects : List Object} {tokens : List Token}
    (describe : List.Forall₂ Describes objects tokens) :
    tokens? (.array (objects.map .object)) = some tokens := by
  induction describe with
  | nil => rfl
  | cons describes _ induction =>
      simp only [tokens?, List.map_cons, List.mapM_cons] at induction ⊢
      simp [describes.token?_eq, induction]

/-! ## Listings -/

/-- A listing is read as the array of its records. -/
theorem read?_renderJson (tokens : List Token) :
    Json.read? (renderJson tokens) =
      some (.array ((tokens.map object).map .object)) := by
  have read := @Json.read?_renderRecords (tokens.map record) [] nofun
  rw [List.append_nil, List.map_map] at read
  rw [renderJson, List.map_map, read]
  rfl

/-- Tokens are read back from their listing. -/
theorem lossless_of_carries {tokens : List Token}
    (carry : ∀ token ∈ tokens, Carries token.kind token.payload) :
    ∃ objects,
      Json.read? (renderJson tokens) =
          some (.array (objects.map .object)) ∧
        List.Forall₂ Describes objects tokens ∧
        tokens? (.array (objects.map .object)) = some tokens := by
  have describe : List.Forall₂ Describes (tokens.map object) tokens := by
    rw [List.forall₂_map_left_iff, List.forall₂_same]
    intro token member
    exact describes_object (carry token member)
  exact
    ⟨tokens.map object, read?_renderJson tokens, describe,
      tokens?_of_describes describe⟩

/-- Every token of a scan carries what goes with its kind. -/
theorem carries_of_tokens
    {source : Text} {offset : Nat} {stream : Stream} {tokens : List Token}
    (started : Stream.start? source offset = .ok stream)
    (scanned : stream.tokens = .ok tokens) :
    ∀ token ∈ tokens, Carries token.kind token.payload := by
  rcases Scanner.exists_pulled_of_tokens started scanned with
    ⟨first, front, gap, placed, sound, complete, rfl⟩
  intro token member
  rcases Scanner.exists_placed_of_mem_pulled placed sound complete member with
    ⟨standing, front, gap, here, -, rfl⟩
  exact here.carries

/--
The listing of a scan is read as an array of objects that describe the tokens,
and the tokens are found again in them.  So no two scans with different tokens
have the same listing.
-/
theorem renderJson_lossless
    {source : Text} {offset : Nat} {stream : Stream} {tokens : List Token}
    (started : Stream.start? source offset = .ok stream)
    (scanned : stream.tokens = .ok tokens) :
    (∃ objects,
      Json.read? (renderJson tokens) =
          some (.array (objects.map .object)) ∧
        List.Forall₂ Describes objects tokens ∧
        tokens? (.array (objects.map .object)) = some tokens) ∧
      ∀ source' offset' stream' tokens',
        Stream.start? source' offset' = .ok stream' →
          stream'.tokens = .ok tokens' →
            renderJson tokens' = renderJson tokens → tokens' = tokens := by
  have here := lossless_of_carries (carries_of_tokens started scanned)
  refine ⟨here, ?_⟩
  intro source' offset' stream' tokens' started' scanned' same
  rcases here with ⟨objects, read, -, found⟩
  rcases lossless_of_carries (carries_of_tokens started' scanned') with
    ⟨objects', read', -, found'⟩
  rw [same, read] at read'
  rw [← Option.some.inj read', found] at found'
  exact (Option.some.inj found').symm

/-- A string may hold a quote, a backslash, a line feed and a null. -/
theorem renderJson_lossless_controls :
    ∃ stream tokens objects,
      Stream.start?
          ['p', ':', 'q', '\'', '"', '\\', '\n', '\x00', 'é', '\''] 0 =
        .ok stream ∧
      stream.tokens = .ok tokens ∧
      tokens.map Token.kind = [.name, .string, .eof] ∧
      Json.read? (renderJson tokens) =
        some (.array (objects.map .object)) ∧
      List.Forall₂ Describes objects tokens ∧
      tokens? (.array (objects.map .object)) = some tokens := by
  let first : Scanner :=
    .seek ['p', ':', 'q', '\'', '"', '\\', '\n', '\x00', 'é', '\''] 0 none
      ['p', ':', 'q', '\'', '"', '\\', '\n', '\x00', 'é', '\'']
  have started :
      Stream.start?
          ['p', ':', 'q', '\'', '"', '\\', '\n', '\x00', 'é', '\''] 0 =
        .ok ⟨first, .ready⟩ := rfl
  have scanned := Scanner.tokens_ready first
  rw [Scanner.pulled_of_sound (by decide) rfl,
    Scanner.pulled_of_sound (by decide) rfl,
    Scanner.pulled_of_eof rfl] at scanned
  rcases (renderJson_lossless started scanned).1 with
    ⟨objects, read, describe, found⟩
  exact ⟨_, _, objects, started, scanned, rfl, read, describe, found⟩

end Listing

end XPathScan
