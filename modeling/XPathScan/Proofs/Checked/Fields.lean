import XPathScan.Proofs.Checked.Session
import XPathScan.Proofs.Scanner.Interleaving
import XPathScan.Proofs.Scanner.Lookback
import XPathScan.Proofs.Scanner.Spelling

/-!
# Fields of the current lexeme

A checked scanner keeps what its lexeme carries in fields of their own, beside
the kind.  `Fitting` says that the fields go with the kind: those of a name,
a string or an axis are filled on a lexeme of this kind and empty on any other,
so that every question about the lexeme is answered from the fields if it is of
the right kind and refused if it is not.  This holds wherever steps and items,
failed ones included, lead (`fitting_of_reached`).
-/

namespace XPathScan

/-! ## Fields and answers -/

/-- What is known and answered about a name. -/
structure OnName (detail : Detail) (view : View) : Prop where
  word_filled : detail.word ≠ []
  name_eq : view.name = .ok detail.word
  qualifier_eq : view.qualifier = .ok detail.qualifier
  callable_eq : view.callable = .ok detail.callable
  payload_eq :
    view.token.payload =
      .name detail.qualifier detail.word detail.callable

/-- The fields of a name are empty on every other lexeme. -/
structure OffName (detail : Detail) (view : View) : Prop where
  word_eq : detail.word = []
  qualifier_eq : detail.qualifier = []
  callable_eq : detail.callable = false
  name_refused : view.name = .error .notAName
  qualifier_refused : view.qualifier = .error .notAName
  callable_refused : view.callable = .error .notAName

/-- The fields of a lexeme, and the answers about it, go with its kind. -/
structure Fitting (detail : Detail) (view : View) : Prop where
  name : view.kind = .name → OnName detail view
  no_name : view.kind ≠ .name → OffName detail view
  string :
    view.kind = .string →
      view.body = .ok detail.body ∧
        view.token.payload = .string detail.body
  no_string :
    view.kind ≠ .string →
      detail.body = [] ∧ view.body = .error .notAString
  axis :
    view.kind = .axis →
      ∃ named ∈ Axis.named,
        detail.axis = named ∧ view.axis = .ok named ∧
          view.token.payload = .axis named
  no_axis :
    view.kind ≠ .axis →
      detail.axis = .unknown ∧ view.axis = .error .notAnAxis
  token_kind : view.token.kind = view.kind
  /-- Every other token carries nothing. -/
  bare :
    view.kind ∉ [.name, .string, .axis] →
      view.token.payload = .nothing

namespace Scanner

section

variable {source front gap : Text} {offset : Nat} {scanner : Scanner}

/-- Every name has a local part. -/
theorem Placed.word_ne_nil {qualifier word : Text} {callable : Bool}
    (placed : Placed source offset scanner front gap)
    (kind : scanner.kind = .name)
    (carried :
      scanner.current.payload = .name qualifier word callable) :
    word ≠ [] := by
  have inside : scanner.kind ≠ .eof := by simp [kind]
  have sound : scanner.diagnostic? = none := by
    cases malformed : scanner.diagnostic? with
    | none => rfl
    | some diagnostic =>
        have failed := outcome_of_malformed malformed
        simp [placed.kind_of_malformed failed] at kind
  have literal :=
    (placed.written inside sound).1.literal_of_mem (by decide) kind
  rcases literal.exists_parts with
    ⟨qualifier', word', callable', same, unqualified, qualified⟩
  obtain ⟨rfl, rfl, rfl⟩ :=
    Payload.name.inj (carried.symm.trans same)
  rintro rfl
  by_cases bare : qualifier = []
  · cases (unqualified bare).1
  · rcases (qualified bare).2.1 with named | star
    · cases named
    · cases star

/-- What goes with its kind fits, if names are not empty. -/
theorem fitting_of_carries
    (carries : Carries scanner.kind scanner.current.payload)
    (filled :
      ∀ qualifier word callable,
        scanner.current.payload = .name qualifier word callable →
          word ≠ []) :
    Fitting scanner.current.payload.detail scanner.view := by
  rcases scanner with ⟨_, _, _, _, ⟨kind, payload, _, _⟩, _⟩
  change Carries kind payload at carries
  cases carries with
  | name qualifier word callable =>
      exact
        { name := fun _ =>
            ⟨filled qualifier word callable rfl, rfl, rfl, rfl, rfl⟩
          no_name := fun other => absurd rfl other
          string := nofun
          no_string := fun _ => ⟨rfl, rfl⟩
          axis := nofun
          no_axis := fun _ => ⟨rfl, rfl⟩
          token_kind := rfl
          bare := fun other => absurd List.mem_cons_self other }
  | string body =>
      exact
        { name := nofun
          no_name := fun _ => ⟨rfl, rfl, rfl, rfl, rfl, rfl⟩
          string := fun _ => ⟨rfl, rfl⟩
          no_string := fun other => absurd rfl other
          axis := nofun
          no_axis := fun _ => ⟨rfl, rfl⟩
          token_kind := rfl
          bare := fun other =>
            absurd (.tail _ List.mem_cons_self) other }
  | @axis named listed =>
      exact
        { name := nofun
          no_name := fun _ => ⟨rfl, rfl, rfl, rfl, rfl, rfl⟩
          string := nofun
          no_string := fun _ => ⟨rfl, rfl⟩
          axis := fun _ => ⟨named, listed, rfl, rfl, rfl⟩
          no_axis := fun other => absurd rfl other
          token_kind := rfl
          bare := fun other =>
            absurd (.tail _ (.tail _ List.mem_cons_self)) other }
  | nothing other =>
      simp only [List.mem_cons, List.not_mem_nil, or_false, not_or] at other
      exact
        { name := fun kind => absurd kind other.1
          no_name := fun _ => ⟨rfl, rfl, rfl, rfl, rfl, rfl⟩
          string := fun kind => absurd kind other.2.1
          no_string := fun _ => ⟨rfl, rfl⟩
          axis := fun kind => absurd kind other.2.2
          no_axis := fun _ => ⟨rfl, rfl⟩
          token_kind := rfl
          bare := fun _ => rfl }

/-- The fields fit wherever a scanner is placed. -/
theorem Placed.fitting
    (placed : Placed source offset scanner front gap) :
    Fitting scanner.current.payload.detail scanner.view := by
  apply fitting_of_carries placed.carries
  intro qualifier word callable carried
  have carries := placed.carries
  rw [carried] at carries
  generalize kind : scanner.kind = kind' at carries
  cases carries with
  | name => exact placed.word_ne_nil kind carried

end

end Scanner

/-! ## Steps and items in any order -/

namespace Machine

/--
A checked scanner that has been started at an offset of a source, and then
stepped and asked for items in any order.
-/
inductive Reached (source : String) (offset : Nat) : Machine → Prop
  | start {machine : Machine}
      (started : start? source offset = .ok (.ok machine)) :
      Reached source offset machine
  | advance {machine later : Machine} {outcome : Except Diagnostic Kind}
      (reached : Reached source offset machine)
      (stepped : machine.advance = .ok (outcome, later)) :
      Reached source offset later
  | next {machine later : Machine} {item : Option Stream.Item}
      (reached : Reached source offset machine)
      (yielded : machine.next = .ok (item, later)) :
      Reached source offset later

/-- Every order of steps and items is that of a stream. -/
theorem Reached.exists_stream
    {source : String} {offset : Nat} {machine : Machine}
    (reached : Reached source offset machine)
    (counted : source.utf8ByteSize ≤ Text.maxSize) :
    ∃ stream,
      Stream.Reached source.toList offset stream ∧
        machine = stream.machine source := by
  induction reached with
  | start started =>
      rw [start?_eq source counted] at started
      cases found : Stream.start? source.toList offset with
      | error failure =>
          rw [found] at started
          cases started
      | ok stream =>
          rw [found] at started
          cases started
          exact ⟨stream, .start found, rfl⟩
  | advance reached stepped induction =>
      rcases induction with ⟨stream, standing, rfl⟩
      rcases standing.exists_placed with ⟨front, gap, placed⟩
      rw [advance_eq placed counted] at stepped
      cases stepped
      exact ⟨stream.advance.2, standing.advance, rfl⟩
  | next reached yielded induction =>
      rcases induction with ⟨stream, standing, rfl⟩
      rcases standing.exists_placed with ⟨front, gap, placed⟩
      rw [next_eq placed counted] at yielded
      cases yielded
      exact ⟨stream.next.2, standing.next, rfl⟩

/-- A checked scanner can follow every order of steps and items. -/
theorem reached_of_stream
    {source : String} {text : Text} {offset : Nat} {stream : Stream}
    (counted : source.utf8ByteSize ≤ Text.maxSize)
    (spells : source.toList = text)
    (standing : Stream.Reached text offset stream) :
    Reached source offset (stream.machine source) := by
  subst spells
  induction standing with
  | start started =>
      apply Reached.start
      rw [start?_eq source counted, started]
      rfl
  | advance standing induction =>
      rcases standing.exists_placed with ⟨front, gap, placed⟩
      exact induction.advance (advance_eq placed counted)
  | next standing induction =>
      rcases standing.exists_placed with ⟨front, gap, placed⟩
      exact induction.next (next_eq placed counted)

/--
Whatever steps and items came before, everything that is asked about the
current lexeme is answered, and the fields go with its kind.
-/
theorem fitting_of_reached
    {source : String} {offset : Nat} {machine : Machine}
    (reached : Reached source offset machine)
    (counted : source.utf8ByteSize ≤ Text.maxSize) :
    ∃ view, machine.view = .ok view ∧ Fitting machine.detail view := by
  rcases reached.exists_stream counted with ⟨stream, standing, rfl⟩
  rcases standing.exists_placed with ⟨front, gap, placed⟩
  exact ⟨_, view_eq placed counted, placed.fitting⟩

/--
The fields of a qualified name are empty again behind it, where a string is left
open.
-/
theorem fitting_behind_name :
    ∃ machine later,
      Reached (String.ofList ['a', ' ', 'p', ':', 'q', '(', '\'', 'é'])
          0 machine ∧
        machine.detail =
          { Detail.nothing with
            qualifier := ['p'], word := ['q'], callable := true } ∧
        (∃ view,
          machine.view = .ok view ∧ Fitting machine.detail view) ∧
        Reached (String.ofList ['a', ' ', 'p', ':', 'q', '(', '\'', 'é'])
          0 later ∧
        later.kind = .unknown ∧ later.detail = .nothing ∧
        ∃ view, later.view = .ok view ∧ Fitting later.detail view := by
  have counted :
      (String.ofList
          ['a', ' ', 'p', ':', 'q', '(', '\'', 'é']).utf8ByteSize ≤
        Text.maxSize := by
    rw [Text.utf8ByteSize_ofList]
    decide
  have started :
      Stream.start? ['a', ' ', 'p', ':', 'q', '(', '\'', 'é'] 0 =
        .ok _ := rfl
  have standing := (Stream.Reached.start started).next
  have reached :=
    reached_of_stream counted String.toList_ofList standing
  have failed :=
    reached_of_stream counted String.toList_ofList standing.advance.advance
  exact
    ⟨_, _, reached, rfl, fitting_of_reached reached counted, failed, rfl,
      rfl, fitting_of_reached failed counted⟩

end Machine

end XPathScan
