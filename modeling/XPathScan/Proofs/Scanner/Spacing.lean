import XPathScan.Proofs.Lexeme.Form
import XPathScan.Proofs.Scanner.Items
import XPathScan.Proofs.Scanner.Tiling

/-!
# Lexemes with blanks between them

Lexemes that are written one after the other with blanks between them are read
back as they are: none of them merges with its neighbour.  What a token is,
apart from its place and from a parenthesis right behind it, is determined by
the lexeme texts before and behind it (`Spells`), so the blanks between them
can be exchanged.
-/

namespace XPathScan

/-- What a lexeme carries, a parenthesis behind it left out of account. -/
def Payload.uncalled : Payload → Payload
  | .name qualifier word _ => .name qualifier word false
  | payload => payload

/--
What a token is, apart from its place and from a parenthesis right behind it.
-/
def Token.substance (token : Token) : Kind × Text × Payload :=
  (token.kind, token.text, token.payload.uncalled)

theorem Lexeme.Form.payload_congr {behind behind' : Text}
    (separator : SeparatorAhead behind ↔ SeparatorAhead behind')
    (previous : Option Kind) (form : Form) :
    (form.payload previous behind).uncalled =
      (form.payload previous behind').uncalled := by
  cases form with
  | word spelling =>
      rw [Form.payload, Form.payload, Form.kind_congr separator]
      cases (Form.word spelling).kind previous behind' <;> rfl
  | _ => rfl

/--
The tokens of a text are spelled by their texts: the kind of a token and what
it carries are those of its form, given the kind of the token before it and the
text of the token behind it.
-/
inductive Spells : Option Kind → List Token → Prop
  | ended {previous : Option Kind} {token : Token}
      (kind : token.kind = .eof)
      (text : token.text = Kind.eofForm)
      (payload : token.payload = .nothing) :
      Spells previous [token]
  | lexeme {previous : Option Kind} {form : Lexeme.Form}
      {token next : Token} {tokens : List Token}
      (shaped : Lexeme.Shaped token.text form)
      (kind : token.kind = form.kind previous next.text)
      (payload :
        token.payload.uncalled =
          (form.payload previous next.text).uncalled)
      (later : Spells (some token.kind) (next :: tokens)) :
      Spells previous (token :: next :: tokens)

/-- Tokens with the same texts are the same, apart from their places. -/
theorem Spells.substance_eq {previous : Option Kind}
    {tokens tokens' : List Token}
    (spells : Spells previous tokens) (spells' : Spells previous tokens')
    (texts : tokens.map Token.text = tokens'.map Token.text) :
    tokens.map Token.substance = tokens'.map Token.substance := by
  induction spells generalizing tokens' with
  | ended kind text payload =>
      cases spells' with
      | ended kind' text' payload' =>
          simp [Token.substance, kind, kind', text, text', payload, payload']
      | lexeme => simp at texts
  | @lexeme previous form token next tokens shaped kind payload later
      induction =>
      cases spells' with
      | ended => simp at texts
      | @lexeme _ form' token' next' tokens' shaped' kind' payload' later' =>
          simp only [List.map_cons, List.cons.injEq] at texts
          rcases texts with ⟨text, next_text, texts⟩
          rw [← text] at shaped'
          have form_eq := shaped.unique shaped'
          rw [← form_eq, ← next_text] at kind' payload'
          have kind_eq := kind.trans kind'.symm
          have payload_eq := payload.trans payload'.symm
          rw [← kind_eq] at later'
          have rest :=
            induction later' (congrArg₂ List.cons next_text texts)
          have same : token.substance = token'.substance := by
            rw [Token.substance, Token.substance, kind_eq, text, payload_eq]
          exact congrArg₂ List.cons same rest

/-- The texts of all tokens but the end are lexemes. -/
theorem Spells.isLexeme {previous : Option Kind} {tokens : List Token}
    {texts : List Text}
    (spells : Spells previous tokens)
    (listed : tokens.map Token.text = texts ++ [Kind.eofForm]) :
    ∀ text ∈ texts, Lexeme.IsLexeme text := by
  induction spells generalizing texts with
  | ended =>
      cases texts with
      | nil =>
          intro text member
          cases member
      | cons text texts => simp at listed
  | lexeme shaped kind payload later induction =>
      cases texts with
      | nil => simp at listed
      | cons text texts =>
          rw [List.map_cons, List.cons_append, List.cons.injEq] at listed
          intro text' member
          rcases List.mem_cons.1 member with rfl | member
          · rw [← listed.1]
            exact ⟨_, shaped⟩
          · exact induction listed.2 text' member

namespace Scanner

open Lexeme (IsLexeme Shaped SeparatorAhead)

section

variable {source front gap : Text} {offset : Nat} {scanner : Scanner}

/-- A sound lexeme is determined by its form and the text behind it. -/
theorem Placed.exists_form
    (placed : Placed source offset scanner front gap)
    (kind : scanner.kind ≠ .eof) (sound : scanner.diagnostic? = none) :
    ∃ form,
      Shaped scanner.current.text form ∧
        scanner.current =
          form.lexeme scanner.previousKind scanner.current.text
            scanner.unread := by
  rw [Ne, placed.kind_eq_eof_iff] at kind
  have no_blank := placed.ahead_not_blank
  have read_eq := placed.read_eq
  rcases List.exists_cons_of_ne_nil kind with ⟨first, behind, whole⟩
  rw [whole] at no_blank read_eq
  have formed :=
    @Lexeme.formed_read scanner.previousKind first behind
      (no_blank first rfl)
  rw [read_eq] at formed
  exact formed (diagnostic?_eq_none_iff.1 sound)

/-- A separator ahead is the next token. -/
theorem separatorAhead_unread_iff (kind : scanner.kind ≠ .eof) :
    SeparatorAhead scanner.unread ↔
      SeparatorAhead scanner.next.token.text := by
  rw [next_of_ne_eof kind]
  change _ ↔ SeparatorAhead (spelling _)
  rw [spelling]
  split
  next ended =>
    rw [kind_seek_eq_eof_iff] at ended
    rw [SeparatorAhead, ended]
    decide
  next =>
    exact
      Lexeme.separatorAhead_iff_read (some scanner.kind) scanner.unread

/-- A sound scanner spells its token in front of the next one. -/
theorem Placed.spells_next
    {tokens : List Token}
    (placed : Placed source offset scanner front gap)
    (kind : scanner.kind ≠ .eof) (sound : scanner.diagnostic? = none)
    (later :
      Spells (some scanner.kind) (scanner.next.token :: tokens)) :
    Spells scanner.previousKind
      (scanner.token :: scanner.next.token :: tokens) := by
  have text : scanner.token.text = scanner.current.text := if_neg kind
  have separator := separatorAhead_unread_iff kind
  rcases placed.exists_form kind sound with ⟨form, shaped, same⟩
  rw [← text] at shaped
  apply Spells.lexeme shaped
  · rw [← Lexeme.Form.kind_congr separator]
    exact congrArg Lexeme.kind same
  · rw [← Lexeme.Form.payload_congr separator]
    exact congrArg (fun lexeme => lexeme.payload.uncalled) same
  · exact later

/-- The tokens of a scanner are spelled by their texts. -/
theorem Placed.spells
    {tokens : List Token}
    (placed : Placed source offset scanner front gap)
    (sound : scanner.diagnostic? = none)
    (yields : Stream.items ⟨scanner, .ready⟩ = tokens.map .ok) :
    Spells scanner.previousKind tokens := by
  induction scanner using states.induct generalizing tokens front gap with
  | case1 scanner ended =>
      rw [Stream.items_of_eof ended] at yields
      rcases List.map_eq_singleton_iff.1 yields.symm with ⟨token, rfl, same⟩
      rw [Except.ok.inj same]
      apply Spells.ended
      · exact ended
      · exact if_pos ended
      · exact congrArg Lexeme.payload (placed.current_of_eof ended)
  | case2 scanner inside induction =>
      cases malformed : scanner.next.diagnostic? with
      | some diagnostic =>
          rw [Stream.items_of_malformed inside malformed] at yields
          have member := congrArg (.error diagnostic ∈ ·) yields
          simp at member
      | none =>
          rcases Stream.exists_items_ready scanner.next with
            ⟨later, yields_next⟩
          rw [Stream.items_of_sound inside malformed, yields_next] at yields
          rcases List.map_eq_cons_iff.1 yields.symm with
            ⟨token, others, rfl, same, rest⟩
          rcases List.map_eq_cons_iff.1 rest with
            ⟨next, tokens, rfl, same_next, rfl⟩
          rw [Except.ok.inj same, Except.ok.inj same_next]
          rw [Except.ok.inj same_next] at rest
          apply placed.spells_next inside sound
          have spells := induction (placed.next inside) malformed
            (yields_next.trans rest.symm)
          rw [next_of_ne_eof inside] at spells ⊢
          exact spells

end

/-! ## Reading spaced lexemes -/

/--
Blanks in front of each lexeme and behind the last one; between two lexemes
there is at least one.
-/
structure Spaced (pieces : List (Text × Text)) (trail : Text) : Prop where
  gaps_blank :
    ∀ piece ∈ pieces, ∀ character ∈ piece.1, isBlank character = true
  trail_blank : ∀ character ∈ trail, isBlank character = true
  apart : ∀ piece ∈ pieces.tail, piece.1 ≠ []

/-- The spans of the lexemes of pieces that begin at an offset. -/
def spansFrom (offset : Nat) : List (Text × Text) → List Span
  | [] => []
  | (gap, text) :: pieces =>
      ⟨offset + Text.size gap,
          offset + Text.size gap + Text.size text⟩ ::
        spansFrom (offset + Text.size gap + Text.size text) pieces

/--
The tokens of spaced lexemes that begin at an offset: each lexeme by itself at
its place, in front of no parenthesis, and the end behind all blanks.
-/
structure ReadBack
    (offset : Nat) (pieces : List (Text × Text)) (trail : Text)
    (tokens : List Token) : Prop where
  texts :
    tokens.map Token.text = pieces.map Prod.snd ++ [Kind.eofForm]
  spans :
    tokens.map Token.span =
      spansFrom offset pieces ++
        [⟨offset + Text.size (assemble pieces ++ trail),
          offset + Text.size (assemble pieces ++ trail)⟩]
  uncalled :
    ∀ token ∈ tokens, ∀ qualifier word callable,
      token.payload = .name qualifier word callable → callable = false

section

variable {gap text trail : Text} {pieces : List (Text × Text)}
  {offset : Nat} {token : Token} {tokens : List Token}

theorem Spaced.of_cons (spaced : Spaced ((gap, text) :: pieces) trail) :
    Spaced pieces trail where
  gaps_blank := fun piece member =>
    spaced.gaps_blank piece (List.mem_cons_of_mem _ member)
  trail_blank := spaced.trail_blank
  apart := fun piece member =>
    spaced.apart piece (List.mem_of_mem_tail member)

/-- A lexeme stands in front of a blank or the end. -/
theorem Spaced.blank_behind
    (spaced : Spaced ((gap, text) :: pieces) trail) :
    ∀ first ∈ (assemble pieces ++ trail).head?, isBlank first = true := by
  intro first member
  cases pieces with
  | nil => exact spaced.trail_blank first (List.mem_of_mem_head? member)
  | cons piece pieces =>
      have inside : piece ∈ ((gap, text) :: piece :: pieces).tail :=
        List.mem_cons_self
      rcases List.exists_cons_of_ne_nil (spaced.apart piece inside) with
        ⟨blank, rest, gap_eq⟩
      have first_eq : blank = first := by
        simpa [assemble, gap_eq] using member
      apply spaced.gaps_blank piece (List.mem_cons_of_mem _ inside)
      rw [gap_eq, first_eq]
      exact List.mem_cons_self

theorem ReadBack.cons
    (text_eq : token.text = text)
    (span_eq :
      token.span =
        ⟨offset + Text.size gap, offset + Text.size gap + Text.size text⟩)
    (uncalled :
      ∀ qualifier word callable,
        token.payload = .name qualifier word callable → callable = false)
    (later :
      ReadBack (offset + Text.size gap + Text.size text) pieces trail
        tokens) :
    ReadBack offset ((gap, text) :: pieces) trail (token :: tokens) where
  texts := congrArg₂ List.cons text_eq later.texts
  spans := by
    have total :
        offset + Text.size gap + Text.size text +
            Text.size (assemble pieces ++ trail) =
          offset +
            Text.size (assemble ((gap, text) :: pieces) ++ trail) := by
      simp [assemble, Nat.add_assoc]
    rw [List.map_cons, span_eq, later.spans, total]
    rfl
  uncalled := by
    intro token' member
    rcases List.mem_cons.1 member with rfl | member
    · exact uncalled
    · exact later.uncalled token' member

/-- What stands on a lexeme in front of a blank or the end. -/
structure Alone
    (source : Text) (scanner : Scanner) (start : Nat)
    (text behind : Text) : Prop where
  inside : scanner.kind ≠ .eof
  sound : scanner.diagnostic? = none
  text_eq : scanner.token.text = text
  span_eq : scanner.token.span = ⟨start, start + Text.size text⟩
  uncalled :
    ∀ qualifier word callable,
      scanner.token.payload = .name qualifier word callable →
        callable = false
  next_eq :
    scanner.next =
      seek source (start + Text.size text) (some scanner.kind) behind

/-- Seeking over a gap stands on the lexeme behind it alone. -/
theorem Spaced.alone_seek
    (source : Text) (offset : Nat) (previous : Option Kind)
    (spaced : Spaced ((gap, text) :: pieces) trail)
    (lexeme : IsLexeme text) :
    Alone source
      (seek source offset previous
        (assemble ((gap, text) :: pieces) ++ trail))
      (offset + Text.size gap) text (assemble pieces ++ trail) := by
  have blank := spaced.blank_behind
  have gap_blank : ∀ character ∈ gap, isBlank character = true :=
    spaced.gaps_blank (gap, text) List.mem_cons_self
  have whole :
      assemble ((gap, text) :: pieces) ++ trail =
        gap ++ (text ++ (assemble pieces ++ trail)) := by
    simp [assemble]
  rw [whole]
  generalize assemble pieces ++ trail = behind at blank
  rcases lexeme with ⟨form, shaped⟩
  have no_blank :
      ∀ first ∈ (text ++ behind).head?, isBlank first = false := by
    rcases List.exists_cons_of_ne_nil shaped.ne_nil with ⟨first, rest, rfl⟩
    rintro first' ⟨⟩
    exact shaped.first_not_blank
  have inside :
      (seek source offset previous (gap ++ (text ++ behind))).kind ≠
        .eof := by
    rw [Ne, kind_seek_eq_eof_iff,
      Text.dropWhile_append_of_head? gap_blank no_blank]
    simp [shaped.ne_nil]
  have standing :=
    seek_append source offset previous gap_blank no_blank
  rw [Lexeme.read_before_blank previous shaped blank] at standing
  have next_eq := next_of_ne_eof inside
  rw [standing] at inside next_eq ⊢
  exact
    { inside := inside
      sound := rfl
      text_eq := if_neg inside
      span_eq := rfl
      uncalled := by
        intro qualifier word callable named
        rw [Lexeme.Form.callable_eq named]
        exact Lexeme.parenthesisFollows_of_blank blank
      next_eq := next_eq }

/-- Spaced lexemes are read back one by one. -/
theorem Spaced.exists_readBack
    (source : Text) (offset : Nat) (previous : Option Kind)
    (spaced : Spaced pieces trail)
    (lexical : ∀ piece ∈ pieces, IsLexeme piece.2) :
    (seek source offset previous
          (assemble pieces ++ trail)).diagnostic? = none ∧
      ∃ tokens,
        Stream.items
            ⟨seek source offset previous (assemble pieces ++ trail),
              .ready⟩ =
          tokens.map .ok ∧
        ReadBack offset pieces trail tokens := by
  induction pieces generalizing offset previous with
  | nil =>
      have standing :=
        @seek_append trail [] source offset previous spaced.trail_blank
          (by simp)
      rw [List.append_nil] at standing
      have nothing : assemble [] ++ trail = trail := rfl
      rw [nothing]
      refine ⟨?_, [(seek source offset previous trail).token], ?_, ?_⟩
      · rw [standing]
        rfl
      · apply Stream.items_of_eof
        rw [standing]
        rfl
      · rw [standing]
        constructor
        · rfl
        · rfl
        · intro token member qualifier word callable named
          rw [List.mem_singleton.1 member] at named
          cases named
  | cons piece pieces induction =>
      rcases piece with ⟨gap, text⟩
      have alone :=
        spaced.alone_seek source offset previous
          (lexical (gap, text) List.mem_cons_self)
      generalize
        seek source offset previous
          (assemble ((gap, text) :: pieces) ++ trail) = scanner at alone ⊢
      have lexical_later : ∀ piece ∈ pieces, IsLexeme piece.2 :=
        fun piece member => lexical piece (List.mem_cons_of_mem _ member)
      rcases induction (offset + Text.size gap + Text.size text)
          (some scanner.kind) spaced.of_cons lexical_later with
        ⟨sound_next, tokens, yields, readBack⟩
      rw [← alone.next_eq] at sound_next yields
      refine ⟨alone.sound, scanner.token :: tokens, ?_, ?_⟩
      · rw [Stream.items_of_sound alone.inside sound_next, yields]
        rfl
      · exact
          .cons alone.text_eq alone.span_eq alone.uncalled readBack

end

/-! ## Whole texts -/

/-- The tokens of an expression are spelled by their texts. -/
theorem spells_of_tokenize {source : Text} {tokens : List Token}
    (tokenized : tokenize source = .ok tokens) :
    Spells none tokens := by
  rcases tokenize_eq_ok_iff.1 tokenized with ⟨stream, started, yields⟩
  rcases Stream.exists_scanner_of_start? started with
    ⟨scanner, started_scanner, rfl⟩
  rcases start?_zero_eq_ok_iff.1 started_scanner with ⟨-, standing, sound⟩
  rcases placed_of_start? started_scanner with ⟨front, gap, placed, -⟩
  have spells := placed.spells sound yields
  rw [standing] at spells
  exact spells

theorem exists_tokenize_of_spaced {pieces : List (Text × Text)}
    {trail : Text}
    (filled : pieces ≠ []) (spaced : Spaced pieces trail)
    (lexical : ∀ piece ∈ pieces, IsLexeme piece.2) :
    ∃ tokens,
      tokenize (assemble pieces ++ trail) = .ok tokens ∧
        ReadBack 0 pieces trail tokens := by
  rcases spaced.exists_readBack (assemble pieces ++ trail) 0 none lexical
    with ⟨sound, tokens, yields, readBack⟩
  refine ⟨tokens, ?_, readBack⟩
  apply tokenize_eq_ok_iff.2
  refine ⟨_, Stream.start?_of_scanner ?_, yields⟩
  apply start?_zero_eq_ok_iff.2
  refine ⟨?_, rfl, sound⟩
  rcases List.exists_cons_of_ne_nil filled with ⟨⟨gap, text⟩, later, rfl⟩
  rcases lexical (gap, text) List.mem_cons_self with ⟨form, shaped⟩
  simp [assemble, shaped.ne_nil]

/--
Lexemes with blanks between them are read back as they are, each at its place,
and nothing else of the tokens depends on the blanks.

Lexemes that stand at least one blank apart are tokenized, into tokens that are
spelled by their texts and in front of no parenthesis.  The tokens of any two
texts with the same lexemes have the same substance.  In particular the lexemes
of a tokenized text can be spaced anew.
-/
theorem tokenize_spaced :
    (∀ pieces trail,
      pieces ≠ [] → Spaced pieces trail →
        (∀ piece ∈ pieces, IsLexeme piece.2) →
          ∃ tokens,
            tokenize (assemble pieces ++ trail) = .ok tokens ∧
              ReadBack 0 pieces trail tokens ∧ Spells none tokens) ∧
    (∀ source source' tokens tokens',
      tokenize source = .ok tokens → tokenize source' = .ok tokens' →
        tokens.map Token.text = tokens'.map Token.text →
          tokens.map Token.substance = tokens'.map Token.substance) ∧
    ∀ source tokens pieces trail,
      tokenize source = .ok tokens → pieces ≠ [] → Spaced pieces trail →
        tokens.map Token.text = pieces.map Prod.snd ++ [Kind.eofForm] →
          ∃ tokens',
            tokenize (assemble pieces ++ trail) = .ok tokens' ∧
              ReadBack 0 pieces trail tokens' ∧
                tokens.map Token.substance =
                  tokens'.map Token.substance := by
  refine ⟨?_, ?_, ?_⟩
  · intro pieces trail filled spaced lexical
    rcases exists_tokenize_of_spaced filled spaced lexical with
      ⟨tokens, tokenized, readBack⟩
    exact ⟨tokens, tokenized, readBack, spells_of_tokenize tokenized⟩
  · intro source source' tokens tokens' tokenized tokenized' texts
    have spells := spells_of_tokenize tokenized
    exact spells.substance_eq (spells_of_tokenize tokenized') texts
  · intro source tokens pieces trail tokenized filled spaced texts
    have spells := spells_of_tokenize tokenized
    have lexical : ∀ piece ∈ pieces, IsLexeme piece.2 := by
      intro piece member
      apply spells.isLexeme texts
      exact List.mem_map_of_mem member
    rcases exists_tokenize_of_spaced filled spaced lexical with
      ⟨tokens', tokenized', readBack⟩
    refine ⟨tokens', tokenized', readBack, ?_⟩
    apply spells.substance_eq (spells_of_tokenize tokenized')
    rw [texts, readBack.texts]

/-- An axis, its separator and a star, spaced in two ways. -/
theorem tokenize_spaced_axis :
    Spaced
        [(['\t'], ['s', 'e', 'l', 'f']), ([' '], [':', ':']),
          (['\n'], ['*'])] [' '] ∧
      Spaced
        [([], ['s', 'e', 'l', 'f']), (['\r'], [':', ':']),
          ([' ', ' '], ['*'])] [] ∧
      ∃ tokens tokens',
        tokenize
            ['\t', 's', 'e', 'l', 'f', ' ', ':', ':', '\n', '*', ' '] =
          .ok tokens ∧
        tokens.map Token.span = [⟨1, 5⟩, ⟨6, 8⟩, ⟨9, 10⟩, ⟨11, 11⟩] ∧
        tokenize
            ['s', 'e', 'l', 'f', '\r', ':', ':', ' ', ' ', '*'] =
          .ok tokens' ∧
        tokens.map Token.substance = tokens'.map Token.substance := by
  have spaced :
      Spaced
        [(['\t'], ['s', 'e', 'l', 'f']), ([' '], [':', ':']),
          (['\n'], ['*'])] [' '] :=
    ⟨by simp [isBlank], List.all_eq_true.1 rfl, by simp⟩
  have spaced' :
      Spaced
        [([], ['s', 'e', 'l', 'f']), (['\r'], [':', ':']),
          ([' ', ' '], ['*'])] [] :=
    ⟨by simp [isBlank], List.all_eq_true.1 rfl, by simp⟩
  have lexical :
      ∀ piece ∈
        [(['\t'], ['s', 'e', 'l', 'f']), ([' '], [':', ':']),
          (['\n'], ['*'])],
        IsLexeme piece.2 := by
    simp only [List.forall_mem_cons]
    refine ⟨⟨_, .word (.mk rfl (List.all_eq_true.1 rfl))⟩, ⟨.symbol .doubleColon, ?_⟩,
      ⟨.symbol .star, ?_⟩, by simp⟩
    · exact .symbol (by decide)
    · exact .symbol (by decide)
  rcases tokenize_spaced with ⟨read_back, same_substance, spaced_anew⟩
  rcases read_back _ _ (List.cons_ne_nil _ _) spaced lexical with
    ⟨tokens, tokenized, readBack, -⟩
  rcases spaced_anew _ tokens _ _ tokenized (List.cons_ne_nil _ _) spaced'
      readBack.texts with
    ⟨tokens', tokenized', readBack', -⟩
  have texts : tokens.map Token.text = tokens'.map Token.text :=
    readBack.texts.trans readBack'.texts.symm
  exact
    ⟨spaced, spaced', tokens, tokens', tokenized, readBack.spans,
      tokenized', same_substance _ _ _ _ tokenized tokenized' texts⟩

end Scanner

end XPathScan
