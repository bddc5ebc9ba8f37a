import XPathScan.Proofs.Lexeme.Lookahead
import XPathScan.Proofs.Scanner.Items
import XPathScan.Proofs.Scanner.Run

/-!
# Tokens do not depend on what stands far behind them

Two texts with a common front are scanned side by side.  As long as the next
token of the one ends inside the front, with a character of the front behind
it, the current tokens of both are the same (`Abreast`), because reading a
lexeme looks at no more than the next one and one character behind it.  So all
tokens of a stream but the last that ends inside a front are determined by the
front (`items_stable`).
-/

namespace XPathScan

namespace Scanner

/--
Two scanners on the same lexeme, in front of the same text as far as `ahead`
goes.
-/
structure Abreast
    (ahead far far' : Text) (scanner scanner' : Scanner) : Prop where
  current_eq : scanner'.current = scanner.current
  start_eq : scanner'.start = scanner.start
  unread_eq : scanner.unread = ahead ++ far
  unread_eq' : scanner'.unread = ahead ++ far'

namespace Abreast

variable {ahead far far' : Text} {scanner scanner' : Scanner}

theorem token_eq (abreast : Abreast ahead far far' scanner scanner') :
    scanner'.token = scanner.token := by
  have kind : scanner'.kind = scanner.kind :=
    congrArg Lexeme.kind abreast.current_eq
  have span : scanner'.span = scanner.span := by
    rw [Scanner.span, Scanner.span, stop, stop, size, size,
      abreast.current_eq, abreast.start_eq]
  rw [token, token, spelling, spelling, kind, span, abreast.current_eq]

theorem stop_eq (abreast : Abreast ahead far far' scanner scanner') :
    scanner'.stop = scanner.stop :=
  congrArg (fun token => token.span.stop) abreast.token_eq

theorem kind_eq (abreast : Abreast ahead far far' scanner scanner') :
    scanner'.kind = scanner.kind :=
  congrArg Lexeme.kind abreast.current_eq

end Abreast

section

variable {source front gap far : Text} {offset : Nat} {scanner : Scanner}

/--
Where the lexeme behind the current one ends inside a front of the source, this
front goes on behind the current lexeme with two characters in sight.
-/
theorem Placed.exists_ahead {unread : Text}
    (placed : Placed source offset scanner front gap)
    (whole : source = front ++ unread ++ far)
    (kind : scanner.kind ≠ .eof)
    (inside : scanner.next.stop < Text.size (front ++ unread)) :
    ∃ ahead,
      unread = gap ++ (scanner.current.text ++ ahead) ∧
        scanner.unread = ahead ++ far ∧
          2 ≤ (ahead.dropWhile isBlank).length := by
  have later := placed.next kind
  generalize scanner.unread.takeWhile isBlank = gap' at later
  rw [later.stop_eq] at inside
  have same := later.whole_at_stop.symm.trans whole
  rcases Text.exists_rest_of_size_lt same inside with
    ⟨rest, filled, common, left⟩
  have later_text : scanner.next.current.text ≠ [] := by
    rw [Ne, later.text_eq_nil_iff, later.kind_eq_eof_iff, left]
    simp [filled]
  refine ⟨gap' ++ (scanner.next.current.text ++ rest), ?_, ?_, ?_⟩
  · simpa only [List.append_assoc, List.append_cancel_left_eq] using common
  · have found := placed.whole_at_stop.symm.trans (whole.trans
      (congrArg (· ++ far) common))
    simpa only [List.append_assoc, List.append_cancel_left_eq] using found
  · have first_not_blank :
        ∀ first ∈ (scanner.next.current.text ++ rest).head?,
          isBlank first = false := by
      intro first member
      apply later.ahead_not_blank first
      rcases List.exists_cons_of_ne_nil later_text with ⟨head, tail, text⟩
      rw [text] at member ⊢
      exact member
    rw [Text.dropWhile_append_of_head? later.gap_blank first_not_blank,
      List.length_append]
    have positive := List.length_pos_iff.2 later_text
    have positive' := List.length_pos_iff.2 filled
    omega

/--
Where the lexeme behind the current one ends inside a common front, the current
one is found in front of any other text too.
-/
theorem exists_abreast {unread : Text} {previous : Option Kind}
    (far' : Text)
    (placed :
      Placed (front ++ unread ++ far) offset scanner front gap)
    (previous_eq : scanner.previousKind = previous)
    (kind : scanner.kind ≠ .eof) (sound : scanner.current.fault = none)
    (inside : scanner.next.stop < Text.size (front ++ unread)) :
    ∃ ahead,
      unread = gap ++ (scanner.current.text ++ ahead) ∧
        Abreast ahead far far' scanner
          (seek (front ++ unread ++ far') (Text.size front) previous
            (unread ++ far')) := by
  rcases placed.exists_ahead rfl kind inside with
    ⟨ahead, unread_eq, scanner_unread, enough⟩
  have read_eq := placed.read_eq
  have no_blank := placed.ahead_not_blank
  rw [scanner_unread] at read_eq no_blank
  rw [previous_eq] at read_eq
  have no_blank' :
      ∀ first ∈ (scanner.current.text ++ (ahead ++ far')).head?,
        isBlank first = false := by
    rcases List.exists_cons_of_ne_nil
        (mt placed.text_eq_nil_iff.1 kind) with
      ⟨first, rest, text⟩
    rw [text] at no_blank ⊢
    exact no_blank
  have whole' :
      unread ++ far' =
        gap ++ (scanner.current.text ++ (ahead ++ far')) := by
    rw [unread_eq]
    simp only [List.append_assoc]
  refine ⟨ahead, unread_eq, ?_⟩
  rw [whole', seek_append _ _ _ placed.gap_blank no_blank',
    Lexeme.read_append_of_ahead far' no_blank read_eq sound enough]
  exact
    { current_eq := rfl
      start_eq := placed.start_eq.symm
      unread_eq := scanner_unread
      unread_eq' := rfl }

end

/-! ## Runs -/

/-- No token of a stream ends before the one on which its scanner stands. -/
theorem stop_le_of_mem_items {source : Text} {offset : Nat}
    {scanner : Scanner} {token : Token} {front gap : Text}
    (placed : Placed source offset scanner front gap)
    (member : .ok token ∈ Stream.items ⟨scanner, .ready⟩) :
    scanner.stop ≤ token.span.stop := by
  induction scanner using states.induct generalizing front gap with
  | case1 scanner ended =>
      rw [Stream.items_of_eof ended, List.mem_singleton] at member
      rw [Except.ok.inj member]
      exact Nat.le_refl _
  | case2 scanner inside induction =>
      have later := placed.next inside
      have step : scanner.stop ≤ scanner.next.stop := by
        rw [placed.stop_eq, later.stop_eq, Text.size_append (_ ++ _)]
        exact Nat.le_add_right _ _
      cases malformed : scanner.next.diagnostic? with
      | some diagnostic =>
          rw [Stream.items_of_malformed inside malformed] at member
          simp only [List.mem_cons, Except.ok.injEq, reduceCtorEq,
            List.not_mem_nil, or_false] at member
          rw [member]
          exact Nat.le_refl _
      | none =>
          rw [Stream.items_of_sound inside malformed, List.mem_cons]
            at member
          rcases member with same | member
          · rw [Except.ok.inj same]
            exact Nat.le_refl _
          · exact step.trans (induction later member)

/-- The step of a scanner that stands in front of a part of a text. -/
theorem Abreast.next_eq {ahead far far' front gap unread : Text}
    {previous : Option Kind} {scanner : Scanner}
    (abreast :
      Abreast ahead far far' scanner
        (seek (front ++ unread ++ far') (Text.size front) previous
          (unread ++ far')))
    (placed :
      Placed (front ++ unread ++ far) 0 scanner front gap)
    (kind : scanner.kind ≠ .eof)
    (unread_eq : unread = gap ++ (scanner.current.text ++ ahead)) :
    (seek (front ++ unread ++ far') (Text.size front) previous
        (unread ++ far')).next =
      seek (front ++ (gap ++ scanner.current.text) ++ ahead ++ far')
        (Text.size (front ++ (gap ++ scanner.current.text)))
        (some scanner.kind) (ahead ++ far') := by
  have inside := abreast.kind_eq ▸ kind
  rw [next_of_ne_eof inside, abreast.stop_eq, abreast.kind_eq,
    abreast.unread_eq', placed.stop_eq]
  congr 1
  change front ++ unread ++ far' = _
  rw [unread_eq]
  simp only [List.append_assoc]

section

variable {front unread far gap : Text} {scanner : Scanner}
  {token following last : Token} {later : List Stream.Item}

/--
If a scanner goes on to yield a token that ends inside the common front, then it
is found in front of any other text too.
-/
theorem exists_abreast_of_items
    (far' : Text)
    (placed :
      Placed (front ++ unread ++ far) 0 scanner front gap)
    (sound : scanner.diagnostic? = none)
    (kind : scanner.kind ≠ .eof)
    (member : .ok last ∈ Stream.items ⟨scanner.next, .ready⟩)
    (inside : last.span.stop < Text.size (front ++ unread)) :
    ∃ ahead,
      unread = gap ++ (scanner.current.text ++ ahead) ∧
        Abreast ahead far far' scanner
          (seek (front ++ unread ++ far') (Text.size front)
            scanner.previousKind (unread ++ far')) := by
  rw [diagnostic?_eq_none_iff] at sound
  apply exists_abreast far' placed rfl kind sound
  apply Nat.lt_of_le_of_lt _ inside
  exact stop_le_of_mem_items (placed.next kind) member

/--
If a scanner in front of `unread` yields some tokens and one more that ends
inside the common front, then the same tokens are yielded in front of any other
text.
-/
theorem items_of_common {tokens : List Token}
    (far' : Text)
    (placed :
      Placed (front ++ unread ++ far) 0 scanner front gap)
    (sound : scanner.diagnostic? = none)
    (yields :
      Stream.items ⟨scanner, .ready⟩ =
        (token :: tokens ++ [last]).map .ok ++ later)
    (inside : last.span.stop < Text.size (front ++ unread)) :
    (seek (front ++ unread ++ far') (Text.size front)
          scanner.previousKind (unread ++ far')).diagnostic? = none ∧
      ∃ later',
        Stream.items
            ⟨seek (front ++ unread ++ far') (Text.size front)
              scanner.previousKind (unread ++ far'), .ready⟩ =
          (token :: tokens).map .ok ++ later' := by
  induction tokens generalizing front unread gap scanner token with
  | nil =>
      rcases Stream.sound_of_items yields with ⟨kind, -, rfl, yields_next⟩
      have member : .ok last ∈ Stream.items ⟨scanner.next, .ready⟩ := by
        rw [yields_next]
        exact List.mem_cons_self
      rcases exists_abreast_of_items far' placed sound kind member inside
        with ⟨ahead, -, abreast⟩
      constructor
      · rw [diagnostic?_eq_none_iff, abreast.current_eq]
        exact diagnostic?_eq_none_iff.1 sound
      · rw [← abreast.token_eq]
        exact Stream.exists_items_ready _
  | cons following tokens induction =>
      rcases Stream.sound_of_items yields with
        ⟨kind, sound_next, rfl, yields_next⟩
      have member : .ok last ∈ Stream.items ⟨scanner.next, .ready⟩ := by
        rw [yields_next]
        simp
      rcases exists_abreast_of_items far' placed sound kind member inside
        with ⟨ahead, unread_eq, abreast⟩
      have common :
          front ++ unread =
            front ++ (gap ++ scanner.current.text) ++ ahead := by
        rw [unread_eq]
        simp only [List.append_assoc]
      have later_placed := placed.next kind
      rw [common] at later_placed inside
      have previous : scanner.next.previousKind = some scanner.kind := by
        rw [next_of_ne_eof kind]
        rfl
      have step := abreast.next_eq placed kind unread_eq
      rcases induction later_placed sound_next yields_next inside with
        ⟨sound', later', yields'⟩
      rw [previous, ← step] at sound' yields'
      constructor
      · rw [diagnostic?_eq_none_iff, abreast.current_eq]
        exact diagnostic?_eq_none_iff.1 sound
      · refine ⟨later', ?_⟩
        rw [Stream.items_of_sound (abreast.kind_eq ▸ kind) sound', yields',
          abreast.token_eq]
        rfl

end

/-! ## Whole texts -/

/--
The tokens of a text, but for the last one that ends strictly inside its front
`common`, stay the same whatever follows this front: if the stream of
`common ++ far` yields `tokens` and then `last`, and `last` ends before the end
of `common`, then the stream of `common ++ far'` can be started as well and
yields `tokens` first.  Here a token is its kind, its span, its text and all
that it carries.
-/
theorem items_stable {common far : Text} {stream : Stream}
    {tokens : List Token} {last : Token} {later : List Stream.Item}
    (started : Stream.start? (common ++ far) 0 = .ok stream)
    (filled : tokens ≠ [])
    (yields : stream.items = (tokens ++ [last]).map .ok ++ later)
    (inside : last.span.stop < Text.size common) (far' : Text) :
    ∃ stream' later',
      Stream.start? (common ++ far') 0 = .ok stream' ∧
        stream'.items = tokens.map .ok ++ later' := by
  rcases List.exists_cons_of_ne_nil filled with ⟨token, others, rfl⟩
  rcases Stream.exists_scanner_of_start? started with
    ⟨scanner, started_scanner, rfl⟩
  rcases start?_zero_eq_ok_iff.1 started_scanner with ⟨-, standing, sound⟩
  have previous : scanner.previousKind = none := by
    rw [standing]
    rfl
  have placed :
      Placed ([] ++ common ++ far) 0 scanner []
        ((common ++ far).takeWhile isBlank) := by
    rw [standing]
    exact placed_seek none rfl rfl (Nat.zero_le _)
  rcases items_of_common far' placed sound yields inside with
    ⟨sound', later', yields'⟩
  rw [previous] at sound' yields'
  have filled' : common ++ far' ≠ [] := by
    intro empty
    rw [List.append_eq_nil_iff] at empty
    rw [empty.1] at inside
    exact Nat.not_lt_zero _ inside
  refine ⟨_, later', ?_, yields'⟩
  apply Stream.start?_of_scanner
  exact start?_zero_eq_ok_iff.2 ⟨filled', rfl, sound'⟩

/--
In `self ::*/` the word is an axis and the separator follows it, also where a
string is left open behind.
-/
theorem items_stable_before_unclosed :
    ∃ stream axis separator star later stream' later',
      Stream.start?
          (['s', 'e', 'l', 'f', ' ', ':', ':', '*', '/'] ++ []) 0 =
        .ok stream ∧
      stream.items = ([axis, separator] ++ [star]).map .ok ++ later ∧
      star.span.stop <
        Text.size ['s', 'e', 'l', 'f', ' ', ':', ':', '*', '/'] ∧
      axis = ⟨.axis, ⟨0, 4⟩, ['s', 'e', 'l', 'f'], .axis .self⟩ ∧
      Stream.start?
          (['s', 'e', 'l', 'f', ' ', ':', ':', '*', '/'] ++ ['"']) 0 =
        .ok stream' ∧
      stream'.items = [axis, separator].map .ok ++ later' := by
  let first : Scanner :=
    seek ['s', 'e', 'l', 'f', ' ', ':', ':', '*', '/'] 0 none
      ['s', 'e', 'l', 'f', ' ', ':', ':', '*', '/']
  have started :
      Stream.start?
          (['s', 'e', 'l', 'f', ' ', ':', ':', '*', '/'] ++ []) 0 =
        .ok ⟨first, .ready⟩ := rfl
  have yields : Stream.items ⟨first, .ready⟩ = _ :=
    Stream.items_of_sound (by decide) rfl
  have yields_next : Stream.items ⟨first.next, .ready⟩ = _ :=
    Stream.items_of_sound (by decide) rfl
  rcases Stream.exists_items_ready first.next.next with ⟨later, yields_last⟩
  rw [yields_next, yields_last] at yields
  have yields' :
      Stream.items ⟨first, .ready⟩ =
        ([first.token, first.next.token] ++ [first.next.next.token]).map
            .ok ++ later := yields
  have inside :
      first.next.next.token.span.stop <
        Text.size ['s', 'e', 'l', 'f', ' ', ':', ':', '*', '/'] := by
    decide
  rcases items_stable started (List.cons_ne_nil _ _) yields' inside ['"']
    with ⟨stream', later', started', same⟩
  exact
    ⟨_, _, _, _, later, stream', later', started, yields', inside, rfl,
      started', same⟩

end Scanner

end XPathScan
