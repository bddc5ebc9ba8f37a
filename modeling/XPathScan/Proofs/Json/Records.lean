import XPathScan.Json.Record
import XPathScan.Proofs.Json.Reader
import XPathScan.Proofs.Text.Digits
import XPathScan.Proofs.Text.Longest

/-!
# Records are read back

What is written between quotes, as a number or as a word is read back, whatever
follows it in a document (`Reads`).  Items that are written on lines of their
own with commas between them are read back if each of them is, and so the
records of a document are read back from it, whole and in order
(`read?_renderRecords`).
-/

namespace XPathScan

namespace Json

/-! ## Blanks -/

theorem skip_append_of_blank {blanks : Text}
    (blank : ∀ character ∈ blanks, isBlank character = true)
    (behind : Text) :
    skip (blanks ++ behind) = skip behind :=
  List.dropWhile_append_of_pos blank

theorem skip_cons_of_not_blank {mark : Char}
    (not_blank : isBlank mark = false) (behind : Text) :
    skip (mark :: behind) = mark :: behind :=
  List.dropWhile_cons_of_neg (Bool.not_eq_true _ ▸ not_blank)

/-! ## Strings -/

theorem readBody_escape {escape rest : Text} {character : Char}
    (escaped : readEscape escape = some (character, rest))
    (shorter : rest.length ≤ escape.length) :
    readBody ('\\' :: escape) = prepend character (readBody rest) := by
  rw [readBody, escaped]
  exact if_pos shorter

theorem readBody_plain {character : Char}
    (no_quote : character ≠ '"') (no_backslash : character ≠ '\\')
    (printed : isControl character = false) (rest : Text) :
    readBody (character :: rest) = prepend character (readBody rest) := by
  rw [readBody]
  · exact if_neg (Bool.not_eq_true _ ▸ printed)
  · exact no_quote
  · exact no_backslash

theorem readUnit_append {digits : Text} {unit : Nat}
    (read : readUnit digits = some (unit, [])) (rest : Text) :
    readUnit (digits ++ rest) = some (unit, rest) := by
  unfold readUnit at read
  split at read
  next first second third fourth behind =>
    rcases Option.map_eq_some_iff.1 read with ⟨values, found, same⟩
    rw [Prod.mk.injEq] at same
    rcases same with ⟨value, rfl⟩
    change
      Option.map _ ([first, second, third, fourth].mapM hexDigit?) = _
    rw [found, Option.map_some, value]
    rfl
  next => cases read

/-- The controls are given by four digits. -/
theorem readNumbered_fourDigits {unit : Nat} (small : unit < 0x20)
    (rest : Text) :
    readNumbered (fourDigits unit ++ rest) =
      some (Char.ofNat unit, rest) := by
  have controls :
      ∀ unit < 0x20,
        readUnit (fourDigits unit) = some (unit, []) ∧
          isTrailing unit = false ∧ isLeading unit = false := by
    decide
  rcases controls unit small with ⟨read, not_trailing, not_leading⟩
  rw [readNumbered, readUnit_append read, Option.bind_some]
  simp only [not_trailing, not_leading, Bool.false_eq_true, if_false]

/-- A character is read back from what is written for it. -/
theorem readBody_quoteChar (character : Char) (rest : Text) :
    readBody (quoteChar character ++ rest) =
      prepend character (readBody rest) := by
  unfold quoteChar
  split
  case h_8 no_quote no_backslash _ _ _ _ _ =>
    split
    next control =>
      have escaped :
          readEscape ('u' :: (fourDigits character.toNat ++ rest)) =
            some (character, rest) := by
        change readNumbered _ = _
        rw [readNumbered_fourDigits control, Char.ofNat_toNat]
      apply readBody_escape escaped
      rw [List.length_cons, List.length_append]
      omega
    next printed =>
      exact
        readBody_plain no_quote no_backslash (decide_eq_false printed) rest
  -- the other characters have a letter of their own
  all_goals exact readBody_escape rfl (Nat.le_succ _)

theorem readBody_flatMap_quoteChar (content rest : Text) :
    readBody (content.flatMap quoteChar ++ '"' :: rest) =
      some (content, rest) := by
  induction content with
  | nil => exact readBody.eq_2 rest
  | cons character content induction =>
      rw [List.flatMap_cons, List.append_assoc, readBody_quoteChar,
        induction]
      rfl

/-! ## Numbers -/

/-- Whether a character may stand behind a value. -/
def isBehind (mark : Char) : Bool :=
  isBlank mark || mark == ',' || mark == ']' || mark == '}'

/-- What may follow a value in a document. -/
def Follows (behind : Text) : Prop :=
  ∀ mark ∈ behind.head?, isBehind mark = true

/-- No part of a number may stand behind one. -/
theorem apart_of_isBehind {mark : Char} (follows : isBehind mark = true) :
    isDigit mark = false ∧ mark ≠ '.' ∧ ¬ (mark = 'e' ∨ mark = 'E') := by
  simp only [isBehind, isBlank, Bool.or_eq_true, beq_iff_eq] at follows
  rcases follows with (((((rfl | rfl) | rfl) | rfl) | rfl) | rfl) | rfl <;>
    decide

theorem isBlank_of_isDigit {digit : Char}
    (numeric : isDigit digit = true) : isBlank digit = false := by
  rw [← Bool.not_eq_true]
  intro blank
  have follows : isBehind digit = true := by
    rw [isBehind, blank]
    rfl
  rw [(apart_of_isBehind follows).1] at numeric
  cases numeric

theorem readFraction_of_follows {behind : Text}
    (follows : Follows behind) :
    readFraction behind = some ([], behind) := by
  unfold readFraction
  split
  next rest =>
    have no_point := (apart_of_isBehind (follows '.' rfl)).2.1
    exact absurd rfl no_point
  next => rfl

theorem readExponent_of_follows {behind : Text}
    (follows : Follows behind) :
    readExponent behind = some ([], behind) := by
  cases behind with
  | nil => rfl
  | cons mark rest =>
      have no_mark := (apart_of_isBehind (follows mark rfl)).2.2
      exact if_neg no_mark

theorem readDigits_append {digits behind : Text}
    (filled : digits ≠ [])
    (numeric : ∀ digit ∈ digits, isDigit digit = true)
    (follows : Follows behind) :
    readDigits (digits ++ behind) = some (digits, behind) := by
  have outside : ∀ first ∈ behind.head?, isDigit first = false := by
    intro first member
    exact (apart_of_isBehind (follows first member)).1
  rw [readDigits, Text.takeWhile_append_of_head? numeric outside,
    Text.dropWhile_append_of_head? numeric outside]
  cases digits with
  | nil => exact absurd rfl filled
  | cons digit digits => rfl

/-- A number is written without a sign and without needless zeros. -/
theorem readNumber_ofNat (number : Nat) {behind : Text}
    (follows : Follows behind) :
    readNumber (Text.ofNat number ++ behind) =
      some (Text.ofNat number, behind) := by
  have numeric := @Text.isDigit_of_mem_ofNat number
  have filled := Text.ofNat_ne_nil number
  have unsigned :
      readSign ['-'] (Text.ofNat number ++ behind) =
        some ([], Text.ofNat number ++ behind) := by
    rcases List.exists_cons_of_ne_nil filled with ⟨digit, digits, written⟩
    rw [written] at numeric ⊢
    have no_sign : digit ∉ ['-'] := by
      rw [List.mem_singleton]
      rintro rfl
      cases numeric '-' List.mem_cons_self
    exact if_neg no_sign
  have whole :
      readWhole (Text.ofNat number ++ behind) =
        some (Text.ofNat number, behind) := by
    cases number with
    | zero => rfl
    | succ number =>
        rw [readWhole]
        · exact readDigits_append filled numeric follows
        · intro rest zero
          rcases List.append_eq_cons_iff.1 zero with
            ⟨nothing, -⟩ | ⟨digits, written, -⟩
          · exact filled nothing
          · cases Text.eq_zero_of_ofNat_eq_cons written
  simp only [readNumber, unsigned, whole, readFraction_of_follows follows,
    readExponent_of_follows follows, Option.bind_eq_bind, Option.bind_some,
    List.nil_append, List.append_nil]

/-! ## Values and fields -/

/-- The value of a field, as it is read. -/
def Value.ofScalar : Scalar → Value
  | .text content => .text content
  | .number value => .number (Text.ofNat value)
  | .flag holds => .flag holds

/-- A record, as it is read. -/
def Value.ofRecord (record : Record) : Value :=
  .object (record.map fun (name, scalar) => (name, .ofScalar scalar))

/-- A text is read as an item, whatever follows it in a document. -/
def Reads {α : Type} (read : Reader α) (text : Text) (item : α) : Prop :=
  ∀ behind, Follows behind →
    read (skip (text ++ behind)) = some (item, behind)

theorem quote_append (content behind : Text) :
    quote content ++ behind =
      '"' :: (content.flatMap quoteChar ++ '"' :: behind) := by
  rw [quote, List.append_assoc]
  rfl

theorem readValue_of_isDigit {digit : Char}
    (numeric : isDigit digit = true) (levels : Nat) (rest : Text) :
    readValue (levels + 1) (digit :: rest) =
      (readNumber (digit :: rest)).map fun (literal, rest) =>
        (.number literal, rest) := by
  rw [readValue]
  all_goals
    rintro rest ⟨rfl, rfl⟩
    cases numeric

theorem reads_render (levels : Nat) (scalar : Scalar) :
    Reads (readValue (levels + 1)) scalar.render (.ofScalar scalar) := by
  intro behind follows
  cases scalar with
  | text content =>
      rw [Scalar.render, quote_append, skip_cons_of_not_blank rfl, readValue,
        readBody_flatMap_quoteChar]
      rfl
  | number value =>
      have numeric := @Text.isDigit_of_mem_ofNat value
      have read := readNumber_ofNat value follows
      rcases List.exists_cons_of_ne_nil (Text.ofNat_ne_nil value) with
        ⟨digit, digits, written⟩
      rw [Scalar.render]
      rw [written] at numeric read ⊢
      have digit_numeric := numeric digit List.mem_cons_self
      rw [List.cons_append] at read ⊢
      rw [skip_cons_of_not_blank (isBlank_of_isDigit digit_numeric),
        readValue_of_isDigit digit_numeric, read, ← written]
      rfl
  | flag holds => cases holds <;> rfl

theorem readField_quote {read : Reader Value} {value : Value}
    (name : Text) {rest behind : Text}
    (found : read (skip rest) = some (value, behind)) :
    readField read (quote name ++ ':' :: rest) =
      some ((name, value), behind) := by
  rw [quote_append, readField, readBody_flatMap_quoteChar,
    Option.bind_some]
  dsimp only
  rw [skip_cons_of_not_blank rfl]
  change (read (skip rest)).map _ = _
  rw [found]
  rfl

theorem reads_renderField (levels : Nat) (field : Text × Scalar) :
    Reads (readField (readValue (levels + 1))) (renderField field)
      (field.1, .ofScalar field.2) := by
  intro behind follows
  have blank : ∀ character ∈ "    ".toList, isBlank character = true :=
    List.all_eq_true.1 rfl
  have layout :
      renderField field ++ behind =
        "    ".toList ++
          (quote field.1 ++ ':' :: ' ' :: (field.2.render ++ behind)) := by
    rw [renderField]
    simp only [List.append_assoc, List.cons_append, List.nil_append]
  have name :
      skip (quote field.1 ++ ':' :: ' ' :: (field.2.render ++ behind)) =
        quote field.1 ++ ':' :: ' ' :: (field.2.render ++ behind) := by
    rw [quote_append]
    exact skip_cons_of_not_blank rfl _
  rw [layout, skip_append_of_blank blank, name]
  exact readField_quote field.1 (reads_render levels field.2 behind follows)

/-! ## Items on lines of their own -/

/-- Items on lines of their own, and the text that closes them. -/
def block {β : Type} (render : β → Text) (members : List β)
    (closing : Text) : Text :=
  '\n' :: (separator.intercalate (members.map render) ++ closing)

/-- A mark closes items, with blanks in front of it and a text behind it. -/
structure Closes (close : Char) (closing behind : Text) : Prop where
  follows : Follows closing
  skipped : skip closing = close :: behind
  no_comma : ',' ≠ close

theorem closes_of_blank {close : Char} {gap : Text}
    (blank : ∀ character ∈ gap, isBlank character = true)
    (marked : close = ']' ∨ close = '}') (behind : Text) :
    Closes close (gap ++ close :: behind) behind := by
  have mark :
      isBehind close = true ∧ isBlank close = false ∧ ',' ≠ close := by
    rcases marked with rfl | rfl <;> decide
  rcases mark with ⟨closing, not_blank, no_comma⟩
  refine ⟨?_, ?_, no_comma⟩
  · intro mark member
    cases gap with
    | nil =>
        rw [← Option.some.inj member]
        exact closing
    | cons first gap =>
        rw [← Option.some.inj member, isBehind,
          blank first List.mem_cons_self]
        rfl
  · rw [skip_append_of_blank blank]
    exact skip_cons_of_not_blank not_blank behind

section

variable {α β : Type} {read : Reader α} {close : Char}
  {render : β → Text} {item : β → α} {members : List β}
  {closing behind : Text}

theorem block_singleton (member : β) :
    block render [member] closing =
      '\n' :: (render member ++ closing) := by
  rw [block, List.map_singleton, List.intercalate_singleton]

theorem block_cons_cons (member next : β) :
    block render (member :: next :: members) closing =
      '\n' ::
        (render member ++ ',' :: block render (next :: members) closing) := by
  rw [block, List.map_cons, List.map_cons, List.intercalate_cons_cons,
    List.append_assoc, List.append_assoc]
  rfl

theorem readItems_last {text rest : Text} {found : α}
    (here : read (skip text) = some (found, rest))
    (closed : skip rest = close :: behind) :
    readItems read close text = some ([found], behind) := by
  rw [readItems, here]
  dsimp only
  rw [closed]
  exact if_pos rfl

theorem readItems_more {text rest : Text} {found : α}
    (here : read (skip text) = some (found, rest))
    (continued : skip rest = ',' :: behind)
    (no_comma : ',' ≠ close) (shorter : behind.length < text.length) :
    readItems read close text =
      prepend found (readItems read close behind) := by
  rw [readItems, here]
  dsimp only
  rw [continued]
  dsimp only
  rw [if_neg no_comma, if_pos ⟨rfl, shorter⟩]

/-- Items are read back if each of them is. -/
theorem readItems_block
    (reads : ∀ member ∈ members, Reads read (render member) (item member))
    (filled : members ≠ []) (closes : Closes close closing behind) :
    readItems read close (block render members closing) =
      some (members.map item, behind) := by
  induction members with
  | nil => exact absurd rfl filled
  | cons member members induction =>
      rw [List.forall_mem_cons] at reads
      rcases reads with ⟨here, later⟩
      cases members with
      | nil =>
          rw [block_singleton]
          exact readItems_last (here closing closes.follows) closes.skipped
      | cons next members =>
          have rest := induction later (List.cons_ne_nil next members)
          rw [block_cons_cons]
          generalize block render (next :: members) closing = tail at rest ⊢
          have follows : Follows (',' :: tail) := by
            intro mark first
            rw [← Option.some.inj first]
            rfl
          have found :
              read (skip ('\n' :: (render member ++ ',' :: tail))) =
                some (item member, ',' :: tail) :=
            here _ follows
          have shorter :
              tail.length <
                ('\n' :: (render member ++ ',' :: tail)).length := by
            rw [List.length_cons, List.length_append, List.length_cons]
            omega
          rw [readItems_more found (skip_cons_of_not_blank rfl tail)
            closes.no_comma shorter, rest]
          rfl

/-- Items are read back between their marks, also if there are none. -/
theorem readList_block
    (reads : ∀ member ∈ members, Reads read (render member) (item member))
    (refused : ∀ rest, read (close :: rest) = none)
    (closes : Closes close closing behind) :
    readList read close (block render members closing) =
      some (members.map item, behind) := by
  cases members with
  | nil =>
      have closed : skip (block render [] closing) = close :: behind :=
        closes.skipped
      rw [readList, closed]
      exact if_pos rfl
  | cons member members =>
      have items :=
        readItems_block reads (List.cons_ne_nil member members) closes
      rw [readList]
      split
      next ended =>
        -- the mark behind the items is no blank
        have nothing : skip closing = [] := by
          rw [skip, List.dropWhile_eq_nil_iff] at ended ⊢
          intro character inside
          apply ended
          exact
            List.mem_cons_of_mem _ (List.mem_append_right _ inside)
        rw [closes.skipped] at nothing
        cases nothing
      next mark rest begun =>
        rw [if_neg]
        · exact items
        · rintro rfl
          rw [readItems, begun, refused] at items
          cases items

end

/-! ## Records -/

theorem reads_renderRecord (levels : Nat) (record : Record) :
    Reads (readValue (levels + 2)) (renderRecord record)
      (.ofRecord record) := by
  intro behind _
  have blank : ∀ character ∈ [' ', ' '], isBlank character = true :=
    List.all_eq_true.1 rfl
  have layout :
      renderRecord record ++ behind =
        [' ', ' '] ++
          '{' :: block renderField record
            (['\n', ' ', ' '] ++ '}' :: behind) := by
    rw [renderRecord, block]
    simp only [List.append_assoc, List.cons_append, List.nil_append]
  have fields :
      readList (readField (readValue (levels + 1))) '}'
          (block renderField record (['\n', ' ', ' '] ++ '}' :: behind)) =
        some
          (record.map fun field => (field.1, .ofScalar field.2),
            behind) := by
    apply readList_block
    · intro field _
      exact reads_renderField levels field
    · intro rest
      rfl
    · exact closes_of_blank (List.all_eq_true.1 rfl) (Or.inr rfl) behind
  rw [layout, skip_append_of_blank blank, skip_cons_of_not_blank rfl,
    readValue, fields]
  rfl

theorem readValue_renderRecords (levels : Nat) (records : List Record)
    (behind : Text) :
    readValue (levels + 3) (renderRecords records ++ behind) =
      some (.array (records.map .ofRecord), behind) := by
  cases records with
  | nil => rfl
  | cons record records =>
      have layout :
          renderRecords (record :: records) ++ behind =
            '[' :: block renderRecord (record :: records)
              (['\n'] ++ ']' :: behind) := by
        rw [renderRecords, block]
        · simp only [List.append_assoc, List.cons_append, List.nil_append]
        · exact List.cons_ne_nil record records
      have members :
          readList (readValue (levels + 2)) ']'
              (block renderRecord (record :: records)
                (['\n'] ++ ']' :: behind)) =
            some ((record :: records).map .ofRecord, behind) := by
        apply readList_block
        · intro record _
          exact reads_renderRecord levels record
        · intro rest
          rfl
        · exact closes_of_blank (List.all_eq_true.1 rfl) (Or.inl rfl) behind
      rw [layout, readValue, members]
      rfl

/-- The records of a document are read back from it, whole and in order. -/
theorem read?_renderRecords (records : List Record) {trail : Text}
    (blank : ∀ character ∈ trail, isBlank character = true) :
    read? (renderRecords records ++ trail) =
      some (.array (records.map .ofRecord)) := by
  have value :
      readValue (renderRecords records ++ trail).length
          (renderRecords records ++ trail) =
        some (.array (records.map .ofRecord), trail) := by
    cases records with
    | nil => rfl
    | cons record records =>
        have deep :
            3 ≤ (renderRecords (record :: records) ++ trail).length := by
          rw [renderRecords]
          · simp only [List.length_append, List.length_cons]
            omega
          · exact List.cons_ne_nil record records
        rcases Nat.exists_eq_add_of_le' deep with ⟨levels, total⟩
        rw [total]
        exact readValue_renderRecords levels (record :: records) trail
  have begun :
      skip (renderRecords records ++ trail) =
        renderRecords records ++ trail := by
    cases records <;> exact skip_cons_of_not_blank rfl _
  have ended : skip trail = [] := List.dropWhile_eq_nil_iff.2 blank
  rw [read?, begun, value, Option.bind_some]
  exact if_pos ended

end Json

end XPathScan
