import XPathScan.Proofs.Text.Digits
import XPathScan.Proofs.Text.Longest
import XPathScan.Text.Quoted

/-!
# Reading quoted text back

What is written for a character between quotes says where it ends, so the
characters of a quoted text are found again one by one
(`unquoteChar?_quoteChar`), and different texts are quoted differently.  It makes
no difference to this which characters are hidden.
-/

namespace XPathScan

namespace Text

/-! ## Hexadecimal digits -/

/-- The value of a hexadecimal digit in lower case. -/
def hexadecimalValue (digit : Char) : Nat :=
  "0123456789abcdef".toList.idxOf digit

/-- The number that hexadecimal digits spell. -/
def ofHexadecimal (digits : Text) : Nat :=
  digits.foldl (fun number digit => 16 * number + hexadecimalValue digit) 0

theorem hexadecimalValue_digitChar :
    ∀ number < 16, hexadecimalValue (Nat.digitChar number) = number := by
  decide

theorem ofHexadecimal_hexadecimal (number : Nat) :
    ofHexadecimal (hexadecimal number) = number := by
  unfold hexadecimal
  induction number using Nat.base_induction 16 (by decide) with
  | single number small =>
      rw [Nat.toDigits_of_lt_base small, ofHexadecimal]
      exact
        (Nat.zero_add _).trans (hexadecimalValue_digitChar number small)
  | digit front last small positive induction =>
      rw [← Nat.toDigits_append_toDigits (by decide) positive small,
        Nat.toDigits_of_lt_base small, ofHexadecimal, List.foldl_append,
        ← ofHexadecimal, induction]
      exact
        congrArg (16 * front + ·) (hexadecimalValue_digitChar last small)

theorem brace_not_mem_hexadecimal (number : Nat) :
    '}' ∉ hexadecimal number :=
  not_mem_toDigits (fun _ => Nat.digitChar_ne '}' rfl) (by decide) number

/-! ## Characters -/

/-- The letters that follow a backslash, with what they stand for. -/
def escapes : List (Char × Char) :=
  [('0', '\x00'), ('t', '\t'), ('r', '\r'), ('n', '\n'), ('"', '"'),
    ('\\', '\\')]

/-- Read what follows a backslash. -/
def unescape? : Text → Option (Char × Text)
  | 'u' :: '{' :: rest =>
      let digits := rest.takeWhile (· != '}')
      some
        (Char.ofNat (ofHexadecimal digits),
          (rest.dropWhile (· != '}')).drop 1)
  | letter :: rest =>
      (escapes.lookup letter).map fun character => (character, rest)
  | [] => none

/-- Read the first character of what stands between quotes. -/
def unquoteChar? : Text → Option (Char × Text)
  | '\\' :: escape => unescape? escape
  | character :: rest => some (character, rest)
  | [] => none

theorem unescape?_numbered (character : Char) (rest : Text) :
    unescape? ('u' :: '{' :: (hexadecimal character.toNat ++ '}' :: rest)) =
      some (character, rest) := by
  have inside := bne_of_not_mem (brace_not_mem_hexadecimal character.toNat)
  have outside : ('}' != '}') = false := rfl
  rw [unescape?, takeWhile_append_cons inside outside,
    dropWhile_append_cons inside outside, ofHexadecimal_hexadecimal,
    Char.ofNat_toNat]
  rfl

/-- A character is read back from what is written for it. -/
theorem unquoteChar?_quoteChar (character : Char) (rest : Text) :
    unquoteChar? (quoteChar character ++ rest) = some (character, rest) := by
  unfold quoteChar
  split
  case h_7 no_backslash =>
    split
    next =>
      have read := unescape?_numbered character rest
      simpa [numbered, unquoteChar?] using read
    next =>
      rw [List.singleton_append, unquoteChar?]
      exact no_backslash
  -- the other characters have a letter of their own
  all_goals rfl

theorem quoteChar_ne_nil (character : Char) : quoteChar character ≠ [] := by
  intro nothing
  have read := unquoteChar?_quoteChar character []
  rw [nothing] at read
  cases read

/-! ## Texts -/

theorem flatMap_quoteChar_injective {left right : Text}
    (same : left.flatMap quoteChar = right.flatMap quoteChar) :
    left = right := by
  induction left generalizing right with
  | nil =>
      cases right with
      | nil => rfl
      | cons character right =>
          rw [List.flatMap_nil, List.flatMap_cons] at same
          have nothing := (List.append_eq_nil_iff.1 same.symm).1
          exact absurd nothing (quoteChar_ne_nil character)
  | cons character left induction =>
      cases right with
      | nil =>
          rw [List.flatMap_nil, List.flatMap_cons] at same
          have nothing := (List.append_eq_nil_iff.1 same).1
          exact absurd nothing (quoteChar_ne_nil character)
      | cons character' right =>
          rw [List.flatMap_cons, List.flatMap_cons] at same
          have read := congrArg unquoteChar? same
          rw [unquoteChar?_quoteChar, unquoteChar?_quoteChar,
            Option.some.injEq, Prod.mk.injEq] at read
          rw [read.1, induction read.2]

/-- Different texts are quoted differently. -/
theorem quote_injective {left right : Text}
    (same : quote left = quote right) : left = right := by
  rw [quote, quote, List.cons_append, List.cons_append, List.cons.injEq]
    at same
  exact
    flatMap_quoteChar_injective (List.append_cancel_right same.2)

end Text

end XPathScan
