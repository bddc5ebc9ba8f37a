import XPathScan.Text.Basic
import XPathScan.Text.Classes

/-!
# Digits of numbers

A number is written in decimal digits and read back from them, so different
numbers are written differently.  Only zero is written with a zero in front.
Digits of any base are digits or letters and end no line.
-/

namespace XPathScan

namespace Text

theorem toNat_ofNat (number : Nat) : toNat (ofNat number) = number :=
  Nat.ofDigitChars_ten_toDigits

theorem ofNat_injective {left right : Nat}
    (same : ofNat left = ofNat right) : left = right := by
  rw [← toNat_ofNat left, same, toNat_ofNat]

theorem ofNat_ne_nil (number : Nat) : ofNat number ≠ [] :=
  Nat.toDigits_ne_nil

theorem isDigit_of_mem_ofNat {number : Nat} :
    ∀ digit ∈ ofNat number, isDigit digit = true := by
  intro digit member
  have decimal : digit.isDigit = true :=
    Nat.isDigit_of_mem_toDigits (by decide) (by decide) member
  simpa [Char.isDigit, isDigit, Char.le_def] using decimal

/-- Only zero is written with a zero in front. -/
theorem eq_zero_of_ofNat_eq_cons {number : Nat} {rest : Text}
    (written : ofNat number = '0' :: rest) : number = 0 := by
  unfold ofNat at written
  induction number using Nat.base_induction 10 (by decide)
      generalizing rest with
  | single number small =>
      rw [Nat.toDigits_of_lt_base small, List.cons.injEq] at written
      exact Nat.digitChar_eq_zero.1 written.1
  | digit front last small positive induction =>
      rw [← Nat.toDigits_append_toDigits (by decide) positive small]
        at written
      rcases List.append_eq_cons_iff.1 written with
        ⟨nothing, -⟩ | ⟨behind, front_written, -⟩
      · exact absurd nothing Nat.toDigits_ne_nil
      · have zero := induction front_written
        omega

/-- What is no digit of any base is not among the digits of a number. -/
theorem not_mem_toDigits {mark : Char} {base : Nat}
    (apart : ∀ digit, Nat.digitChar digit ≠ mark) (several : 1 < base)
    (number : Nat) : mark ∉ Nat.toDigits base number := by
  induction number using Nat.base_induction base several with
  | single number small =>
      rw [Nat.toDigits_of_lt_base small, List.mem_singleton]
      exact (apart number).symm
  | digit front last small positive induction =>
      rw [← Nat.toDigits_append_toDigits several positive small,
        Nat.toDigits_of_lt_base small, List.mem_append, List.mem_singleton]
      rintro (before | here)
      · exact induction before
      · exact (apart last).symm here

/-- The sign of a number below zero tells it from all others. -/
theorem ofInt_injective {left right : Int}
    (same : ofInt left = ofInt right) : left = right := by
  have no_sign (number : Nat) (digits : Text) :
      ofNat number ≠ '-' :: digits := by
    intro signed
    have absent : '-' ∉ ofNat number :=
      not_mem_toDigits (fun _ => Nat.digitChar_ne '-' rfl) (by decide) number
    rw [signed] at absent
    exact absent List.mem_cons_self
  cases left <;> cases right <;> simp only [ofInt] at same
  case ofNat.ofNat => rw [ofNat_injective same]
  case ofNat.negSucc => exact absurd same (no_sign _ _)
  case negSucc.ofNat => exact absurd same.symm (no_sign _ _)
  case negSucc.negSucc =>
      rw [Nat.succ.inj (ofNat_injective (List.cons.inj same).2)]

/-- Digits of any base end no line. -/
theorem lineFeed_not_mem_toDigits {base : Nat} (several : 1 < base)
    (number : Nat) : '\n' ∉ Nat.toDigits base number :=
  not_mem_toDigits (fun _ => Nat.digitChar_ne '\n' rfl) several number

end Text

end XPathScan
