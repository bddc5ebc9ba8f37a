import XPathScan.Text.Basic
import XPathScan.Text.Classes

/-!
# Numbers of TOML documents

Whether a run of characters spells an integer or a float.  Digits may be parted
by single underscores.  Integers lie between -2^63 and 2^63 - 1.  A float may
be too small to be told from zero but not so large that it rounds to positive
infinity.
-/

namespace XPathScan

namespace Toml

/-- The digits of a group, its underscores taken out. -/
def groupDigits (group : Text) : Text :=
  group.filter (· != '_')

/--
Whether a text is one digit or more of a class, with single underscores
between digits only.
-/
def isGroup (member : Char → Bool) : Text → Bool
  | [] => false
  | [digit] => member digit
  | digit :: '_' :: rest => member digit && isGroup member rest
  | digit :: rest => member digit && isGroup member rest

/-- A group of decimal digits without leading zeros. -/
def isWhole (group : Text) : Bool :=
  isGroup isDigit group && (group.length == 1 || group.head? != some '0')

/-- The sign and the rest of a text; none if there is no sign. -/
def splitSign : Text → Option Char × Text
  | '+' :: rest => (some '+', rest)
  | '-' :: rest => (some '-', rest)
  | unsigned => (none, unsigned)

/-! ## Integers -/

/-- The least number above all integers. -/
def integerBound : Nat :=
  Nat.pow 2 63

/-- The digit class and base of a number with a given base mark. -/
def baseOf? : Char → Option Nat
  | 'x' => some 16
  | 'o' => some 8
  | 'b' => some 2
  | _ => none

/-- The value of a digit or letter. -/
def digitValue (digit : Char) : Nat :=
  if isDigit digit then
    digit.toNat - '0'.toNat
  else if 'a' ≤ digit ∧ digit ≤ 'z' then
    digit.toNat - 'a'.toNat + 10
  else if 'A' ≤ digit ∧ digit ≤ 'Z' then
    digit.toNat - 'A'.toNat + 10
  else
    36

/-- The number that digits of a base spell. -/
def numberInBase (base : Nat) (digits : Text) : Nat :=
  digits.foldl (fun number digit => base * number + digitValue digit) 0

/-- The integer that a run of characters spells. -/
def integer? (run : Text) : Option Int :=
  match run with
  | '0' :: mark :: group =>
      match baseOf? mark with
      | some base =>
          let number := numberInBase base (groupDigits group)
          if isGroup (digitValue · < base) group ∧ number < integerBound then
            some number
          else
            none
      | none => none
  | _ =>
      let (sign, group) := splitSign run
      let number := Text.toNat (groupDigits group)
      if ¬isWhole group then
        none
      else if sign = some '-' then
        if number ≤ integerBound then some (-number) else none
      else
        if number < integerBound then some number else none

/-! ## Floats -/

/-- The parts of a decimal numeral, each without underscores. -/
structure Numeral where
  negative : Bool
  whole : Text
  fraction : Text
  exponentNegative : Bool
  exponent : Text
  deriving DecidableEq

/-- The least number that rounds to infinity. -/
def infinityBound : Nat :=
  Nat.pow 2 1024 - Nat.pow 2 970

/--
Whether a numeral rounds to infinity.  Numerals with far more digits before the
point than the bound, or far fewer, are told apart by their length alone.
-/
def Numeral.isInfinite (numeral : Numeral) : Bool :=
  let digits := numeral.whole ++ numeral.fraction
  let mantissa := Text.toNat digits
  let exponent : Int :=
    (if numeral.exponentNegative then
        -(Text.toNat numeral.exponent : Int)
      else
        Text.toNat numeral.exponent) - numeral.fraction.length
  let magnitude : Int :=
    exponent + (digits.dropWhile (· == '0')).length
  if mantissa = 0 ∨ magnitude < 309 then
    false
  else if 309 < magnitude then
    true
  else if exponent < 0 then
    infinityBound * Nat.pow 10 exponent.natAbs ≤ mantissa
  else
    infinityBound ≤ mantissa * Nat.pow 10 exponent.natAbs

/-- The exponent of a float behind its mark, if it is well formed. -/
def exponent? (unread : Text) : Option (Bool × Text) :=
  let (sign, group) := splitSign unread
  if isGroup isDigit group then
    some (sign = some '-', groupDigits group)
  else
    none

/-- Whether a character marks an exponent. -/
def isExponentMark (character : Char) : Bool :=
  character == 'e' || character == 'E'

/-- The numeral that a run of characters spells; it has a point or exponent. -/
def numeral? (run : Text) : Option Numeral := do
  let (sign, unsigned) := splitSign run
  let coefficient := unsigned.takeWhile (!isExponentMark ·)
  let scale := unsigned.dropWhile (!isExponentMark ·)
  let whole := coefficient.takeWhile (· != '.')
  let (exponentNegative, exponent) ←
    match scale with
    | [] => some (false, [])
    | _ :: behind => exponent? behind
  let fraction ←
    match coefficient.dropWhile (· != '.') with
    | [] => if scale.isEmpty then none else some []
    | _ :: group => if isGroup isDigit group then some group else none
  if isWhole whole then
    return ⟨sign = some '-', groupDigits whole, groupDigits fraction,
      exponentNegative, exponent⟩
  else
    none

/-- Whether a run of characters spells a float. -/
def isFloat (run : Text) : Bool :=
  let unsigned := (splitSign run).2
  unsigned == "inf".toList || unsigned == "nan".toList ||
    match numeral? run with
    | some numeral => numeral.negative || !numeral.isInfinite
    | none => false

end Toml

end XPathScan
