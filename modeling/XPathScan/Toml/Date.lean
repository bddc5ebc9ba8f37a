import XPathScan.Text.Classes
import XPathScan.Toml.Number

/-!
# Dates and times of TOML documents

Whether a run of characters spells a date, a time, or both, with or without an
offset from UTC.  Days are checked against the length of their month, and a
minute may have a leap second.
-/

namespace XPathScan

namespace Toml

/-- Take off a number with exactly `count` digits. -/
def fixedNumber? (count : Nat) (unread : Text) : Option (Nat × Text) :=
  let digits := unread.take count
  if digits.length = count ∧ digits.all isDigit then
    some (Text.toNat digits, unread.drop count)
  else
    none

/-- Take off a number with exactly `count` digits behind a mark. -/
def markedNumber? (mark : Char) (count : Nat) : Text → Option (Nat × Text)
  | first :: rest => if first = mark then fixedNumber? count rest else none
  | [] => none

/-- Whether a year has a leap day. -/
def isLeapYear (year : Nat) : Bool :=
  year % 4 = 0 && (year % 100 ≠ 0 || year % 400 = 0)

/-- The number of days of a month. -/
def daysInMonth (year month : Nat) : Nat :=
  if month = 2 then
    if isLeapYear year then 29 else 28
  else if month = 4 ∨ month = 6 ∨ month = 9 ∨ month = 11 then
    30
  else
    31

/-- Take off a date. -/
def splitDate? (unread : Text) : Option Text := do
  let (year, behindYear) ← fixedNumber? 4 unread
  let (month, behindMonth) ← markedNumber? '-' 2 behindYear
  let (day, rest) ← markedNumber? '-' 2 behindMonth
  if 1 ≤ month ∧ month ≤ 12 ∧ 1 ≤ day ∧ day ≤ daysInMonth year month then
    return rest
  else
    none

/-- Take off the fraction of a second, if there is one. -/
def splitFraction? : Text → Option Text
  | '.' :: rest =>
      if (rest.head?.map isDigit).getD false then
        some (rest.dropWhile isDigit)
      else
        none
  | unread => some unread

/-- Take off a time of day. -/
def splitTime? (unread : Text) : Option Text := do
  let (hour, behindHour) ← fixedNumber? 2 unread
  let (minute, behindMinute) ← markedNumber? ':' 2 behindHour
  let (second, rest) ← markedNumber? ':' 2 behindMinute
  if hour ≤ 23 ∧ minute ≤ 59 ∧ second ≤ 60 then
    splitFraction? rest
  else
    none

/-- Whether a text is an offset from UTC, or nothing. -/
def isOffset : Text → Bool
  | [] | ['Z'] | ['z'] => true
  | sign :: rest =>
      if sign = '+' ∨ sign = '-' then
        match fixedNumber? 2 rest with
        | some (hour, behind) =>
            match markedNumber? ':' 2 behind with
            | some (minute, []) => hour ≤ 23 && minute ≤ 59
            | _ => false
        | none => false
      else
        false

/-- Whether a run of characters is a date and nothing more. -/
def isDate (run : Text) : Bool :=
  splitDate? run == some []

/-- Whether a character may stand between a date and a time. -/
def isTimeMark (character : Char) : Bool :=
  character == 'T' || character == 't' || character == ' '

/-- Whether a run of characters spells a date, a time, or both. -/
def isMoment (run : Text) : Bool :=
  match splitDate? run with
  | some [] => true
  | some (mark :: behind) =>
      isTimeMark mark && ((splitTime? behind).map isOffset).getD false
  | none => splitTime? run == some []

end Toml

end XPathScan
