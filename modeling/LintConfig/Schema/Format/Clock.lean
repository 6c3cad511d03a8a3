import LintConfig.Calendar

/-!
# Dates and times

The texts that name a day, a time of the day with an offset, or both.  `Clock.isDate`,
`Clock.isTime` and `Clock.isDateTime` say which ones do.

**Digits.**  The six characters after the nine count on, so they pass for digits wherever two of
them are read as a number.

**Leap seconds.**  A minute has a sixty-first second only at the end of a day, as the day is
reckoned without the offset.
-/

namespace LintConfig

namespace Clock

/-- The value of a digit; the six characters after the nine count on. -/
def digit? (c : Char) : Option Nat :=
  if '0' ≤ c ∧ c ≤ '?' then some (c.toNat - '0'.toNat) else none

/-- The number that two digits spell. -/
def twoDigits? (a b : Char) : Option Nat :=
  match digit? a, digit? b with
  | some a, some b => some (10 * a + b)
  | _, _ => none

/-- Whether a text is a date in the form year, month, day with four, two and two digits. -/
def isDate (cs : List Char) : Bool :=
  match cs with
  | [a, b, c, d, '-', e, f, '-', g, h] =>
    match twoDigits? a b, twoDigits? c d, twoDigits? e f, twoDigits? g h with
    | some century, some year, some month, some day =>
      Calendar.isDay (100 * century + year) month day
    | _, _, _, _ => false
  | _ => false

/-- The minutes by which an offset is ahead. -/
def offsetMinutes? (cs : List Char) : Option Int :=
  match cs with
  | ['Z'] => some 0
  | ['z'] => some 0
  | [sign, a, b, ':', c, d] =>
    match twoDigits? a b, twoDigits? c d with
    | some hours, some minutes =>
      if hours ≤ 23 ∧ minutes ≤ 59 then
        if sign = '+' then some (hours * 60 + minutes)
        else if sign = '-' then some (-(hours * 60 + minutes : Int))
        else none
      else none
    | _, _ => none
  | _ => none

/-- A text without the fraction of a second at its start; a point needs a digit after it. -/
def afterFraction? (cs : List Char) : Option (List Char) :=
  match cs with
  | '.' :: rest =>
    if (rest.head?.map Char.isDigit).getD false then some (rest.dropWhile Char.isDigit) else none
  | cs => some cs

/-- Whether a text is a time. -/
def isTime (cs : List Char) : Bool :=
  match cs with
  | a :: b :: ':' :: c :: d :: ':' :: e :: f :: rest =>
    match twoDigits? a b, twoDigits? c d, twoDigits? e f,
      (afterFraction? rest).bind offsetMinutes? with
    | some hour, some minute, some second, some offset =>
      hour ≤ 23 && minute ≤ 59 && second ≤ 60
        && (second != 60 || ((hour * 60 + minute : Int) - offset) % 1440 == 1439)
    | _, _, _, _ => false
  | _ => false

/-- Whether a text is a date and a time with a letter between them. -/
def isDateTime (cs : List Char) : Bool :=
  let isMark (c : Char) : Bool := c = 'T' || c = 't'
  match cs.dropWhile fun c => !isMark c with
  | _ :: clock => isDate (cs.takeWhile fun c => !isMark c) && isTime clock
  | [] => false

end Clock

end LintConfig
