import Stepwise.Yaml.Digits

/-!
# Dates and times

A date is a year of four digits, a month and a day.  A time of day may follow it: after a `T` with
an offset from universal time, or after spaces with none.  The day must exist in its month.
-/

namespace Stepwise

namespace Yaml

/-- A number of one or two digits at the front, and what follows it. -/
def shortNumber? (cs : List Char) : Option (Nat × List Char) :=
  match cs with
  | a :: b :: rest =>
    if a.isDigit then
      if b.isDigit then (digitsValue? 10 0 [a, b]).map (·, rest)
      else (digitsValue? 10 0 [a]).map (·, b :: rest)
    else none
  | [a] => if a.isDigit then (digitsValue? 10 0 [a]).map (·, []) else none
  | [] => none

/-- What follows the given character. -/
def after? (c : Char) : List Char → Option (List Char)
  | d :: rest => if d = c then some rest else none
  | [] => none

/-- Whether a year has a 29th of February. -/
def isLeapYear (year : Nat) : Bool := year % 4 = 0 && (year % 100 ≠ 0 || year % 400 = 0)

/-- The number of days of a month. -/
def daysIn (year month : Nat) : Nat :=
  if month = 2 then (if isLeapYear year then 29 else 28)
  else if [4, 6, 9, 11].contains month then 30
  else 31

/-- What follows a date at the front. -/
def afterDate? (cs : List Char) : Option (List Char) := do
  guard ((cs.takeWhile Char.isDigit).length = 4)
  let year ← digitsValue? 10 0 (cs.take 4)
  let (month, rest) ← shortNumber? (← after? '-' (cs.drop 4))
  let (day, rest) ← shortNumber? (← after? '-' rest)
  guard (1 ≤ month ∧ month ≤ 12 ∧ 1 ≤ day ∧ day ≤ daysIn year month)
  return rest

/-- What follows a fraction of a second at the front, if there is one. -/
def afterFraction : List Char → List Char
  | mark :: d :: rest =>
    if (mark = '.' ∨ mark = ',') ∧ d.isDigit then rest.dropWhile Char.isDigit
    else mark :: d :: rest
  | cs => cs

/-- What follows a time of day at the front. -/
def afterTime? (cs : List Char) : Option (List Char) := do
  let (hour, rest) ← shortNumber? cs
  let (minute, rest) ← shortNumber? (← after? ':' rest)
  let (second, rest) ← shortNumber? (← after? ':' rest)
  guard (hour < 24 ∧ minute < 60 ∧ second < 60)
  return afterFraction rest

/-- Whether the characters are an offset from universal time: `Z`, or hours and minutes with a
sign. -/
def isOffset : List Char → Bool
  | ['Z'] => true
  | [sign, a, b, ':', c, d] =>
    (sign = '+' || sign = '-') &&
      (digitsValue? 10 0 [a, b]).any (· ≤ 24) && (digitsValue? 10 0 [c, d]).any (· ≤ 60)
  | _ => false

/-- Whether the characters after a date are nothing or a time of day. -/
def isTimePart : List Char → Bool
  | [] => true
  | c :: rest =>
    if c = 'T' ∨ c = 't' then (afterTime? rest).any isOffset
    else if c = ' ' then (afterTime? (rest.dropWhile (· = ' '))).any List.isEmpty
    else false

/-- Whether the characters are a date, with or without a time of day. -/
def isTimestamp (cs : List Char) : Bool := (afterDate? cs).any isTimePart

end Yaml

end Stepwise
