import Quartz.Text.Bytes

/-!
# `Quartz.Yaml.Moment`: dates and times

A date is a year of four digits, a month and a day with dashes between
them. A time may follow: behind a letter `T` with a zone, or behind blanks
without one. Only whether a text is one of them matters.
-/

set_option autoImplicit false

namespace Quartz.Yaml.Moment

open Bytes

/-- The number of days in a month of a year. -/
def daysIn (year month : Nat) : Nat :=
  if month = 2 then
    if (year % 4 = 0 && year % 100 ≠ 0) || year % 400 = 0 then 29 else 28
  else if month = 4 || month = 6 || month = 9 || month = 11 then 30
  else 31

/-- A number of one or two digits, as many as there are, and what follows. -/
def number? : Bytes → Option (Nat × Bytes)
  | a :: b :: rest =>
    if !isDigit a then none
    else if isDigit b then some (digitsValue [a, b], rest)
    else some (digitsValue [a], b :: rest)
  | [a] => if isDigit a then some (digitsValue [a], []) else none
  | [] => none

/-- A number behind a mark. -/
def numberBehind? (mark : Char) : Bytes → Option (Nat × Bytes)
  | b :: rest => if b = byte mark then number? rest else none
  | [] => none

/-- The text behind a date. -/
def date? (s : Bytes) : Option Bytes := do
  let year := s.takeWhile isDigit
  let (month, rest) ← numberBehind? '-' (s.drop year.length)
  let (day, rest) ← numberBehind? '-' rest
  if year.length = 4 && 1 ≤ month && month ≤ 12 && 1 ≤ day && day ≤ daysIn (digitsValue year) month
  then some rest else none

/-- The text behind a fraction of a second, which may be missing. A comma is
as good as a point. -/
def skipFraction : Bytes → Bytes
  | b :: c :: rest =>
    if (b = byte '.' || b = byte ',') && isDigit c then rest.dropWhile isDigit else b :: c :: rest
  | s => s

/-- The text behind a time of day. -/
def time? (s : Bytes) : Option Bytes := do
  let (hour, rest) ← number? s
  let (minute, rest) ← numberBehind? ':' rest
  let (second, rest) ← numberBehind? ':' rest
  if hour < 24 && minute < 60 && second < 60 then some (skipFraction rest) else none

/-- Whether a text is a zone: a letter `Z`, or hours and minutes with a
sign. A whole day and a whole hour are allowed. -/
def isZone : Bytes → Bool
  | [b] => b = byte 'Z'
  | [sign, a, b, colon, c, d] =>
    (sign = byte '+' || sign = byte '-') && colon = byte ':' && [a, b, c, d].all isDigit &&
      digitsValue [a, b] ≤ 24 && digitsValue [c, d] ≤ 60
  | _ => false

/-- Whether a text is a date, with or without a time. -/
def isMoment (s : Bytes) : Bool :=
  match date? s with
  | none => false
  | some [] => true
  | some (b :: rest) =>
    if b = byte 'T' || b = byte 't' then (time? rest).any isZone
    else if b = byte ' ' then time? (rest.dropWhile (· = byte ' ')) = some []
    else false

end Quartz.Yaml.Moment
