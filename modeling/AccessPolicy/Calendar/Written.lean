import AccessPolicy.Calendar.Instant
import AccessPolicy.Decimal.Integer

/-!
# Standard written forms of instants

The internet date and time format, such as `2024-02-09T14:05:07.5Z`, and the date of a mail header,
such as `Fri, 9 Feb 2024 14:05:07 +0000`. Years outside 0 to 9999 have a sign in the former and no
form at all in the latter.
-/

namespace AccessPolicy.Calendar

open Decimal (paddedDigits)

/-- Two digits. -/
def two (n : Nat) : List Char :=
  paddedDigits 2 n

/-- A year in four digits or more, with a sign if it is not between 0 and 9999. -/
def yearChars (year : Int) : List Char :=
  if 0 ≤ year ∧ year ≤ 9999 then paddedDigits 4 year.toNat
  else (if year < 0 then '-' else '+') :: paddedDigits 4 year.natAbs

/-- Hours, minutes and seconds. -/
def clockChars (t : Instant) : List Char :=
  two t.hour ++ ':' :: two t.minute ++ ':' :: two t.shownSecond

/-- The point and the fraction of the second, in as many of 0, 3, 6 or 9 digits as it needs. -/
def fractionChars (t : Instant) : List Char :=
  let n := t.shownNanos
  if n = 0 then []
  else if n % 1000000 = 0 then '.' :: paddedDigits 3 (n / 1000000)
  else if n % 1000 = 0 then '.' :: paddedDigits 6 (n / 1000)
  else '.' :: paddedDigits 9 n

/-- Year, month and day. -/
def dateChars (d : Date) : List Char :=
  yearChars d.year ++ '-' :: two d.month ++ '-' :: two d.day

/-- The internet date and time, up to the zone. -/
def internetChars (t : Instant) : List Char :=
  dateChars t.date ++ 'T' :: clockChars t ++ fractionChars t

/-- The internet date and time. -/
def internetText (t : Instant) : String :=
  String.ofList (internetChars t ++ ['Z'])

/-- The date of a mail header; none for a year that has more than four digits or a sign. -/
def mailChars? (t : Instant) : Option (List Char) :=
  let d := t.date
  if 0 ≤ d.year ∧ d.year ≤ 9999 then
    some (short (weekdayName d) ++ [',', ' '] ++
      Decimal.digits d.day ++ ' ' :: short (monthName d) ++ ' ' :: paddedDigits 4 d.year.toNat ++
      ' ' :: clockChars t ++ " +0000".toList)
  else none

end AccessPolicy.Calendar
