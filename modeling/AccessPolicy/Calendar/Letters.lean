import AccessPolicy.Calendar.Written

/-!
# Formats of date letters

A format such as `Y-m-d H:i:s`, in which each letter with a meaning stands for a part of the
instant, a backslash makes the next character stand for itself, and all else stands for itself
anyway.

The one letter that can fail is `r`, the date of a mail header, which not every year has.
-/

namespace AccessPolicy.Calendar

open Decimal (digits intChars paddedDigits)

/-- Why a format cannot be written: it asks for the date of a mail header, and the year has none. -/
inductive Unwritable where
  | mailYear (year : Int)
  deriving DecidableEq

/-- A year within its century, at least two characters wide; negative before year zero. -/
def yearOfCenturyChars (year : Int) : List Char :=
  let n := Int.tmod year 100
  if n < 0 then '-' :: digits n.natAbs else two n.toNat

/-- What a letter stands for. -/
def letterChars (t : Instant) (c : Char) : Except Unwritable (List Char) :=
  let d := t.date
  match c with
  | 'd' => .ok (two d.day)
  | 'D' => .ok (short (weekdayName d))
  | 'j' => .ok (digits d.day)
  | 'l' => .ok (weekdayName d)
  | 'N' => .ok (digits (d.weekday + 1))
  | 'w' => .ok (digits ((d.weekday + 1) % 7))
  | 'z' => .ok (digits d.dayOfYear)
  | 'W' => .ok (two (isoWeek d).2)
  | 'F' => .ok (monthName d)
  | 'M' => .ok (short (monthName d))
  | 'm' => .ok (two d.month)
  | 'n' => .ok (digits d.month)
  | 't' => .ok (intChars (daysInMonth d))
  | 'L' => .ok [if isLeap d.year then '1' else '0']
  | 'Y' => .ok (intChars d.year)
  | 'y' => .ok (yearOfCenturyChars d.year)
  | 'a' => .ok (if t.hour < 12 then "am" else "pm").toList
  | 'A' => .ok (if t.hour < 12 then "AM" else "PM").toList
  | 'g' => .ok (digits t.hour12)
  | 'G' => .ok (digits t.hour)
  | 'h' => .ok (two t.hour12)
  | 'H' => .ok (two t.hour)
  | 'i' => .ok (two t.minute)
  | 's' => .ok (two t.second)
  | 'v' => .ok (paddedDigits 3 (t.nanos / 1000000))
  | 'U' => .ok (intChars t.secs)
  | 'e' => .ok "UTC".toList
  | 'T' => .ok "UTC".toList
  | 'P' => .ok "+00:00".toList
  | 'O' => .ok "+0000".toList
  | 'c' => .ok (dateChars d ++ 'T' :: clockChars t ++ "+00:00".toList)
  | 'r' =>
    match mailChars? t with
    | some cs => .ok cs
    | none => .error (.mailYear d.year)
  | c => .ok [c]

/-- The instant written by a format of letters. -/
def lettersChars (t : Instant) : List Char → Except Unwritable (List Char)
  | [] => .ok []
  | '\\' :: [] => .ok []
  | '\\' :: c :: cs => do
    let rest ← lettersChars t cs
    return c :: rest
  | c :: cs => do
    let written ← letterChars t c
    let rest ← lettersChars t cs
    return written ++ rest

end AccessPolicy.Calendar
