import AccessPolicy.Calendar.Written

/-!
# Formats of percent directives

A format such as `%Y-%m-%d`, in which a percent sign and the letters behind it stand for a part of
the instant and all else stands for itself. Between the percent sign and a directive for a single
number, `-`, `0` or `_` changes what the number is filled up with. A format that holds anything else
behind a percent sign is not a format (`items?` is none).
-/

namespace AccessPolicy.Calendar

open Decimal (digits padLeft paddedDigits)

/-- What a number is filled up with on the left. -/
inductive Padding where
  | none
  | zeros
  | blanks
  deriving DecidableEq

/-- The numbers that a format can show. -/
inductive Quantity where
  | year
  | century
  | yearOfCentury
  | isoYear
  | isoYearOfCentury
  | quarter
  | month
  | day
  /-- The week of the year, weeks starting on the weekday that is this many days after Monday. -/
  | week (start : Nat)
  | isoWeek
  /-- The weekday, counted from 0 for Sunday. -/
  | weekdayFromSunday
  /-- The weekday, counted from 1 for Monday. -/
  | weekdayFromMonday
  | dayOfYear
  | hour
  | hour12
  | minute
  | second
  | nanosecond
  | timestamp
  deriving DecidableEq

/-- A part of a format. -/
inductive Item where
  | literal (c : Char)
  | number (q : Quantity) (p : Padding)
  | shortWeekday
  | longWeekday
  | shortMonth
  | longMonth
  | halfOfDay (upper : Bool)
  /-- The fraction of the second, in 3, 6 or 9 digits or in as many of them as it needs. -/
  | fraction (pointed : Bool) (places : Option Nat)
  | zoneName
  /-- The distance from universal time, which is none, in one of its four spellings. -/
  | zoneOffset (text : List Char)
  | internet

/-- The digits of a number filled up to a width, a sign counting as part of the number. -/
def filled (p : Padding) (width : Nat) (sign : List Char) (n : Nat) : List Char :=
  match p with
  | .none => sign ++ digits n
  | .zeros => sign ++ paddedDigits (width - sign.length) n
  | .blanks => padLeft width ' ' (sign ++ digits n)

/-- Two places for a number below 256. The character for the tens follows on from the digits when
there are ten of them or more. -/
def twoPlaces (p : Padding) (n : Nat) : List Char :=
  let tens := n / 10
  let ones := Char.ofNat (0x30 + n % 10)
  if tens = 0 ∧ p = .none then [ones]
  else if tens = 0 ∧ p = .blanks then [' ', ones]
  else [Char.ofNat (0x30 + tens), ones]

/-- A year in four places, or in five with its sign if it is not between 0 and 9999. -/
def yearPlaces (p : Padding) (year : Int) : List Char :=
  if 0 ≤ year ∧ year ≤ 9999 then filled p 4 [] year.toNat
  else filled p 5 [if year < 0 then '-' else '+'] year.natAbs

/-- The number of the week of a date, weeks starting `start` days after Monday; the days before the
first such weekday are in week 0. -/
def weekOfYear (d : Date) (start : Nat) : Nat :=
  (d.dayOfYear + 7 - (d.weekday + 7 - start) % 7) / 7

/-- A number of an instant as it is shown. -/
def quantityChars (t : Instant) (p : Padding) (q : Quantity) : List Char :=
  let d := t.date
  match q with
  | .year => yearPlaces p d.year
  | .century => twoPlaces p (d.year / 100 % 256).toNat
  | .yearOfCentury => twoPlaces p (d.year % 100).toNat
  | .isoYear => yearPlaces p (isoWeek d).1
  | .isoYearOfCentury => twoPlaces p ((isoWeek d).1 % 100).toNat
  | .quarter => digits ((d.month + 2) / 3)
  | .month => twoPlaces p d.month
  | .day => twoPlaces p d.day
  | .week start => twoPlaces p (weekOfYear d start)
  | .isoWeek => twoPlaces p (isoWeek d).2
  | .weekdayFromSunday => digits ((d.weekday + 1) % 7)
  | .weekdayFromMonday => digits (d.weekday + 1)
  | .dayOfYear => filled p 3 [] (d.dayOfYear + 1)
  | .hour => twoPlaces p t.hour
  | .hour12 => twoPlaces p t.hour12
  | .minute => twoPlaces p t.minute
  | .second => twoPlaces p t.shownSecond
  | .nanosecond => filled p 9 [] t.shownNanos
  | .timestamp => filled p 9 (if t.secs < 0 then ['-'] else []) t.secs.natAbs

/-- The fraction of the second in a number of places. -/
def fractionPlaces (t : Instant) (places : Nat) : List Char :=
  paddedDigits places (t.shownNanos / Nat.pow 10 (9 - places))

/-- A part of a format as it is shown. -/
def itemChars (t : Instant) : Item → List Char
  | .literal c => [c]
  | .number q p => quantityChars t p q
  | .shortWeekday => short (weekdayName t.date)
  | .longWeekday => weekdayName t.date
  | .shortMonth => short (monthName t.date)
  | .longMonth => monthName t.date
  | .halfOfDay upper =>
    (if upper then (if t.hour < 12 then "AM" else "PM")
      else (if t.hour < 12 then "am" else "pm")).toList
  | .fraction _ none => fractionChars t
  | .fraction pointed (some places) =>
    (if pointed then ['.'] else []) ++ fractionPlaces t places
  | .zoneName => "UTC".toList
  | .zoneOffset text => text
  | .internet => internetChars t ++ "+00:00".toList

/-- The single number that a directive letter stands for, with its usual padding. -/
def quantity? (c : Char) : Option (Quantity × Padding) :=
  match c with
  | 'C' => some (.century, .zeros)
  | 'G' => some (.isoYear, .zeros)
  | 'H' => some (.hour, .zeros)
  | 'I' => some (.hour12, .zeros)
  | 'M' => some (.minute, .zeros)
  | 'S' => some (.second, .zeros)
  | 'U' => some (.week 6, .zeros)
  | 'V' => some (.isoWeek, .zeros)
  | 'W' => some (.week 0, .zeros)
  | 'Y' => some (.year, .zeros)
  | 'd' => some (.day, .zeros)
  | 'e' => some (.day, .blanks)
  | 'f' => some (.nanosecond, .zeros)
  | 'g' => some (.isoYearOfCentury, .zeros)
  | 'j' => some (.dayOfYear, .zeros)
  | 'k' => some (.hour, .blanks)
  | 'l' => some (.hour12, .blanks)
  | 'm' => some (.month, .zeros)
  | 'q' => some (.quarter, .none)
  | 's' => some (.timestamp, .none)
  | 'u' => some (.weekdayFromMonday, .none)
  | 'w' => some (.weekdayFromSunday, .none)
  | 'y' => some (.yearOfCentury, .zeros)
  | _ => none

/-- A number with its usual padding. -/
def usual (c : Char) : Item :=
  match quantity? c with
  | some (q, p) => .number q p
  | none => .literal c

/-- Directive letters and literals in between, as in `m/d/y`. -/
def composed (cs : List Char) : List Item :=
  cs.map usual

/-- The parts that a directive letter stands for. -/
def directive? (c : Char) : Option (List Item) :=
  match c with
  | 'A' => some [.longWeekday]
  | 'B' => some [.longMonth]
  | 'D' => some (composed "m/d/y".toList)
  | 'F' => some (composed "Y-m-d".toList)
  | 'P' => some [.halfOfDay false]
  | 'R' => some (composed "H:M".toList)
  | 'T' => some (composed "H:M:S".toList)
  | 'X' => some (composed "H:M:S".toList)
  | 'Z' => some [.zoneName]
  | 'a' => some [.shortWeekday]
  | 'b' => some [.shortMonth]
  | 'c' =>
    some ([.shortWeekday, .literal ' ', .shortMonth, .literal ' '] ++ composed "e H:M:S Y".toList)
  | 'h' => some [.shortMonth]
  | 'n' => some [.literal '\n']
  | 'p' => some [.halfOfDay true]
  | 'r' => some (composed "I:M:S ".toList ++ [.halfOfDay true])
  | 't' => some [.literal '\t']
  | 'v' => some (composed "e-".toList ++ [.shortMonth] ++ composed "-Y".toList)
  | 'x' => some (composed "m/d/y".toList)
  | 'z' => some [.zoneOffset "+0000".toList]
  | '+' => some [.internet]
  | '%' => some [.literal '%']
  | c => (quantity? c).map fun (q, p) => [.number q p]

/-- The number of digits that a digit asks for in a directive for a fraction. -/
def places? (c : Char) : Option Nat :=
  if c = '3' then some 3 else if c = '6' then some 6 else if c = '9' then some 9 else none

/-- The padding that a character asks for. -/
def padding? (c : Char) : Option Padding :=
  if c = '-' then some .none
  else if c = '0' then some .zeros
  else if c = '_' then some .blanks
  else none

/-- The parts that the text behind a percent sign stands for, and the number of its characters that
belong to the directive. -/
def afterPercent? (cs : List Char) : Option (List Item × Nat) :=
  match cs with
  | ':' :: ':' :: ':' :: 'z' :: _ => some ([.zoneOffset "+00".toList], 4)
  | ':' :: ':' :: 'z' :: _ => some ([.zoneOffset "+00:00:00".toList], 3)
  | ':' :: 'z' :: _ => some ([.zoneOffset "+00:00".toList], 2)
  | '.' :: 'f' :: _ => some ([.fraction true none], 2)
  | '.' :: n :: 'f' :: _ => (places? n).map fun p => ([.fraction true (some p)], 3)
  | c :: rest =>
    match padding? c with
    | some p =>
      match rest with
      | q :: _ => (quantity? q).map fun (q, _) => ([.number q p], 2)
      | [] => none
    | none =>
      match places? c, rest with
      | some p, 'f' :: _ => some ([.fraction false (some p)], 2)
      | _, _ => (directive? c).map fun items => (items, 1)
  | [] => none

/-- The parts of a format; none if it is not one. -/
def items? : List Char → Option (List Item)
  | [] => some []
  | c :: cs =>
    if c = '%' then
      match afterPercent? cs with
      | none => none
      | some (parts, taken) => (items? (cs.drop taken)).map (parts ++ ·)
    else (items? cs).map (.literal c :: ·)
termination_by cs => cs.length
decreasing_by
  all_goals simp only [List.length_cons, List.length_drop]; omega

/-- The instant written by a format of percent directives; none if it is not a format. -/
def directivesChars? (t : Instant) (format : List Char) : Option (List Char) :=
  (items? format).map fun parts => parts.flatMap (itemChars t)

end AccessPolicy.Calendar
