import AccessPolicy.Calendar.Date

/-!
# Instants

A point of universal time, as seconds from the start of 1970 and nanoseconds within the second. In a
leap second, which shares its number with the second that it follows, the nanoseconds run on from
10⁹. Instants span the years -262143 to 262142.

A leap second ends its minute (`Instant.LeapEndsMinute`) where an instant is made of seconds and
nanoseconds (`Instant.ofUnix?`), and so where it is read of a text. Instants that a host hands over
may hold one behind any other second too, and clocks then show the second that comes next.
-/

namespace AccessPolicy.Calendar

/-- The seconds of a day. -/
def daySeconds : Int := 86400

/-- The first second of the year -262143. -/
def firstSecond : Int := -8334601228800

/-- The last second of the year 262142. -/
def lastSecond : Int := 8210266876799

example : firstSecond = Date.toDays ⟨-262143, 1, 1⟩ * daySeconds := by decide
example : lastSecond = Date.toDays ⟨262143, 1, 1⟩ * daySeconds - 1 := by decide

/-- The nanoseconds of a second. -/
def secondNanos : Nat := 1000000000

/-- A point of universal time. -/
@[ext]
structure Instant where
  secs : Int
  nanos : Nat
  inRange : firstSecond ≤ secs ∧ secs ≤ lastSecond
  nanos_lt : nanos < 2 * secondNanos
  deriving DecidableEq

namespace Instant

/-- Whether the instant is in no leap second, or in one that follows the last second of a minute. -/
def LeapEndsMinute (t : Instant) : Prop :=
  secondNanos ≤ t.nanos → t.secs % 60 = 59

instance (t : Instant) : Decidable t.LeapEndsMinute :=
  inferInstanceAs (Decidable (_ → _))

/-- The instant with the given seconds and nanoseconds, if there is one. A leap second has to end
its minute. -/
def ofUnix? (secs : Int) (nanos : Nat) : Option Instant :=
  if h : (firstSecond ≤ secs ∧ secs ≤ lastSecond) ∧ nanos < 2 * secondNanos ∧
      (secondNanos ≤ nanos → secs % 60 = 59) then
    some ⟨secs, nanos, h.1, h.2.1⟩
  else none

/-- An instant that is made of seconds and nanoseconds is in no leap second within a minute. -/
theorem leapEndsMinute_of_ofUnix? {secs : Int} {nanos : Nat} {t : Instant}
    (h : ofUnix? secs nanos = some t) : t.LeapEndsMinute := by
  unfold ofUnix? at h
  split at h
  · next hvalid =>
    obtain rfl := Option.some_inj.mp h
    exact hvalid.2.2
  · exact nomatch h

/-- The instant of a local date and time, `secs` seconds into the day, at a place whose clocks are
`offset` seconds ahead of universal time. -/
def ofLocal? (d : Date) (secs : Nat) (nanos : Nat) (offset : Int) : Option Instant :=
  let start := d.toDays * daySeconds
  if d.IsReal ∧ firstSecond ≤ start ∧ start ≤ lastSecond then
    ofUnix? (start + secs - offset) nanos
  else none

/-- The number of the day, counted from 1 January 1970. -/
def days (t : Instant) : Int :=
  t.secs / daySeconds

/-- The date in universal time. -/
def date (t : Instant) : Date :=
  .ofDays t.days

/-- The date an instant shows is the one of its day number. -/
theorem toDays_date (t : Instant) : t.date.toDays = t.days :=
  Date.toDays_ofDays t.days

/-- An instant shows a date of the calendar. -/
theorem isReal_date (t : Instant) : t.date.IsReal :=
  Date.isReal_ofDays t.days

/-- The seconds of the day that are over. -/
def secondOfDay (t : Instant) : Nat :=
  (t.secs % daySeconds).toNat

/-- The hour, from 0 to 23. -/
def hour (t : Instant) : Nat :=
  t.secondOfDay / 3600

/-- The minute, from 0 to 59. -/
def minute (t : Instant) : Nat :=
  t.secondOfDay / 60 % 60

/-- The second, from 0 to 59; a leap second has the number of the second that it follows. -/
def second (t : Instant) : Nat :=
  t.secondOfDay % 60

/-- The second as clocks show it, which is one more in a leap second, and so 60 at the end of a
minute. -/
def shownSecond (t : Instant) : Nat :=
  t.second + t.nanos / secondNanos

/-- The nanoseconds as clocks show them, which in a leap second start again from zero. -/
def shownNanos (t : Instant) : Nat :=
  t.nanos % secondNanos

/-- The hour on a clock face, from 1 to 12. -/
def hour12 (t : Instant) : Nat :=
  if t.hour % 12 = 0 then 12 else t.hour % 12

/-- How two instants lie in time. -/
def order (s t : Instant) : Ordering :=
  (compare s.secs t.secs).then (compare s.nanos t.nanos)

end Instant

/-- The week of a date by the international rule: weeks start on Monday and belong to the year that
holds their Thursday. The first part is that year, the second the number of the week in it. -/
def isoWeek (d : Date) : Int × Nat :=
  let thursday := Date.ofDays (d.toDays - d.weekday + 3)
  (thursday.year, thursday.dayOfYear / 7 + 1)

/-- The number of days from the first of the month of a date to the first of the next month. In the
last month of the calendar there is no next one, and it has 31 days. -/
def daysInMonth (d : Date) : Int :=
  let next : Date := if d.month = 12 then ⟨d.year + 1, 1, 1⟩ else ⟨d.year, d.month + 1, 1⟩
  if next.toDays * daySeconds ≤ lastSecond then next.toDays - Date.toDays ⟨d.year, d.month, 1⟩
  else 31

end AccessPolicy.Calendar
