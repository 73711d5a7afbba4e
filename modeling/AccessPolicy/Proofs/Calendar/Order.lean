import AccessPolicy.Proofs.Calendar.Internet
import AccessPolicy.Proofs.Calendar.Month
import Mathlib.Order.Compare

/-!
# Instants in order

Instants lie in time by their seconds and, within a second, by their nanoseconds. The parts that
clocks and calendars show put them in the same order, from the year down: an instant in an earlier
year, month or day is earlier (`Date.toDays_lt`, `Instant.order_eq_lt_of_toDays_lt`), and on the
same day hours, minutes and seconds decide (`Instant.order_eq_lt_of_date_eq`). That holds across
leap seconds as well, which have the number of the second before and more nanoseconds than any
other.
-/

namespace AccessPolicy.Calendar

/-- A real date that comes first by year, month and day is the earlier day. -/
theorem Date.toDays_lt {d e : Date} (hd : d.IsReal) (he : e.IsReal)
    (h : d.year < e.year ∨
      d.year = e.year ∧ (d.month < e.month ∨ d.month = e.month ∧ d.day < e.day)) :
    d.toDays < e.toDays := by
  have hcases : d.monthNumber < e.monthNumber ∨
      d.year = e.year ∧ d.month = e.month ∧ d.day < e.day := by
    have hlast : d.month ≤ 12 := hd.2.1
    have hfirst : 1 ≤ e.month := he.1
    unfold monthNumber
    omega
  rcases hcases with hmonths | ⟨hyear, hmonth, hday⟩
  · exact toDays_lt_of_monthNumber_lt hd he hmonths
  · -- In one month both are counted from its first.
    have hstart : d.monthStart = e.monthStart := by
      rw [monthStart, monthStart, hyear, hmonth]
    rw [toDays_eq_add d, toDays_eq_add e, hstart]
    omega

namespace Instant

/-! ## Seconds and nanoseconds -/

/-- Instants lie in time by their seconds and then by their nanoseconds. -/
theorem order_eq_compareLex :
    order = compareLex (compareOn Instant.secs) (compareOn Instant.nanos) := rfl

/-- Exchanged instants compare the other way round. -/
theorem order_swap (s t : Instant) : t.order s = (s.order t).swap := by
  rw [order_eq_compareLex]
  exact Std.OrientedCmp.eq_swap

/-- The order of instants is transitive. -/
theorem order_isLE_trans {s t u : Instant} (hst : (s.order t).isLE = true)
    (htu : (t.order u).isLE = true) : (s.order u).isLE = true := by
  rw [order_eq_compareLex] at hst htu ⊢
  exact Std.TransCmp.isLE_trans hst htu

/-- An instant is earlier when its second is, or within one second its nanoseconds are. -/
theorem order_eq_lt_iff {s t : Instant} :
    s.order t = .lt ↔ s.secs < t.secs ∨ s.secs = t.secs ∧ s.nanos < t.nanos := by
  unfold order
  rw [Ordering.then_eq_lt, compare_lt_iff_lt, compare_eq_iff_eq, compare_lt_iff_lt]

/-! ## Parts -/

/-- The seconds of an instant are those of its day and of the time of day. -/
theorem secs_eq (t : Instant) :
    t.secs = t.date.toDays * 86400 + ((t.hour * 60 + t.minute) * 60 + t.second : Nat) := by
  rw [t.clock_bounds.2.2.2, toDays_date]
  unfold days secondOfDay daySeconds
  omega

/-- An instant of an earlier day is earlier. -/
theorem order_eq_lt_of_toDays_lt {s t : Instant} (h : s.date.toDays < t.date.toDays) :
    s.order t = .lt := by
  obtain ⟨hhour, hminute, hsecond, -⟩ := s.clock_bounds
  rw [order_eq_lt_iff, s.secs_eq, t.secs_eq]
  omega

/-- On one day an instant is earlier that comes first by hour, minute, second and nanoseconds. -/
theorem order_eq_lt_of_date_eq {s t : Instant} (hdate : s.date = t.date)
    (h : s.hour < t.hour ∨ s.hour = t.hour ∧ (s.minute < t.minute ∨ s.minute = t.minute ∧
      (s.second < t.second ∨ s.second = t.second ∧ s.nanos < t.nanos))) :
    s.order t = .lt := by
  obtain ⟨-, hminute, hsecond, -⟩ := s.clock_bounds
  rw [order_eq_lt_iff, s.secs_eq, t.secs_eq, hdate]
  omega

end Instant

end AccessPolicy.Calendar
