import AccessPolicy.Calendar.Instant
import Mathlib.Data.Int.Interval
import Mathlib.Data.Set.Card
import Mathlib.Tactic.IntervalCases

/-!
# Months as runs of days

The months follow each other without a gap: the first of a month lies as many days behind the first
of the month before as that month has days (`toDays_nextMonth`). Counted in a row over all years
(`monthNumber`), a later month therefore starts no earlier than where an earlier one ends
(`toDays_nextMonth_le`), which is all that is needed to tell where a day lies: dates with a later
month have later days (`toDays_lt_of_monthNumber_lt`), and a month holds as many days as its length
says (`ncard_monthDays`).

The days of the month of an instant are counted from one first of the month to the next, which works
in all months but the last one of the calendar (`Instant.daysInMonth_eq_ite`). There the number is
fixed, and that month has as many days (`Instant.daysInMonth_date`).
-/

namespace AccessPolicy.Calendar

/-! ## Years -/

/-- A year from March to February has the leap day of the calendar year in which it ends. -/
theorem daysBefore_eq_add (y : Int) :
    daysBefore y = daysBefore (y - 1) + if isLeap y then 366 else 365 := by
  have hleap : isLeap y = true ↔ y % 4 = 0 ∧ (y % 100 ≠ 0 ∨ y % 400 = 0) := by
    simp only [isLeap, Bool.and_eq_true, Bool.or_eq_true, decide_eq_true_eq]
  unfold daysBefore
  split_ifs with h
  · rw [hleap] at h
    omega
  · rw [hleap] at h
    omega

/-- A year is a leap year exactly by the rule of the calendar, negative years included. -/
theorem isLeap_iff (y : Int) : isLeap y = true ↔ (4 ∣ y ∧ ¬100 ∣ y) ∨ 400 ∣ y := by
  simp only [isLeap, Bool.and_eq_true, Bool.or_eq_true, decide_eq_true_eq]
  omega

namespace Date

/-- The calendar has 29 February in the leap years only. -/
theorem isReal_leapDay_iff (y : Int) : IsReal ⟨y, 2, 29⟩ ↔ isLeap y = true := by
  simp only [IsReal, monthLength, if_true]
  split_ifs with h
  · exact iff_of_true (by decide) h
  · exact iff_of_false (by decide) h

/-! ## One month after the other -/

/-- The first day of the month of a date. -/
def monthStart (d : Date) : Date :=
  ⟨d.year, d.month, 1⟩

/-- The first day of the month after that of a date. -/
def nextMonth (d : Date) : Date :=
  if d.month = 12 then ⟨d.year + 1, 1, 1⟩ else ⟨d.year, d.month + 1, 1⟩

/-- January and February belong to the year from March of the year before. -/
theorem toDays_of_le {m : Nat} (h : m ≤ 2) (y : Int) (k : Nat) : toDays ⟨y, m, k⟩ =
    daysBefore (y - 1) + daysBeforeMonth (m + 9) + (k - 1) - epoch := by
  simp only [toDays, marchYear, marchMonth, if_pos h]
  omega

/-- The other months belong to the year from March of their own year. -/
theorem toDays_of_lt {m : Nat} (h : 2 < m) (y : Int) (k : Nat) : toDays ⟨y, m, k⟩ =
    daysBefore y + daysBeforeMonth (m - 3) + (k - 1) - epoch := by
  simp only [toDays, marchYear, marchMonth, if_neg (Nat.not_le.mpr h)]
  omega

/-- The days of a month follow its first day. -/
theorem toDays_eq_add (d : Date) : d.toDays = d.monthStart.toDays + (d.day - 1) := by
  have hyear : d.monthStart.marchYear = d.marchYear := rfl
  have hmonth : d.monthStart.marchMonth = d.marchMonth := rfl
  have hday : d.monthStart.day = 1 := rfl
  unfold toDays
  rw [hyear, hmonth, hday]
  omega

/-- The next month starts where the days of this one are over. -/
theorem toDays_nextMonth {d : Date} (h : 1 ≤ d.month ∧ d.month ≤ 12) :
    d.nextMonth.toDays = d.monthStart.toDays + monthLength d.year d.month := by
  obtain ⟨y, m, k⟩ := d
  have hcases : m = 1 ∨ m = 2 ∨ (2 < m ∧ m < 12) ∨ m = 12 := by
    simp only at h
    omega
  simp only [nextMonth, monthStart, monthLength]
  rcases hcases with rfl | rfl | ⟨hm, hm'⟩ | rfl
  · show toDays ⟨y, 2, 1⟩ = toDays ⟨y, 1, 1⟩ + 31
    rw [toDays_of_le (by decide), toDays_of_le (by decide)]
    unfold daysBeforeMonth
    omega
  · -- February ends the year from March, so that its length is that of the year less the other
    -- months.
    show toDays ⟨y, 3, 1⟩ = toDays ⟨y, 2, 1⟩ + ((if isLeap y then 29 else 28 : Nat) : Int)
    have hyear := daysBefore_eq_add y
    rw [toDays_of_lt (by decide), toDays_of_le (by decide)]
    unfold daysBeforeMonth
    split_ifs at hyear ⊢ <;> omega
  · rw [if_neg hm'.ne, toDays_of_lt (by omega), toDays_of_lt hm, if_neg hm.ne']
    unfold daysBeforeMonth
    interval_cases m <;> simp <;> omega
  · show toDays ⟨y + 1, 1, 1⟩ = toDays ⟨y, 12, 1⟩ + 31
    rw [toDays_of_le (by decide), toDays_of_lt (by decide), Int.add_sub_cancel]
    unfold daysBeforeMonth
    omega

/-! ## Earlier and later months -/

/-- The number of the month of a date, counted in a row over all years. -/
def monthNumber (d : Date) : Int :=
  12 * d.year + d.month

/-- The month after that of a date has the next number, and is a month of the year. -/
theorem monthNumber_nextMonth {d : Date} (h : 1 ≤ d.month ∧ d.month ≤ 12) :
    d.nextMonth.monthNumber = d.monthNumber + 1 ∧
      1 ≤ d.nextMonth.month ∧ d.nextMonth.month ≤ 12 := by
  unfold nextMonth monthNumber
  split_ifs with hdecember
  · simp only
    omega
  · simp only
    omega

/-- The first of a month is the only first of a month with its number. -/
theorem monthStart_eq_of_monthNumber_eq {d e : Date} (hd : 1 ≤ d.month ∧ d.month ≤ 12)
    (he : 1 ≤ e.month ∧ e.month ≤ 12) (h : d.monthNumber = e.monthNumber) :
    d.monthStart = e.monthStart := by
  unfold monthNumber at h
  have hyear : d.year = e.year := by omega
  have hmonth : d.month = e.month := by omega
  rw [monthStart, monthStart, hyear, hmonth]

/-- The next month has no days before its first. -/
theorem monthStart_nextMonth (d : Date) : d.nextMonth.monthStart = d.nextMonth := by
  unfold nextMonth monthStart
  split_ifs <;> rfl

/-- A later month starts where an earlier one ends or behind that. -/
theorem toDays_nextMonth_le {d e : Date} (hd : 1 ≤ d.month ∧ d.month ≤ 12)
    (he : 1 ≤ e.month ∧ e.month ≤ 12) (h : d.monthNumber < e.monthNumber) :
    d.nextMonth.toDays ≤ e.monthStart.toDays := by
  -- The induction is on the number of months in between.
  obtain ⟨n, hn⟩ : ∃ n : Nat, e.monthNumber = d.monthNumber + 1 + n :=
    ⟨(e.monthNumber - d.monthNumber - 1).toNat, by omega⟩
  induction n generalizing d with
  | zero =>
    obtain ⟨hnumber, hmonth⟩ := monthNumber_nextMonth hd
    have hstart : d.nextMonth.monthStart = e.monthStart :=
      monthStart_eq_of_monthNumber_eq hmonth he (by omega)
    rw [← monthStart_nextMonth, hstart]
  | succ n ih =>
    obtain ⟨hnumber, hmonth⟩ := monthNumber_nextMonth hd
    have hlength := toDays_nextMonth hmonth
    rw [monthStart_nextMonth] at hlength
    have hrest := ih hmonth (by omega) (by omega)
    omega

/-- A real day lies in its month. -/
theorem toDays_bounds {d : Date} (h : d.IsReal) :
    d.monthStart.toDays ≤ d.toDays ∧ d.toDays < d.nextMonth.toDays := by
  obtain ⟨h1, h12, hfirst, hlast⟩ := h
  rw [toDays_nextMonth ⟨h1, h12⟩, toDays_eq_add d]
  omega

/-- Of two real dates the one in the later month is the later day. -/
theorem toDays_lt_of_monthNumber_lt {d e : Date} (hd : d.IsReal) (he : e.IsReal)
    (h : d.monthNumber < e.monthNumber) : d.toDays < e.toDays := by
  have hgap := toDays_nextMonth_le ⟨hd.1, hd.2.1⟩ ⟨he.1, he.2.1⟩ h
  have hend := (toDays_bounds hd).2
  have hstart := (toDays_bounds he).1
  omega

/-- The calendar has 1 January of all years. -/
theorem isReal_newYear (y : Int) : IsReal ⟨y, 1, 1⟩ := by
  simp [IsReal, monthLength]

/-- A real day lies in its year. -/
theorem toDays_bounds_year {d : Date} (h : d.IsReal) :
    toDays ⟨d.year, 1, 1⟩ ≤ d.toDays ∧ d.toDays < toDays ⟨d.year + 1, 1, 1⟩ := by
  obtain ⟨h1, h12, hfirst, -⟩ := id h
  constructor
  · -- A day behind January is in a later month than the first day of its year.
    rcases Nat.lt_or_ge 1 d.month with hmonth | hmonth
    · refine (toDays_lt_of_monthNumber_lt (isReal_newYear d.year) h ?_).le
      unfold monthNumber
      simp only
      omega
    · -- A day in January is counted from the first day of its year.
      have hstart : d.monthStart = ⟨d.year, 1, 1⟩ := by
        rw [monthStart, Nat.le_antisymm hmonth h1]
      rw [toDays_eq_add d, hstart]
      omega
  · refine toDays_lt_of_monthNumber_lt h (isReal_newYear (d.year + 1)) ?_
    unfold monthNumber
    simp only
    omega

/-- Years start in their order. -/
theorem toDays_newYear_mono {y z : Int} (h : y ≤ z) : toDays ⟨y, 1, 1⟩ ≤ toDays ⟨z, 1, 1⟩ := by
  rw [toDays_of_le (by decide), toDays_of_le (by decide)]
  have := daysBefore_le (show y - 1 ≤ z - 1 by omega)
  omega

/-- A year has 365 days, and 366 if it is a leap year. -/
theorem toDays_newYear_succ (y : Int) :
    toDays ⟨y + 1, 1, 1⟩ = toDays ⟨y, 1, 1⟩ + if isLeap y then 366 else 365 := by
  rw [toDays_of_le (by decide), toDays_of_le (by decide), Int.add_sub_cancel, daysBefore_eq_add y]
  omega

/-- At most 365 days of the year are over on a day of it. -/
theorem dayOfYear_le {d : Date} (h : d.IsReal) : d.dayOfYear ≤ 365 := by
  have hyear := toDays_bounds_year h
  have hlength := toDays_newYear_succ d.year
  unfold dayOfYear
  split_ifs at hlength <;> omega

/-! ## The days of a month -/

/-- As many days of the calendar lie in a month as its length says. -/
theorem ncard_monthDays (y : Int) {m : Nat} (h : 1 ≤ m ∧ m ≤ 12) :
    {n : Int | (ofDays n).year = y ∧ (ofDays n).month = m}.ncard = monthLength y m := by
  have hrun : {n : Int | (ofDays n).year = y ∧ (ofDays n).month = m} =
      Finset.Ico (toDays ⟨y, m, 1⟩) (toDays ⟨y, m, 1⟩ + monthLength y m) := by
    ext n
    rw [Finset.coe_Ico, Set.mem_Ico, Set.mem_ofPred_eq]
    constructor
    · rintro ⟨rfl, rfl⟩
      have hbounds := toDays_bounds (isReal_ofDays n)
      rwa [toDays_nextMonth h, toDays_ofDays] at hbounds
    · rintro ⟨hstart, hend⟩
      -- The day is reached from the first of the month without leaving it.
      obtain ⟨k, hk⟩ : ∃ k : Nat, n = toDays ⟨y, m, 1⟩ + k :=
        ⟨(n - toDays ⟨y, m, 1⟩).toNat, by omega⟩
      have hreal : IsReal ⟨y, m, k + 1⟩ := ⟨h.1, h.2, by simp only; omega, by simp only; omega⟩
      have hday : toDays ⟨y, m, k + 1⟩ = n := by
        rw [toDays_eq_add, hk]
        simp only [monthStart]
        omega
      rw [← hday, ofDays_toDays hreal]
      exact ⟨rfl, rfl⟩
  rw [hrun, Set.ncard_coe_finset, Int.card_Ico]
  omega

end Date

/-! ## The month of an instant -/

namespace Instant

variable (t : Instant)

/-- Instants span the years -262143 to 262142. -/
theorem year_bounds : -262143 ≤ t.date.year ∧ t.date.year ≤ 262142 := by
  have hrange := t.inRange
  have hfirst : firstSecond = Date.toDays ⟨-262143, 1, 1⟩ * daySeconds := by decide
  have hlast : lastSecond = Date.toDays ⟨262143, 1, 1⟩ * daySeconds - 1 := by decide
  have hyear := Date.toDays_bounds_year t.isReal_date
  rw [toDays_date] at hyear
  unfold days daySeconds at *
  -- A year further on or back starts, or is over, where the seconds of the calendar end.
  constructor
  · by_contra hlt
    have := Date.toDays_newYear_mono (show t.date.year + 1 ≤ -262143 by omega)
    omega
  · by_contra hgt
    have := Date.toDays_newYear_mono (show 262143 ≤ t.date.year by omega)
    omega

/-- The next month lies beyond the calendar only in the last month, December 262142. -/
theorem lastSecond_lt_nextMonth_iff : lastSecond < t.date.nextMonth.toDays * daySeconds ↔
    t.date.year = 262142 ∧ t.date.month = 12 := by
  obtain ⟨h1, h12, -⟩ := t.isReal_date
  constructor
  · intro hbeyond
    by_contra hother
    -- All other months are over where the last one starts.
    have hnumber : t.date.monthNumber < Date.monthNumber ⟨262142, 12, 1⟩ := by
      have := t.year_bounds.2
      simp only [Date.monthNumber]
      omega
    have hover := Date.toDays_nextMonth_le ⟨h1, h12⟩ (by decide) hnumber
    have hlast : (Date.monthStart ⟨262142, 12, 1⟩).toDays * daySeconds ≤ lastSecond := by decide
    unfold daySeconds at hbeyond hlast
    omega
  · rintro ⟨hy, hm⟩
    unfold Date.nextMonth
    rw [if_pos hm, hy]
    decide

/-- The days of the month of an instant are counted to the first of the next month, but for the last
month of the calendar. -/
theorem daysInMonth_eq_ite : daysInMonth t.date =
    if t.date.year = 262142 ∧ t.date.month = 12 then 31
    else t.date.nextMonth.toDays - t.date.monthStart.toDays := by
  have hstep : daysInMonth t.date =
      if t.date.nextMonth.toDays * daySeconds ≤ lastSecond then
        t.date.nextMonth.toDays - t.date.monthStart.toDays
      else 31 := rfl
  have hlast := t.lastSecond_lt_nextMonth_iff
  rw [← Int.not_le] at hlast
  rw [hstep, ← ite_not]
  exact if_congr hlast rfl rfl

/-- The days of the month of an instant are as many as its length says. -/
theorem daysInMonth_date : daysInMonth t.date = monthLength t.date.year t.date.month := by
  rw [daysInMonth_eq_ite]
  split_ifs with hlast
  · rw [hlast.2]
    rfl
  · rw [Date.toDays_nextMonth ⟨t.isReal_date.1, t.isReal_date.2.1⟩]
    omega

end Instant

end AccessPolicy.Calendar
