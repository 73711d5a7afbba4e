/-!
# Dates

Dates of the proleptic Gregorian calendar, years of either sign and year zero included, and the
numbering of days from 1 January 1970. `ofDays` and `toDays` are inverse to each other
(`toDays_ofDays`, `ofDays_toDays`).

Both count years from 1 March, so that the leap day comes last: `daysBefore y` days lie before the
year that starts in March of `y`. The names of weekdays and months stand at the end.
-/

namespace AccessPolicy.Calendar

/-- Whether a year has a leap day: every fourth, but of the centuries only every fourth. -/
def isLeap (year : Int) : Bool :=
  year % 4 = 0 && (year % 100 ≠ 0 || year % 400 = 0)

/-- The number of days of a month. -/
def monthLength (year : Int) (month : Nat) : Nat :=
  if month = 2 then (if isLeap year then 29 else 28)
  else if month = 4 ∨ month = 6 ∨ month = 9 ∨ month = 11 then 30
  else 31

/-- A day of the calendar. -/
structure Date where
  year : Int
  month : Nat
  day : Nat
  deriving DecidableEq

namespace Date

/-- Whether the calendar has the day. -/
def IsReal (d : Date) : Prop :=
  1 ≤ d.month ∧ d.month ≤ 12 ∧ 1 ≤ d.day ∧ d.day ≤ monthLength d.year d.month

instance (d : Date) : Decidable d.IsReal :=
  inferInstanceAs (Decidable (_ ∧ _))

end Date

/-- The days from 1 March of year zero to 1 March of a year. -/
def daysBefore (year : Int) : Int :=
  365 * year + year / 4 - year / 100 + year / 400

/-- A later year has at least as many days before it. -/
theorem daysBefore_le {y z : Int} (h : y ≤ z) : daysBefore y ≤ daysBefore z := by
  simp only [daysBefore]
  omega

/-- The year from March in which a day lies, and the days of it that are over. The days fall into
cycles of 400, 100, 4 and 1 years; the last century and the last year of their cycles are a day
longer than the others. -/
def splitYear (n : Int) : Int × Int :=
  let r400 := n % 146097
  let n100 := min (r400 / 36524) 3
  let r100 := r400 - 36524 * n100
  let r4 := r100 % 1461
  let n1 := min (r4 / 365) 3
  (400 * (n / 146097) + 100 * n100 + 4 * (r100 / 1461) + n1, r4 - 365 * n1)

/-- The place of a day in the four cycles. Only the last year of a cycle of four has 366 days, and
the last year of a century only if the century is the last of its cycle. -/
theorem splitYear_cycles (n : Int) : ∃ a b c d r : Int,
    splitYear n = (400 * a + 100 * b + 4 * c + d, r) ∧
      n = 146097 * a + 36524 * b + 1461 * c + 365 * d + r ∧ 0 ≤ b ∧ b ≤ 3 ∧ 0 ≤ c ∧ c ≤ 24 ∧
      0 ≤ d ∧ d ≤ 3 ∧ 0 ≤ r ∧ r ≤ 365 ∧ (r = 365 → d = 3 ∧ (c ≠ 24 ∨ b = 3)) := by
  refine ⟨n / 146097, min (n % 146097 / 36524) 3,
    (n % 146097 - 36524 * min (n % 146097 / 36524) 3) / 1461,
    min ((n % 146097 - 36524 * min (n % 146097 / 36524) 3) % 1461 / 365) 3,
    (n % 146097 - 36524 * min (n % 146097 / 36524) 3) % 1461 -
      365 * min ((n % 146097 - 36524 * min (n % 146097 / 36524) 3) % 1461 / 365) 3,
    rfl, ?_⟩
  omega

/-- The parts add up to the day, and the day lies in the year. -/
theorem splitYear_spec (n : Int) :
    daysBefore (splitYear n).1 + (splitYear n).2 = n ∧ 0 ≤ (splitYear n).2 ∧
      n < daysBefore ((splitYear n).1 + 1) := by
  obtain ⟨a, b, c, d, r, h, hn, hb0, hb, hc0, hc, hd0, hd, hr0, hr, hlast⟩ := splitYear_cycles n
  simp only [h, daysBefore]
  have h4 : (400 * a + 100 * b + 4 * c + d) / 4 = 100 * a + 25 * b + c := by omega
  have h100 : (400 * a + 100 * b + 4 * c + d) / 100 = 4 * a + b := by omega
  have h400 : (400 * a + 100 * b + 4 * c + d) / 400 = a := by omega
  rw [h4, h100, h400]
  omega

/-- A day lies in one year only. -/
theorem splitYear_daysBefore_add {y r : Int} (h0 : 0 ≤ r)
    (h : daysBefore y + r < daysBefore (y + 1)) :
    splitYear (daysBefore y + r) = (y, r) := by
  obtain ⟨hs, hs0, hs1⟩ := splitYear_spec (daysBefore y + r)
  have hy : (splitYear (daysBefore y + r)).1 = y := by
    rcases Int.lt_trichotomy (splitYear (daysBefore y + r)).1 y with hlt | heq | hgt
    · have := daysBefore_le (show (splitYear (daysBefore y + r)).1 + 1 ≤ y by omega)
      omega
    · exact heq
    · have := daysBefore_le (show y + 1 ≤ (splitYear (daysBefore y + r)).1 by omega)
      omega
  rw [hy] at hs
  exact Prod.ext hy (by omega)

/-- The days from 1 March to the first of a month, the months being counted from March. -/
def daysBeforeMonth (month : Int) : Int :=
  (153 * month + 2) / 5

/-- The month, counted from March, in which a day of the year from March lies. -/
def monthOf (r : Int) : Int :=
  (5 * r + 2) / 153

/-- The days from 1 March of year zero to 1 January 1970. -/
def epoch : Int := 719468

namespace Date

/-- The year from March in which a day lies. -/
def marchYear (d : Date) : Int :=
  if d.month ≤ 2 then d.year - 1 else d.year

/-- The month of a day, counted from March. -/
def marchMonth (d : Date) : Int :=
  if d.month ≤ 2 then d.month + 9 else d.month - 3

/-- The number of a day, counted from 1 January 1970. -/
def toDays (d : Date) : Int :=
  daysBefore d.marchYear + (daysBeforeMonth d.marchMonth + (d.day - 1)) - epoch

/-- The day that lies `r` days after 1 March of a year. -/
def ofMarch (year r : Int) : Date :=
  let month := monthOf r
  let day := (r - daysBeforeMonth month + 1).toNat
  if month < 10 then ⟨year, (month + 3).toNat, day⟩ else ⟨year + 1, (month - 9).toNat, day⟩

/-- The day with a number. -/
def ofDays (n : Int) : Date :=
  let (year, r) := splitYear (n + epoch)
  ofMarch year r

/-- The place of a real day in its year from March is within that year. -/
theorem march_lt {d : Date} (h : d.IsReal) :
    0 ≤ daysBeforeMonth d.marchMonth + (d.day - 1 : Int) ∧
      daysBefore d.marchYear + (daysBeforeMonth d.marchMonth + (d.day - 1)) <
        daysBefore (d.marchYear + 1) := by
  obtain ⟨y, m, k⟩ := d
  simp only [IsReal, monthLength, isLeap, marchYear, marchMonth, daysBefore, daysBeforeMonth] at h ⊢
  obtain ⟨h1, h2, h3, h4⟩ := h
  by_cases hm : m = 2
  · subst hm
    by_cases h4' : y % 4 = 0 <;> by_cases h100 : y % 100 = 0 <;> by_cases h400 : y % 400 = 0 <;>
      simp [h4', h100, h400] at h4 ⊢ <;> omega
  · by_cases hm2 : m ≤ 2
    · have : m = 1 := by omega
      subst this
      simp at h4 ⊢
      omega
    · simp only [hm, hm2, if_false] at h4 ⊢
      split at h4 <;> omega

/-- No month has more than 31 days, February at most 29, and the four short ones have 30. -/
theorem monthLength_le (year : Int) (month : Nat) :
    monthLength year month ≤ 31 ∧ (month = 2 → monthLength year month ≤ 29) ∧
      (month = 4 ∨ month = 6 ∨ month = 9 ∨ month = 11 → monthLength year month = 30) := by
  refine ⟨?_, ?_, ?_⟩
  · unfold monthLength
    split
    · split <;> omega
    · split <;> omega
  · intro h
    unfold monthLength
    split
    · split <;> omega
    · omega
  · intro h
    unfold monthLength
    rw [if_neg (by omega), if_pos h]

/-- The day of a real date is at most 31. -/
theorem day_le {d : Date} (h : d.IsReal) : d.day ≤ 31 :=
  Nat.le_trans h.2.2.2 (monthLength_le d.year d.month).1

/-- A real date is rebuilt from the year and the day of the year that begins in March. -/
theorem ofMarch_eq {d : Date} (h : d.IsReal) :
    ofMarch d.marchYear (daysBeforeMonth d.marchMonth + (d.day - 1)) = d := by
  obtain ⟨y, m, k⟩ := d
  obtain ⟨h1, h2, h3, h4⟩ := h
  obtain ⟨hl, hl2, hl30⟩ := monthLength_le y m
  simp only at h1 h2 h3 h4
  have hcases : m = 1 ∨ m = 2 ∨ m = 3 ∨ m = 4 ∨ m = 5 ∨ m = 6 ∨ m = 7 ∨ m = 8 ∨ m = 9 ∨ m = 10 ∨
      m = 11 ∨ m = 12 := by
    omega
  have hmonth : monthOf (daysBeforeMonth (marchMonth ⟨y, m, k⟩) + ((k : Int) - 1)) =
      marchMonth ⟨y, m, k⟩ := by
    simp only [monthOf, daysBeforeMonth, marchMonth]
    rcases hcases with rfl | rfl | rfl | rfl | rfl | rfl | rfl | rfl | rfl | rfl | rfl | rfl <;>
      simp at hl2 hl30 ⊢ <;> omega
  have hday : (daysBeforeMonth (marchMonth ⟨y, m, k⟩) + ((k : Int) - 1) -
      daysBeforeMonth (marchMonth ⟨y, m, k⟩) + 1).toNat = k := by
    omega
  simp only [ofMarch, hmonth, hday]
  simp only [marchMonth, marchYear]
  by_cases hm : m ≤ 2
  · rw [if_pos hm, if_pos hm, if_neg (by omega)]
    simp only [mk.injEq, and_true]
    omega
  · rw [if_neg hm, if_neg hm, if_pos (by omega)]
    simp only [mk.injEq, and_true, true_and]
    omega

/-- A date built from a year that begins in March and a day in it is that many days behind the years
before it. -/
theorem toDays_ofMarch {y r : Int} (h0 : 0 ≤ r) (h : r ≤ 365) :
    (ofMarch y r).toDays = daysBefore y + r - epoch := by
  simp only [ofMarch]
  have hm : 0 ≤ monthOf r ∧ monthOf r ≤ 11 := by
    simp only [monthOf]
    omega
  have hd : 0 ≤ r - daysBeforeMonth (monthOf r) := by
    simp only [daysBeforeMonth, monthOf]
    omega
  split
  · simp only [toDays, marchYear, marchMonth]
    rw [if_neg (by omega), if_neg (by omega)]
    have : ((monthOf r + 3).toNat : Int) - 3 = monthOf r := by omega
    rw [this]
    omega
  · simp only [toDays, marchYear, marchMonth]
    rw [if_pos (by omega), if_pos (by omega)]
    have : ((monthOf r - 9).toNat : Int) + 9 = monthOf r := by omega
    rw [this]
    have : y + 1 - 1 = y := by omega
    rw [this]
    omega

/-- The date of a day number has that number. -/
theorem toDays_ofDays (n : Int) : (ofDays n).toDays = n := by
  obtain ⟨hs, h0, h1⟩ := splitYear_spec (n + epoch)
  have h : (splitYear (n + epoch)).2 ≤ 365 := by
    simp only [daysBefore] at hs h1
    omega
  simp only [ofDays]
  rw [toDays_ofMarch h0 h]
  omega

/-- The date of a day number is in the calendar. -/
theorem isReal_ofDays (n : Int) : (ofDays n).IsReal := by
  obtain ⟨hs, h0, h1⟩ := splitYear_spec (n + epoch)
  simp only [ofDays]
  generalize splitYear (n + epoch) = p at hs h0 h1 ⊢
  obtain ⟨y, r⟩ := p
  simp only [daysBefore] at hs h0 h1 ⊢
  have hm : 0 ≤ monthOf r ∧ monthOf r ≤ 11 := by
    simp only [monthOf]
    omega
  have hd : 0 ≤ r - daysBeforeMonth (monthOf r) := by
    simp only [daysBeforeMonth, monthOf]
    omega
  have hd31 : r - daysBeforeMonth (monthOf r) ≤ 30 := by
    simp only [daysBeforeMonth, monthOf]
    omega
  simp only [ofMarch]
  split
  · refine ⟨by simp only; omega, by simp only; omega, by simp only; omega, ?_⟩
    simp only [monthLength]
    rw [if_neg (by omega)]
    split
    · simp only [daysBeforeMonth, monthOf] at *
      omega
    · omega
  · refine ⟨by simp only; omega, by simp only; omega, by simp only; omega, ?_⟩
    simp only [monthLength]
    by_cases hf : (monthOf r - 9).toNat = 2
    · have hfeb : monthOf r = 11 := by omega
      have hr : 337 ≤ r := by
        simp only [monthOf] at hfeb
        omega
      rw [if_pos hf, hfeb]
      simp only [daysBeforeMonth, isLeap]
      by_cases h4 : (y + 1) % 4 = 0 <;> by_cases h100 : (y + 1) % 100 = 0 <;>
        by_cases h400 : (y + 1) % 400 = 0 <;> simp [h4, h100, h400] <;> omega
    · rw [if_neg hf, if_neg (by omega)]
      omega

/-- A date of the calendar is the date of its day number, so the two counts are inverse to each
other. -/
theorem ofDays_toDays {d : Date} (h : d.IsReal) : ofDays d.toDays = d := by
  obtain ⟨h0, h1⟩ := march_lt h
  simp only [ofDays, toDays, Int.sub_add_cancel, splitYear_daysBefore_add h0 h1]
  exact ofMarch_eq h

/-- The weekday, from 0 for Monday to 6 for Sunday. -/
def weekday (d : Date) : Nat :=
  ((d.toDays + 3) % 7).toNat

/-- The days of the year that are over. -/
def dayOfYear (d : Date) : Nat :=
  (d.toDays - toDays ⟨d.year, 1, 1⟩).toNat

end Date

/-! ## Names -/

/-- The weekdays from Monday on. -/
def weekdayNames : List String :=
  ["Monday", "Tuesday", "Wednesday", "Thursday", "Friday", "Saturday", "Sunday"]

/-- The months from January on. -/
def monthNames : List String :=
  ["January", "February", "March", "April", "May", "June", "July", "August", "September",
    "October", "November", "December"]

/-- The first three letters of a name. -/
def short (name : List Char) : List Char :=
  name.take 3

/-- The name of the weekday of a date. -/
def weekdayName (d : Date) : List Char :=
  (weekdayNames.getD d.weekday "").toList

/-- The name of the month of a date. -/
def monthName (d : Date) : List Char :=
  (monthNames.getD (d.month - 1) "").toList

end AccessPolicy.Calendar
