import AccessPolicy.Proofs.Calendar.Parts
import AccessPolicy.Proofs.Marker.Clock

/-!
# Letters of the clock

What a clock answers to formats of letters, as far as the calendar has a say in it. The number of
days of the month is right in every month that a clock can show, the last one of the calendar
included, and so is whether the year is a leap year (`Source.clock_month`). Numbers that are filled
up with zeros have a fixed width but for two exceptions. Where these are out of the way, the answers
to a format compare as the numbers in it do, and lie in the order of time if the numbers go down
from greater to smaller parts (`Source.clock_fixedWidth`).
-/

namespace AccessPolicy.Marker.Source

open Calendar (AgreeAbove Date Instant IsPadded PaddedPart daySeconds daysInMonth lastSecond
  letterChars
  monthLength partsOf)
open Calendar.PaddedPart (numbers)
open Decimal (digits natText paddedDigits)

/-- The letter `t` is the number of days of the calendar that lie in the month of the clock, which
is the length of that month. They are counted to the first of the next month unless that lies beyond
the calendar, as it does in December 262142 only. The letter `L` is 1 in the leap years, that is in
every fourth year but of the full hundreds only in every fourth, and 0 in all others; the leap years
are those that have 29 February. -/
theorem clock_month (t : Instant) (args : Args) :
    (letterChars t 't' = .ok (digits (monthLength t.date.year t.date.month)) ∧
      clock t args ['t'] = .ok (some (.str (natText (monthLength t.date.year t.date.month)))) ∧
      {n : Int | (Date.ofDays n).year = t.date.year ∧ (Date.ofDays n).month = t.date.month}.ncard =
        monthLength t.date.year t.date.month) ∧
    ((lastSecond < t.date.nextMonth.toDays * daySeconds ↔
        t.date.year = 262142 ∧ t.date.month = 12) ∧
      daysInMonth t.date = if t.date.year = 262142 ∧ t.date.month = 12 then 31
        else t.date.nextMonth.toDays - t.date.monthStart.toDays) ∧
    (letterChars t 'L' =
        .ok [if (4 ∣ t.date.year ∧ ¬100 ∣ t.date.year) ∨ 400 ∣ t.date.year then '1' else '0'] ∧
      clock t args ['L'] = .ok (some (.str
        (if (4 ∣ t.date.year ∧ ¬100 ∣ t.date.year) ∨ 400 ∣ t.date.year then "1" else "0"))) ∧
      (Date.IsReal ⟨t.date.year, 2, 29⟩ ↔
        (4 ∣ t.date.year ∧ ¬100 ∣ t.date.year) ∨ 400 ∣ t.date.year)) := by
  -- The months are those of real dates, for which the lengths are stated.
  have hmonth : 1 ≤ t.date.month ∧ t.date.month ≤ 12 := ⟨t.isReal_date.1, t.isReal_date.2.1⟩
  have hdays : letterChars t 't' = .ok (digits (monthLength t.date.year t.date.month)) := by
    show Except.ok (Decimal.intChars (daysInMonth t.date)) = _
    rw [t.daysInMonth_date]
    rfl
  have hleap : letterChars t 'L' =
      .ok [if (4 ∣ t.date.year ∧ ¬100 ∣ t.date.year) ∨ 400 ∣ t.date.year then '1' else '0'] :=
    congrArg (fun c => Except.ok [c]) (if_congr (Calendar.isLeap_iff t.date.year) rfl rfl)
  refine ⟨⟨hdays, clock_letter args (by decide) hdays, Date.ncard_monthDays t.date.year hmonth⟩,
    ⟨t.lastSecond_lt_nextMonth_iff, t.daysInMonth_eq_ite⟩, hleap, ?_,
    (Date.isReal_leapDay_iff t.date.year).trans (Calendar.isLeap_iff t.date.year)⟩
  rw [clock_letter args (by decide) hleap]
  split_ifs <;> rfl

/-- The parts that are filled up with zeros are digits in their width exactly where they fit. The
year of a century before year zero has a sign instead, and the milliseconds of a leap second are
four digits. All answers to a format of parts that fit have one length, and compare as the numbers
of these parts do. They compare as the instants if the parts go down from one to the next smaller
one, of instants that agree on all parts that are greater. -/
theorem clock_fixedWidth (args : Args) :
    (∀ (t : Instant) (p : PaddedPart),
      ((∃ ds, letterChars t p.letter = .ok ds ∧ ds.length = p.width ∧ ∀ c ∈ ds, c.isDigit) ↔
        p.Fits t) ∧
      (p.Fits t → letterChars t p.letter = .ok (paddedDigits p.width (p.number t)))) ∧
    (∀ t : Instant, ¬PaddedPart.yearOfCentury.Fits t →
      letterChars t 'y' = .ok ('-' :: digits (t.date.year.natAbs % 100))) ∧
    (∀ t : Instant, ¬PaddedPart.millisecond.Fits t →
      ∃ ds, letterChars t 'v' = .ok ds ∧ ds.length = 4 ∧ ∀ c ∈ ds, c.isDigit) ∧
    ∀ (s t : Instant) (format : List Char), '%' ∉ format → IsPadded format →
      (∀ p ∈ partsOf format, p.Fits s ∧ p.Fits t) →
      ∃ a b : String, clock s args format = .ok (some (.str a)) ∧
        clock t args format = .ok (some (.str b)) ∧ a.length = b.length ∧
        compare a b = compare (numbers s (partsOf format)) (numbers t (partsOf format)) ∧
        (AgreeAbove s t (partsOf format) →
          ((s.order t).isLE = true → (compare a b).isLE = true) ∧
            (compare a b = .lt → s.order t = .lt)) := by
  refine ⟨fun t p => ⟨PaddedPart.isWide_iff t p, PaddedPart.letterChars_of_fits⟩,
    fun _ => PaddedPart.letterChars_year_of_not_fits,
    fun _ => PaddedPart.letterChars_millisecond_of_not_fits, ?_⟩
  intro s t format hpercent hformat hfits
  -- The one format of letters that is answered by a number is not padded.
  have hseconds : format ≠ ['U'] := by
    rintro rfl
    exact absurd (hformat 'U' List.mem_cons_self) (by decide)
  obtain ⟨a, b, ha, hb, hlength, hcompare⟩ := Calendar.lettersChars_compare hformat hfits
  refine ⟨String.ofList a, String.ofList b, ?_, ?_, ?_, ?_, ?_⟩
  · rw [clock_of_letters args hpercent hseconds, ha]
    rfl
  · rw [clock_of_letters args hpercent hseconds, hb]
    rfl
  · rw [String.length_ofList, String.length_ofList, hlength]
  · rw [Text.compare_ofList, hcompare]
  · intro habove
    rw [Text.compare_ofList, hcompare]
    exact ⟨Calendar.compare_isLE_of_order habove, Calendar.order_eq_lt_of_compare habove⟩

/-- From the last millisecond of 2016 to the first one of 2017 all numbers but the year start again,
and the texts go on in the order of time. -/
theorem clock_fixedWidth_newYear :
    ∃ s t : Instant, numbers s (partsOf "y-m-d H:i:s.v".toList) = [16, 12, 31, 23, 59, 59, 999] ∧
      numbers t (partsOf "y-m-d H:i:s.v".toList) = [17, 1, 1, 0, 0, 0, 0] ∧
      '%' ∉ "y-m-d H:i:s.v".toList ∧ IsPadded "y-m-d H:i:s.v".toList ∧
      (∀ p ∈ partsOf "y-m-d H:i:s.v".toList, p.Fits s ∧ p.Fits t) ∧
      AgreeAbove s t (partsOf "y-m-d H:i:s.v".toList) ∧ (s.order t).isLE = true ∧
      ∃ a b : String, clock s [] "y-m-d H:i:s.v".toList = .ok (some (.str a)) ∧
        clock t [] "y-m-d H:i:s.v".toList = .ok (some (.str b)) ∧ a.length = b.length ∧
        (compare a b).isLE = true := by
  have hpercent : '%' ∉ "y-m-d H:i:s.v".toList := by decide
  have hformat : IsPadded "y-m-d H:i:s.v".toList := by decide +kernel
  let s : Instant := ⟨1483228799, 999000000, by decide, by decide⟩
  let t : Instant := ⟨1483228800, 0, by decide, by decide⟩
  -- No part is out of its width, as neither instant is in a leap second.
  have hfits : ∀ p ∈ partsOf "y-m-d H:i:s.v".toList, p.Fits s ∧ p.Fits t := by decide +kernel
  have habove : AgreeAbove s t (partsOf "y-m-d H:i:s.v".toList) :=
    ⟨by decide +kernel, [], [], by decide +kernel, rfl⟩
  obtain ⟨a, b, ha, hb, hlength, -, horder⟩ :=
    (clock_fixedWidth []).2.2.2 s t _ hpercent hformat hfits
  exact ⟨s, t, by decide +kernel, by decide +kernel, hpercent, hformat, hfits, habove, rfl, a, b,
    ha, hb, hlength, (horder habove).1 rfl⟩

/-- In a leap second the milliseconds are four digits, so that its text is less than the one of half
a second before; and in the year before year zero the year of the century has a sign. -/
theorem clock_overlong :
    ∃ s t u : Instant, s.order t = .lt ∧
      clock s [] "s.v".toList = .ok (some (.str "59.999")) ∧
      clock t [] "s.v".toList = .ok (some (.str "59.1500")) ∧ compare "59.999" "59.1500" = .gt ∧
      clock t [] "v".toList = .ok (some (.str "1500")) ∧
      u.date.year = -1 ∧ clock u [] "y".toList = .ok (some (.str "-1")) := by
  refine ⟨⟨1483228799, 999000000, by decide, by decide⟩,
    ⟨1483228799, 1500000000, by decide, by decide⟩,
    ⟨-62198755200, 0, by decide, by decide⟩, rfl, ?_, ?_, by decide +kernel, ?_,
    by decide +kernel, ?_⟩
  all_goals rfl

end AccessPolicy.Marker.Source
