import AccessPolicy.Proofs.Calendar.Letters
import AccessPolicy.Proofs.Calendar.Order
import AccessPolicy.Proofs.Decimal.Width

/-!
# Parts of a fixed width

Nine letters stand for numbers that are filled up with zeros on the left, to two digits or, for
milliseconds, to three. Seven of them always are that wide, since their numbers have no more digits
than that. Two need not be (`PaddedPart.Fits`): the year within its century has a sign before year
zero, unless the century is full, and in a leap second the milliseconds run on from 1000.

Where all parts of a format fit, its texts have one length for all instants, and they compare as the
numbers do that they show (`lettersChars_compare`): two texts are written side by side, letter by
letter, and a letter takes as many characters in the one as in the other. If the letters go down
from one part of the time to the next smaller one without leaving any out, and the instants agree on
the greater ones, then the texts lie in the order of time (`order_eq_lt_of_compare`).
-/

namespace AccessPolicy.Calendar

open Decimal (digits paddedDigits)

/-! ## The parts -/

/-- A part of an instant that a letter shows as a number filled up with zeros. -/
inductive PaddedPart where
  | day
  | month
  | week
  | yearOfCentury
  | hour12
  | hour
  | minute
  | second
  | millisecond
  deriving DecidableEq

namespace PaddedPart

/-- The letter that stands for a part. -/
def letter : PaddedPart → Char
  | day => 'd'
  | month => 'm'
  | week => 'W'
  | yearOfCentury => 'y'
  | hour12 => 'h'
  | hour => 'H'
  | minute => 'i'
  | second => 's'
  | millisecond => 'v'

/-- The part that a letter stands for. -/
def ofLetter? : Char → Option PaddedPart
  | 'd' => some day
  | 'm' => some month
  | 'W' => some week
  | 'y' => some yearOfCentury
  | 'h' => some hour12
  | 'H' => some hour
  | 'i' => some minute
  | 's' => some second
  | 'v' => some millisecond
  | _ => none

/-- The number of digits that a part is filled up to. -/
def width : PaddedPart → Nat
  | millisecond => 3
  | _ => 2

/-- The number of a part. The years of a century are counted forwards, also before year zero. -/
def number (t : Instant) : PaddedPart → Nat
  | day => t.date.day
  | month => t.date.month
  | week => (isoWeek t.date).2
  | yearOfCentury => (t.date.year % 100).toNat
  | hour12 => t.hour12
  | hour => t.hour
  | minute => t.minute
  | second => t.second
  | millisecond => t.nanos / 1000000

/-- The numbers of several parts. -/
def numbers (t : Instant) (parts : List PaddedPart) : List Nat :=
  parts.map (number t)

/-- The numbers of joined lists of parts are the joined numbers. -/
theorem numbers_append (t : Instant) (ps qs : List PaddedPart) :
    numbers t (ps ++ qs) = numbers t ps ++ numbers t qs :=
  List.map_append

/-- There is one number for each part. -/
theorem length_numbers (t : Instant) (parts : List PaddedPart) :
    (numbers t parts).length = parts.length :=
  List.length_map (number t)

/-- Whether the number of a part takes no more characters than its width: not the year of a century
that began before year zero, unless it is the full hundred, and not the milliseconds of a leap
second. -/
def Fits (t : Instant) : PaddedPart → Prop
  | yearOfCentury => 0 ≤ t.date.year ∨ 100 ∣ t.date.year
  | millisecond => t.nanos < secondNanos
  | _ => True

instance (t : Instant) (p : PaddedPart) : Decidable (p.Fits t) :=
  match p with
  | yearOfCentury => inferInstanceAs (Decidable (_ ∨ _))
  | millisecond => inferInstanceAs (Decidable (_ < _))
  | day | month | week | hour12 | hour | minute | second => inferInstanceAs (Decidable True)

/-- A part is found under its own letter only. -/
theorem letter_of_ofLetter? {c : Char} {p : PaddedPart} (h : ofLetter? c = some p) :
    c = p.letter := by
  unfold ofLetter? at h
  split at h <;> cases h <;> rfl

/-- Every part is written with at least one digit. -/
theorem width_pos (p : PaddedPart) : 0 < p.width := by
  cases p <;> decide

/-- The week of a date is one of 53 at most. -/
theorem isoWeek_le (d : Date) : (isoWeek d).2 ≤ 53 := by
  -- Weeks belong to the year of their Thursday, and are counted by the days of that year.
  have hthursday := Date.dayOfYear_le (Date.isReal_ofDays (d.toDays - d.weekday + 3))
  show (Date.ofDays (d.toDays - d.weekday + 3)).dayOfYear / 7 + 1 ≤ 53
  omega

/-- A part that fits has no more digits than its width. -/
theorem number_lt {t : Instant} {p : PaddedPart} (h : p.Fits t) : p.number t < 10 ^ p.width := by
  obtain ⟨hhour, hminute, hsecond, -⟩ := t.clock_bounds
  obtain ⟨-, hmonth, -⟩ := t.isReal_date
  have hday := Date.day_le t.isReal_date
  have hweek := isoWeek_le t.date
  cases p with
  -- Hours count from one to twelve.
  | hour12 =>
    show t.hour12 < 100
    unfold Instant.hour12
    split_ifs <;> omega
  -- The milliseconds have three digits unless the second is a leap second.
  | millisecond =>
    have hnanos : t.nanos < 1000000000 := h
    show t.nanos / 1000000 < 1000
    omega
  | _ =>
    simp only [number, width]
    omega

end PaddedPart

/-! ## One letter -/

/-- The years of a century that count forwards are two digits. -/
theorem yearOfCenturyChars_of_fits {y : Int} (h : 0 ≤ y ∨ 100 ∣ y) :
    yearOfCenturyChars y = paddedDigits 2 (y % 100).toNat := by
  have hmod : Int.tmod y 100 = y % 100 := by
    rcases h with hpos | hfull
    · exact Int.tmod_eq_emod_of_nonneg hpos
    · rw [Int.tmod_eq_zero_of_dvd hfull, Int.emod_eq_zero_of_dvd hfull]
  unfold yearOfCenturyChars
  rw [hmod, if_neg (by omega)]
  rfl

/-- Before year zero the years of a century count backwards and have a sign. -/
theorem yearOfCenturyChars_of_not_fits {y : Int} (h : ¬(0 ≤ y ∨ 100 ∣ y)) :
    yearOfCenturyChars y = '-' :: digits (y.natAbs % 100) := by
  -- The remainder takes the sign of the year, and vanishes in the full hundreds only.
  have hmod : (Int.tmod y 100).natAbs = y.natAbs % 100 := Int.natAbs_tmod y 100
  have hneg : Int.tmod y 100 < 0 := by
    have hback : 0 ≤ Int.tmod (-y) 100 := Int.tmod_nonneg 100 (by omega)
    have hne : Int.tmod y 100 ≠ 0 := fun hzero => h (.inr (Int.dvd_of_tmod_eq_zero hzero))
    rw [Int.neg_tmod] at hback
    omega
  unfold yearOfCenturyChars
  rw [if_pos hneg, hmod]

namespace PaddedPart

variable {t : Instant}

/-- The letter of a part that fits is its number, filled up with zeros. -/
theorem letterChars_of_fits {p : PaddedPart} (h : p.Fits t) :
    letterChars t p.letter = .ok (paddedDigits p.width (p.number t)) := by
  cases p with
  | yearOfCentury => exact congrArg Except.ok (yearOfCenturyChars_of_fits h)
  | _ => rfl

/-- The letters of the parts that fit are digits in their width. -/
theorem spec_paddedDigits {p : PaddedPart} (h : p.Fits t) :
    (paddedDigits p.width (p.number t)).length = p.width ∧
      ∀ c ∈ paddedDigits p.width (p.number t), c.isDigit :=
  ⟨Decimal.length_paddedDigits p.width_pos (number_lt h),
    fun _ => Decimal.isDigit_of_mem_paddedDigits⟩

/-- The year of a century before year zero is not digits alone. -/
theorem letterChars_year_of_not_fits (h : ¬yearOfCentury.Fits t) :
    letterChars t 'y' = .ok ('-' :: digits (t.date.year.natAbs % 100)) :=
  congrArg Except.ok (yearOfCenturyChars_of_not_fits h)

/-- The milliseconds of a leap second are four digits. -/
theorem letterChars_millisecond_of_not_fits (h : ¬millisecond.Fits t) :
    ∃ ds, letterChars t 'v' = .ok ds ∧ ds.length = 4 ∧ ∀ c ∈ ds, c.isDigit := by
  have hleap : 1000000000 ≤ t.nanos := Nat.not_lt.mp h
  have hnanos : t.nanos < 2 * 1000000000 := t.nanos_lt
  refine ⟨_, rfl, ?_, fun _ => Decimal.isDigit_of_mem_paddedDigits⟩
  -- Between 1000 and 1999 there is nothing to fill up.
  have hthree := (Decimal.length_digits_le_iff (n := t.nanos / 1000000) (k := 3) (by decide)).not
  have hfour := Decimal.length_digits_le_iff (n := t.nanos / 1000000) (k := 4) (by decide)
  rw [paddedDigits, Decimal.length_padLeft]
  omega

/-- A letter is digits in its width exactly if the part fits. -/
theorem isWide_iff (t : Instant) (p : PaddedPart) :
    (∃ ds, letterChars t p.letter = .ok ds ∧ ds.length = p.width ∧ ∀ c ∈ ds, c.isDigit) ↔
      p.Fits t := by
  constructor
  · -- A year of the century that does not fit has a sign in front, and a leap second four digits.
    rintro ⟨ds, hds, hlength, hdigits⟩
    by_contra hfits
    cases p with
    | yearOfCentury =>
      obtain rfl := Except.ok.inj (hds.symm.trans (letterChars_year_of_not_fits hfits))
      exact absurd (hdigits '-' List.mem_cons_self) (by decide)
    | millisecond =>
      obtain ⟨es, hes, hfour, -⟩ := letterChars_millisecond_of_not_fits hfits
      obtain rfl := Except.ok.inj (hds.symm.trans hes)
      exact absurd (hlength.symm.trans hfour) (by decide)
    | _ => exact hfits trivial
  · intro h
    exact ⟨_, letterChars_of_fits h, spec_paddedDigits h⟩

end PaddedPart

/-! ## Formats -/

/-- The characters that stand for a part of the instant where they are not escaped. -/
def meanings : List Char :=
  "dDjlNwzWFMmntLYyaAgGhHisvUeTPOcr".toList

/-- All other characters stand for themselves. -/
theorem letterChars_of_not_mem {c : Char} (h : c ∉ meanings) (t : Instant) :
    letterChars t c = .ok [c] := by
  unfold letterChars
  split
  case h_33 => rfl
  all_goals exact absurd (by decide) h

/-- The parts that a format shows, in their order. -/
def partsOf (format : List Char) : List PaddedPart :=
  (unescaped format).filterMap PaddedPart.ofLetter?

/-- Whether a format holds nothing but padded parts and characters that stand for themselves. -/
def IsPadded (format : List Char) : Prop :=
  ∀ c ∈ unescaped format, (PaddedPart.ofLetter? c).isSome ∨ c ∉ meanings

instance (format : List Char) : Decidable (IsPadded format) :=
  List.decidableBAll _ (unescaped format)

open PaddedPart (numbers numbers_append length_numbers)

section Order

variable {s t : Instant}

/-- What a letter or a character of a padded format stands for at two instants has one length, and
compares as the number that it shows, if it shows one. -/
theorem letterChars_compare {c : Char} (hc : (PaddedPart.ofLetter? c).isSome ∨ c ∉ meanings)
    (hfits : ∀ p ∈ PaddedPart.ofLetter? c, p.Fits s ∧ p.Fits t) :
    ∃ a b, letterChars s c = .ok a ∧ letterChars t c = .ok b ∧ a.length = b.length ∧
      compare a b = compare (numbers s (PaddedPart.ofLetter? c).toList)
        (numbers t (PaddedPart.ofLetter? c).toList) := by
  cases hpart : PaddedPart.ofLetter? c with
  -- What is no letter stands for itself at both instants.
  | none =>
    have hplain : c ∉ meanings := hc.resolve_left (by simp [hpart])
    refine ⟨[c], [c], letterChars_of_not_mem hplain s, letterChars_of_not_mem hplain t, rfl, ?_⟩
    exact Std.ReflOrd.compare_self
  | some p =>
    obtain ⟨hs, ht⟩ := hfits p hpart
    obtain rfl := PaddedPart.letter_of_ofLetter? hpart
    refine ⟨_, _, PaddedPart.letterChars_of_fits hs, PaddedPart.letterChars_of_fits ht, ?_, ?_⟩
    · rw [(PaddedPart.spec_paddedDigits hs).1, (PaddedPart.spec_paddedDigits ht).1]
    · -- One number in each list decides the comparison.
      have hone : compare (numbers s [p]) (numbers t [p]) =
          (compare (p.number s) (p.number t)).then .eq := List.compare_cons_cons
      rw [Option.toList_some, hone, Ordering.then_eq, Decimal.compare_paddedDigits p.width_pos
        (PaddedPart.number_lt hs) (PaddedPart.number_lt ht)]

/-- Texts of a padded format in which all parts fit have one length, and compare as the numbers that
they show do from left to right. -/
theorem lettersChars_compare {format : List Char} (hformat : IsPadded format)
    (hfits : ∀ p ∈ partsOf format, p.Fits s ∧ p.Fits t) :
    ∃ a b, lettersChars s format = .ok a ∧ lettersChars t format = .ok b ∧ a.length = b.length ∧
      compare a b = compare (numbers s (partsOf format)) (numbers t (partsOf format)) := by
  unfold IsPadded partsOf at *
  -- The induction follows the scan of the format: its end, a backslash at the end, a character
  -- behind a backslash, which shows itself at both instants, and a letter of its own.
  fun_induction unescaped format with
  | case1 => exact ⟨[], [], rfl, rfl, rfl, rfl⟩
  | case2 => exact ⟨[], [], rfl, rfl, rfl, rfl⟩
  | case3 c cs ih =>
    obtain ⟨a, b, ha, hb, hlength, hcompare⟩ := ih hformat hfits
    refine ⟨c :: a, c :: b, ?_, ?_, congrArg (· + 1) hlength, ?_⟩
    · rw [lettersChars, ha]
      rfl
    · rw [lettersChars, hb]
      rfl
    · rw [List.compare_cons_cons, Std.ReflOrd.compare_self, Ordering.eq_then, hcompare]
  | case4 c cs hlast hpair ih =>
    have hparts : (c :: unescaped cs).filterMap PaddedPart.ofLetter? =
        (PaddedPart.ofLetter? c).toList ++ (unescaped cs).filterMap PaddedPart.ofLetter? := by
      rw [List.filterMap_cons]
      cases PaddedPart.ofLetter? c <;> rfl
    rw [hparts] at hfits ⊢
    obtain ⟨hc, hcs⟩ := List.forall_mem_cons.mp hformat
    obtain ⟨x, y, hx, hy, hwidth, hletter⟩ := letterChars_compare hc fun p hp =>
      hfits p (List.mem_append_left _ (Option.mem_toList.mpr hp))
    obtain ⟨a, b, ha, hb, hlength, hrest⟩ := ih hcs fun p hp => hfits p (List.mem_append_right _ hp)
    refine ⟨x ++ a, y ++ b, ?_, ?_, ?_, ?_⟩
    · rw [lettersChars_cons (ne_backslash hlast hpair), hx, ha]
      rfl
    · rw [lettersChars_cons (ne_backslash hlast hpair), hy, hb]
      rfl
    · rw [List.length_append, List.length_append, hwidth, hlength]
    · rw [numbers_append, numbers_append, Text.compare_append hwidth, hletter, hrest,
        Text.compare_append ((length_numbers s _).trans (length_numbers t _).symm)]

end Order

/-! ## The order of time -/

/-- The parts of the time within a century, from the greatest to the smallest. -/
def bySize : List PaddedPart :=
  [.yearOfCentury, .month, .day, .hour, .minute, .second, .millisecond]

/-- Parts that go down from one to the next smaller one, and two instants that lie in one century
and agree on all parts that are greater. -/
structure AgreeAbove (s t : Instant) (parts : List PaddedPart) : Prop where
  century : s.date.year / 100 = t.date.year / 100
  above : ∃ greater smaller, greater ++ parts ++ smaller = bySize ∧
    numbers s greater = numbers t greater

/-- To agree on what is above the parts does not depend on the order of the two instants. -/
theorem AgreeAbove.symm {s t : Instant} {parts : List PaddedPart} (h : AgreeAbove s t parts) :
    AgreeAbove t s parts := by
  obtain ⟨hcentury, greater, smaller, hparts, hgreater⟩ := h
  exact ⟨hcentury.symm, greater, smaller, hparts, hgreater.symm⟩

section Order

variable {s t : Instant} {parts : List PaddedPart}

/-- Of two instants of one century the one is earlier whose parts come first. -/
theorem order_eq_lt_of_bySize (hcentury : s.date.year / 100 = t.date.year / 100)
    (h : compare (numbers s bySize) (numbers t bySize) = .lt) : s.order t = .lt := by
  have hend : ¬compare ([] : List Nat) [] = .lt := by decide
  simp only [numbers, bySize, List.map_cons, List.map_nil, List.compare_cons_cons,
    Ordering.then_eq_lt, Nat.compare_eq_lt, Nat.compare_eq_eq, PaddedPart.number, hend, and_false,
    or_false] at h
  by_cases hdate : s.date.year < t.date.year ∨ s.date.year = t.date.year ∧
      (s.date.month < t.date.month ∨ s.date.month = t.date.month ∧ s.date.day < t.date.day)
  · exact Instant.order_eq_lt_of_toDays_lt (Date.toDays_lt s.isReal_date t.isReal_date hdate)
  · -- The date decides nothing, so that it is one date and the clock decides.
    have hyear : s.date.year = t.date.year := by omega
    have hmonth : s.date.month = t.date.month := by omega
    have hday : s.date.day = t.date.day := by omega
    have hsame : s.date = t.date := by
      calc s.date = ⟨s.date.year, s.date.month, s.date.day⟩ := rfl
        _ = ⟨t.date.year, t.date.month, t.date.day⟩ := by rw [hyear, hmonth, hday]
        _ = t.date := rfl
    refine Instant.order_eq_lt_of_date_eq hsame ?_
    omega

/-- Of instants that agree on all greater parts the one is earlier whose parts come first. -/
theorem order_eq_lt_of_compare (h : AgreeAbove s t parts)
    (hlt : compare (numbers s parts) (numbers t parts) = .lt) : s.order t = .lt := by
  obtain ⟨hcentury, greater, smaller, hparts, hgreater⟩ := h
  have hlength : ∀ ps, (numbers s ps).length = (numbers t ps).length := fun ps =>
    (length_numbers s ps).trans (length_numbers t ps).symm
  refine order_eq_lt_of_bySize hcentury ?_
  -- What is greater is level, and what is smaller does not matter any more.
  calc compare (numbers s bySize) (numbers t bySize)
      = (compare (numbers s greater) (numbers t greater)).then
          ((compare (numbers s parts) (numbers t parts)).then
            (compare (numbers s smaller) (numbers t smaller))) := by
        rw [← hparts, List.append_assoc, numbers_append, numbers_append, numbers_append,
          numbers_append, Text.compare_append (hlength _), Text.compare_append (hlength _)]
    _ = .lt := by
        rw [hgreater, Std.ReflOrd.compare_self, hlt]
        rfl

/-- Instants that agree on all greater parts have their parts in the order of time. -/
theorem compare_isLE_of_order (h : AgreeAbove s t parts) (hle : (s.order t).isLE = true) :
    (compare (numbers s parts) (numbers t parts)).isLE = true := by
  have hback : compare (numbers t parts) (numbers s parts) ≠ .lt := by
    intro hlt
    have horder := order_eq_lt_of_compare h.symm hlt
    rw [Instant.order_swap s t, Ordering.swap_eq_lt] at horder
    rw [horder] at hle
    exact Bool.false_ne_true hle
  rwa [← Ordering.ne_gt_iff_isLE, Std.OrientedCmp.gt_iff_lt]

end Order

end AccessPolicy.Calendar
