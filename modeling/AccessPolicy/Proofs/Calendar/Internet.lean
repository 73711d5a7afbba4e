import AccessPolicy.Calendar.Reader
import AccessPolicy.Calendar.Written
import AccessPolicy.Proofs.Decimal.Digits
import AccessPolicy.Proofs.Text.Cut

/-!
# The internet date and time read back

The internet date and time of an instant whose year has four digits and no sign is read as the
instant that clocks show (`instant?_internetText`), fraction included, in whatever way it says that
the time is universal time (`IsUniversal`). That is the instant itself, in a leap second at the end
of a minute too; but a leap second within a minute is shown, and so read, as the second that comes
next (`Instant.shown`). The reader takes numbers of a fixed width, and `number?_paddedDigits` gives
back what was written in that width. Seconds behind an at-sign are read in all years, but they are
whole seconds (`instant?_intText`).

No text is read as an instant in a leap second within a minute (`leapEndsMinute_of_instant?`): all
readers make their instant of a reading (`Reading.instant?`), and only the second 60 of a reading
stands for a leap second.
-/

namespace AccessPolicy.Calendar

open Decimal (digits paddedDigits)

/-! ## Numbers of a fixed width -/

/-- A number in digits of a fixed width is read as it. -/
theorem number?_paddedDigits {width n : Nat} (hwidth : 0 < width) (hn : n < 10 ^ width)
    (rest : List Char) : number? width width (paddedDigits width n ++ rest) = some (n, rest) := by
  have hlength : (paddedDigits width n).length = width := Decimal.length_paddedDigits hwidth hn
  have htake : ((paddedDigits width n ++ rest).take width).takeWhile Char.isDigit =
      paddedDigits width n := by
    rw [List.take_left' hlength]
    exact (Decimal.span_isDigit_self fun c hc => Decimal.isDigit_of_mem_paddedDigits hc).1
  simp only [number?, htake, hlength, Nat.le_refl, if_true]
  rw [Decimal.valueOf_paddedDigits, List.drop_left' hlength]

/-- Two digits are read as the number that they were written for. -/
theorem number?_two {n : Nat} (hn : n < 100) (rest : List Char) :
    number? 2 2 (two n ++ rest) = some (n, rest) :=
  number?_paddedDigits (by decide) hn rest

/-- A character is skipped where it stands. -/
theorem skip?_cons (c : Char) (cs : List Char) : skip? c (c :: cs) = some cs :=
  if_pos rfl

/-- A fraction of up to nine digits is read in nanoseconds. -/
theorem fraction?_paddedDigits {width n : Nat} (hwidth : 0 < width) (hwidth' : width ≤ 9)
    (hn : n < 10 ^ width) {rest : List Char} (hrest : ∀ c ∈ rest.head?, c.isDigit = false) :
    fraction? ('.' :: (paddedDigits width n ++ rest)) = some (n * 10 ^ (9 - width), rest) := by
  have hlength : (paddedDigits width n).length = width := Decimal.length_paddedDigits hwidth hn
  have hdigits : ∀ c ∈ paddedDigits width n, c.isDigit :=
    fun c hc => Decimal.isDigit_of_mem_paddedDigits hc
  have hne : paddedDigits width n ≠ [] := by
    rintro hnil
    rw [hnil, List.length_nil] at hlength
    omega
  -- No digit is left out, as there are no more than nine.
  have htake : (paddedDigits width n).take 9 = paddedDigits width n :=
    List.take_of_length_le (by omega)
  simp only [fraction?, Decimal.takeWhile_isDigit_append hdigits hrest,
    Decimal.dropWhile_isDigit_append hdigits hrest, htake, hlength, hne, if_false,
    Decimal.valueOf_paddedDigits, Nat.pow_eq]

/-! ## The parts of an instant -/

namespace Instant

variable (t : Instant)

/-- The parts of the time of day lie within their bounds. -/
theorem clock_bounds : t.hour ≤ 23 ∧ t.minute ≤ 59 ∧ t.second ≤ 59 ∧
    (t.hour * 60 + t.minute) * 60 + t.second = t.secondOfDay := by
  have hday : t.secondOfDay < 86400 := by
    simp only [secondOfDay, daySeconds]
    omega
  simp only [hour, minute, second]
  omega

variable {t} in
/-- A leap second at the end of a minute is shown as the second 60, and stands for the nanoseconds
that the others leave out. -/
theorem shown_parts (h : t.LeapEndsMinute) : t.shownSecond ≤ 60 ∧ min t.shownSecond 59 = t.second ∧
    t.shownNanos + (if t.shownSecond = 60 then secondNanos else 0) = t.nanos := by
  have hsecond := t.clock_bounds.2.2.1
  have hnanos := t.nanos_lt
  -- The second before a leap second is the last one of its minute, since days are whole minutes.
  have hlast : secondNanos ≤ t.nanos → t.second = 59 := by
    intro hleap
    have := h hleap
    simp only [second, secondOfDay, daySeconds]
    omega
  have hshown : t.shownSecond = t.second + t.nanos / secondNanos := rfl
  have hshownNanos : t.shownNanos = t.nanos % secondNanos := rfl
  simp only [secondNanos] at *
  by_cases hleap : 1000000000 ≤ t.nanos
  · have hsixty : t.shownSecond = 60 := by
      have := hlast hleap
      omega
    rw [if_pos hsixty]
    omega
  · have hsame : t.shownSecond = t.second := by omega
    rw [if_neg (by omega)]
    omega

variable {t} in
/-- An instant is the one of its date and its time of day. -/
theorem ofLocal?_date (h : t.LeapEndsMinute) :
    ofLocal? t.date t.secondOfDay t.nanos 0 = some t := by
  have hsecs : t.days * daySeconds + t.secondOfDay - 0 = t.secs := by
    simp only [days, secondOfDay, daySeconds]
    omega
  have hstart : firstSecond ≤ t.days * daySeconds ∧ t.days * daySeconds ≤ lastSecond := by
    have := t.inRange
    simp only [days, daySeconds, firstSecond, lastSecond] at *
    omega
  simp only [ofLocal?, t.toDays_date, hsecs]
  rw [if_pos ⟨t.isReal_date, hstart⟩, ofUnix?, dif_pos ⟨t.inRange, t.nanos_lt, h⟩]

/-- The instant that clocks show: the instant itself but for a leap second within a minute, which
they show as the second that comes next. -/
def shown (t : Instant) : Instant :=
  if h : t.LeapEndsMinute then t
  else
    { secs := t.secs + 1
      nanos := t.nanos - secondNanos
      inRange := by
        have := t.inRange
        simp only [LeapEndsMinute, lastSecond] at *
        omega
      nanos_lt := Nat.lt_of_le_of_lt (Nat.sub_le _ _) t.nanos_lt }

variable {t} in
/-- Clocks show an instant as it is unless it is in a leap second within a minute. -/
theorem shown_eq_self (h : t.LeapEndsMinute) : t.shown = t :=
  dif_pos h

variable {t} in
/-- A leap second within a minute is shown as the next second, with what is left of its
nanoseconds. -/
theorem shown_within (h : ¬t.LeapEndsMinute) :
    t.shown.secs = t.secs + 1 ∧ t.shown.nanos = t.nanos - secondNanos := by
  rw [shown, dif_neg h]
  exact ⟨rfl, rfl⟩

/-- Clocks show no leap second within a minute. -/
theorem leapEndsMinute_shown : t.shown.LeapEndsMinute := by
  by_cases h : t.LeapEndsMinute
  · rwa [shown_eq_self h]
  · have hnanos := t.nanos_lt
    intro hleap
    rw [(shown_within h).2] at hleap
    omega

/-- Clocks show an instant itself exactly if it is in no leap second within a minute. -/
theorem shown_eq_self_iff : t.shown = t ↔ t.LeapEndsMinute :=
  ⟨fun h => h ▸ t.leapEndsMinute_shown, shown_eq_self⟩

/-- The instant that clocks show is shown with the same date and the same time of day. -/
theorem parts_shown : t.shown.date = t.date ∧ t.shown.hour = t.hour ∧ t.shown.minute = t.minute ∧
    t.shown.shownSecond = t.shownSecond ∧ t.shown.shownNanos = t.shownNanos := by
  by_cases h : t.LeapEndsMinute
  · rw [shown_eq_self h]
    exact ⟨rfl, rfl, rfl, rfl, rfl⟩
  · obtain ⟨hsecs, hnanos⟩ := shown_within h
    have hlt := t.nanos_lt
    -- The next second is of the same minute, since this one is not the last.
    have hwithin : secondNanos ≤ t.nanos ∧ t.secs % 60 ≠ 59 := by
      simpa only [LeapEndsMinute, Classical.not_imp] using h
    have hdays : t.shown.days = t.days := by
      unfold days daySeconds
      omega
    have hsecond : t.shown.secondOfDay = t.secondOfDay + 1 ∧ t.secondOfDay % 60 ≠ 59 := by
      unfold secondOfDay daySeconds
      omega
    unfold secondNanos at hnanos hlt hwithin
    refine ⟨congrArg Date.ofDays hdays, ?_⟩
    unfold hour minute shownSecond shownNanos second secondNanos
    omega

end Instant

/-- An instant is written as the one that clocks show. -/
theorem internetChars_shown (t : Instant) : internetChars t.shown = internetChars t := by
  obtain ⟨hdate, hhour, hminute, hsecond, hnanos⟩ := t.parts_shown
  unfold internetChars clockChars fractionChars
  rw [hdate, hhour, hminute, hsecond, hnanos]

/-- A way to say behind a time that it is universal time. -/
structure IsUniversal (zone : List Char) : Prop where
  read : internetZone? zone = some (0, [])
  /-- It does not go on with the fraction of the second. -/
  start : ∀ c ∈ zone.head?, c.isDigit = false ∧ c ≠ '.'
  stop : ∃ c, zone.getLast? = some c ∧ Text.isBlank c = false

/-- The letter `Z` is a name of universal time. -/
theorem isUniversal_letter : IsUniversal ['Z'] where
  read := by decide +kernel
  start c hc := by
    obtain rfl := Option.some_inj.mp hc
    exact ⟨by decide, by decide⟩
  stop := ⟨'Z', rfl, by decide⟩

/-- The fraction of an instant is read as the nanoseconds that are shown. -/
theorem fraction?_fractionChars (t : Instant) {zone : List Char} (hzone : IsUniversal zone) :
    fraction? (fractionChars t ++ zone) = some (t.shownNanos, zone) := by
  have hlt : t.shownNanos < 1000000000 := Nat.mod_lt t.nanos (by decide)
  have hdigit : ∀ c ∈ zone.head?, c.isDigit = false := fun c hc => (hzone.start c hc).1
  rw [fractionChars]
  generalize t.shownNanos = n at hlt ⊢
  -- No fraction is written for whole seconds. Otherwise it has three, six or nine digits.
  by_cases hzero : n = 0
  · subst hzero
    rw [if_pos rfl, List.nil_append, fraction?.eq_2]
    rintro rest rfl
    exact (hzone.start '.' rfl).2 rfl
  · simp only [hzero, if_false]
    by_cases hmillis : n % 1000000 = 0
    · rw [if_pos hmillis, List.cons_append,
        fraction?_paddedDigits (by decide) (by decide) (by omega) hdigit]
      exact congrArg (fun m => some (m, zone)) (Nat.div_mul_cancel (Nat.dvd_of_mod_eq_zero hmillis))
    · rw [if_neg hmillis]
      by_cases hmicros : n % 1000 = 0
      · rw [if_pos hmicros, List.cons_append,
          fraction?_paddedDigits (by decide) (by decide) (by omega) hdigit]
        exact congrArg (fun m => some (m, zone))
          (Nat.div_mul_cancel (Nat.dvd_of_mod_eq_zero hmicros))
      · rw [if_neg hmicros, List.cons_append,
          fraction?_paddedDigits (by decide) (by decide) (by omega) hdigit, Nat.pow_zero,
          Nat.mul_one]

/-! ## The whole text -/

section Whole

variable {t : Instant} (hyear : 0 ≤ t.date.year ∧ t.date.year ≤ 9999)
  {zone : List Char} (hzone : IsUniversal zone)

include hyear hzone

/-- The internet date and time of an instant in a year of four digits is read as that instant,
unless it is in a leap second within a minute. -/
theorem internet?_internetChars_of_leapEndsMinute (h : t.LeapEndsMinute) :
    internet? (internetChars t ++ zone) = some t := by
  obtain ⟨hmonth, hmonth', hday, -⟩ := t.isReal_date
  have hday' := Date.day_le t.isReal_date
  obtain ⟨hhour, hminute, -, hclock⟩ := t.clock_bounds
  obtain ⟨hshown, hsecond, hnanos⟩ := t.shown_parts h
  have htext : internetChars t ++ zone =
      paddedDigits 4 t.date.year.toNat ++ '-' :: (two t.date.month ++ '-' :: (two t.date.day ++
        'T' :: (two t.hour ++ ':' :: (two t.minute ++ ':' :: (two t.shownSecond ++
          (fractionChars t ++ zone)))))) := by
    rw [internetChars, dateChars, clockChars, yearChars, if_pos hyear]
    simp only [List.append_assoc, List.cons_append]
  have hread : Reading.instant? ⟨t.date.year.toNat, t.date.month, t.date.day, t.hour, t.minute,
      t.shownSecond, t.shownNanos, 0⟩ = some t := by
    have hdate : (⟨(t.date.year.toNat : Int), t.date.month, t.date.day⟩ : Date) = t.date := by
      rw [Int.toNat_of_nonneg hyear.1]
    simp only [Reading.instant?, hdate, hsecond, hnanos, hclock]
    rw [if_pos ⟨hhour, hminute, hshown⟩, Instant.ofLocal?_date h]
  have hyears := number?_paddedDigits (by decide : 0 < 4) (by omega : t.date.year.toNat < 10 ^ 4)
  -- Each part is read off the front of what the parts before it have left.
  rw [htext, internet?]
  refine Option.bind_eq_some_iff.mpr ⟨_, hyears _, ?_⟩
  refine Option.bind_eq_some_iff.mpr ⟨_, skip?_cons '-' _, ?_⟩
  refine Option.bind_eq_some_iff.mpr ⟨_, number?_two (by omega) _, ?_⟩
  refine Option.bind_eq_some_iff.mpr ⟨_, skip?_cons '-' _, ?_⟩
  refine Option.bind_eq_some_iff.mpr ⟨_, number?_two (by omega) _, ?_⟩
  refine Eq.trans (if_pos (.inl rfl)) ?_
  refine Option.bind_eq_some_iff.mpr ⟨_, rfl, ?_⟩
  refine Option.bind_eq_some_iff.mpr ⟨_, number?_two (by omega) _, ?_⟩
  refine Option.bind_eq_some_iff.mpr ⟨_, skip?_cons ':' _, ?_⟩
  refine Option.bind_eq_some_iff.mpr ⟨_, number?_two (by omega) _, ?_⟩
  refine Option.bind_eq_some_iff.mpr ⟨_, skip?_cons ':' _, ?_⟩
  refine Option.bind_eq_some_iff.mpr ⟨_, number?_two (by omega) _, ?_⟩
  refine Option.bind_eq_some_iff.mpr ⟨_, fraction?_fractionChars t hzone, ?_⟩
  refine Option.bind_eq_some_iff.mpr ⟨(0, []), hzone.read, ?_⟩
  exact (if_pos rfl).trans hread

/-- The internet date and time of an instant in a year of four digits is read as the instant that
clocks show. -/
theorem internet?_internetChars : internet? (internetChars t ++ zone) = some t.shown := by
  have hyear' : 0 ≤ t.shown.date.year ∧ t.shown.date.year ≤ 9999 := t.parts_shown.1.symm ▸ hyear
  rw [← internetChars_shown]
  exact internet?_internetChars_of_leapEndsMinute hyear' hzone t.leapEndsMinute_shown

/-- The internet date and time of an instant in a year of four digits is one of the accepted
forms. -/
theorem instant?_internetChars :
    instant? (String.ofList (internetChars t ++ zone)) = some t.shown := by
  have hread := internet?_internetChars hyear hzone
  -- The text starts with a digit and ends in no blank.
  obtain ⟨c, cs, htext, hdigit⟩ : ∃ c cs, internetChars t ++ zone = c :: cs ∧ c.isDigit := by
    have hlength : (paddedDigits 4 t.date.year.toNat).length = 4 :=
      Decimal.length_paddedDigits (by decide) (by omega)
    obtain ⟨c, ds, hyearChars⟩ := List.exists_cons_of_length_pos (by omega : 0 <
      (paddedDigits 4 t.date.year.toNat).length)
    rw [internetChars, dateChars, yearChars, if_pos hyear, hyearChars]
    exact ⟨c, _, rfl, Decimal.isDigit_of_mem_paddedDigits (hyearChars ▸ List.mem_cons_self)⟩
  have hblank : Text.isBlank c = false := Text.isBlank_of_isDigit hdigit
  have hat : c ≠ '@' := by
    rintro rfl
    exact absurd hdigit (by decide)
  have htrim : Text.trim (internetChars t ++ zone) = internetChars t ++ zone := by
    refine Text.trim_eq_self (fun d hd => ?_) (fun d hd => ?_)
    · rw [htext] at hd
      exact Option.some_inj.mp hd ▸ hblank
    · obtain ⟨e, hlast, hstop⟩ := hzone.stop
      rw [List.getLast?_append, hlast, Option.some_or] at hd
      exact Option.some_inj.mp hd ▸ hstop
  rw [instant?, String.toList_ofList, htrim, htext]
  split
  · next cs' heq => exact absurd (List.cons.inj heq).1 hat
  · rw [← htext, hread, Option.some_or]

end Whole

/-- The internet date and time as it is usually written is read as the instant that clocks show. -/
theorem instant?_internetText {t : Instant} (hyear : 0 ≤ t.date.year ∧ t.date.year ≤ 9999) :
    instant? (internetText t) = some t.shown :=
  instant?_internetChars hyear isUniversal_letter

/-- Seconds behind an at-sign are read as the instant at which these seconds start. -/
theorem instant?_intText (t : Instant) :
    instant? (String.ofList ('@' :: Decimal.intChars t.secs)) = Instant.ofUnix? t.secs 0 := by
  -- The seconds of an instant are a small part of the range of a word.
  have hfits : Decimal.FitsInt64 t.secs := by
    have := t.inRange
    simp only [firstSecond, lastSecond, Decimal.FitsInt64, Decimal.minInt64, Decimal.maxInt64] at *
    omega
  have htrim : Text.trim ('@' :: Decimal.intChars t.secs) = '@' :: Decimal.intChars t.secs := by
    refine Text.trim_eq_self (fun d hd => ?_) (fun d hd => ?_)
    · exact Option.some_inj.mp hd ▸ (by decide)
    · obtain ⟨sign, hsign⟩ := Decimal.intChars_eq_append t.secs
      rw [hsign, ← List.cons_append] at hd
      exact Text.isBlank_of_isDigit (Decimal.isDigit_of_mem_getLast? hd)
  rw [instant?, String.toList_ofList, htrim]
  simp only [seconds?, Decimal.int64?_intChars hfits, Option.bind_some]

/-! ## What texts are read as -/

/-- Whether a reader, if it gives an instant, puts a leap second at the end of a minute. -/
def EndsMinutes (o : Option Instant) : Prop :=
  ∀ t ∈ o, t.LeapEndsMinute

/-- A reader that gives nothing up to here. -/
theorem EndsMinutes.none : EndsMinutes .none :=
  fun t ht => absurd ht (Option.not_mem_none t)

/-- A reader that goes on with what another one has read. -/
theorem EndsMinutes.bind {α : Type} {o : Option α} {f : α → Option Instant}
    (h : ∀ a, EndsMinutes (f a)) : EndsMinutes (o >>= f) := by
  intro t ht
  obtain ⟨a, -, ha⟩ := Option.bind_eq_some_iff.mp ht
  exact h a t ha

/-- The instant of a reading has a leap second for the second 60 alone. -/
theorem EndsMinutes.reading (r : Reading) : EndsMinutes r.instant? := by
  intro t ht
  unfold Reading.instant? Instant.ofLocal? at ht
  simp only [Option.mem_def, Option.ite_none_right_eq_some] at ht
  exact Instant.leapEndsMinute_of_ofUnix? ht.2.2

/-- No internet date and time puts a leap second within a minute. -/
theorem endsMinutes_internet? (cs : List Char) : EndsMinutes (internet? cs) := by
  unfold internet?
  -- All steps but the last one read a number or a separator, or give nothing.
  repeat' with_reducible first
    | exact EndsMinutes.reading _
    | exact EndsMinutes.none
    | refine EndsMinutes.bind fun _ => ?_
    | split

/-- No date of a mail header puts a leap second within a minute. -/
theorem endsMinutes_mail? (cs : List Char) : EndsMinutes (mail? cs) := by
  unfold mail?
  repeat' with_reducible first
    | exact EndsMinutes.reading _
    | exact EndsMinutes.none
    | refine EndsMinutes.bind fun _ => ?_
    | split
    | dsimp only

/-- No plain form puts a leap second within a minute. -/
theorem endsMinutes_plain? (form : String) (cs : List Char) : EndsMinutes (plain? form cs) := by
  unfold plain?
  refine EndsMinutes.bind fun _ => ?_
  dsimp only
  split
  · exact EndsMinutes.reading _
  · exact EndsMinutes.none

/-- No text is read as an instant in a leap second within a minute. -/
theorem leapEndsMinute_of_instant? {s : String} {t : Instant} (h : instant? s = some t) :
    t.LeapEndsMinute := by
  unfold instant? at h
  split at h
  · obtain ⟨secs, -, hsecs⟩ := Option.bind_eq_some_iff.mp h
    exact Instant.leapEndsMinute_of_ofUnix? hsecs
  · rcases Option.or_eq_some_iff.mp h with hinternet | ⟨-, h⟩
    · exact endsMinutes_internet? _ t hinternet
    · rcases Option.or_eq_some_iff.mp h with hmail | ⟨-, h⟩
      · exact endsMinutes_mail? _ t hmail
      · obtain ⟨form, -, hplain⟩ := List.exists_of_findSome?_eq_some h
        exact endsMinutes_plain? form _ t hplain

end AccessPolicy.Calendar
