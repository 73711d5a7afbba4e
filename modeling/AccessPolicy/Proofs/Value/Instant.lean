import AccessPolicy.Proofs.Calendar.Internet
import AccessPolicy.Proofs.Value.Literal

/-!
# The literals of instants

The literal of an instant is written in the internet format if its year has four digits and no sign,
and is then read as the instant that clocks show. That is the instant itself if it comes of a
literal, since no text is read as a leap second within a minute. In all other years it is written as
seconds behind an at-sign, which is as much as a literal can say of them: a fraction of a second and
a leap second are lost (`ofLiteral_literal_instant`). Such an instant does come of a literal, since
the offset of a local time may take it over the end of the year 9999 (`ofLiteral_literal_newYear`).
-/

namespace AccessPolicy

open Literal (HasKind Kind)

namespace Literal

/-- A literal of a date stands for the instant that is read of it. -/
theorem HasKind.ofLiteral_instant {raw : String} {rest : List Char} (h : HasKind raw .date rest)
    {t : Calendar.Instant} (hread : Calendar.instant? (String.ofList rest) = some t) :
    Value.ofLiteral raw = .instant t := by
  refine h.ofLiteral_eq ?_
  rw [readAs, date?, hread]

end Literal

namespace Calendar.Instant

/-- An instant without its fraction, and without its leap second. -/
def wholeSecond (t : Instant) : Instant :=
  ⟨t.secs, 0, t.inRange, by decide⟩

/-- An instant is a whole second if it has no nanoseconds. -/
theorem wholeSecond_eq_self_iff (t : Instant) : t.wholeSecond = t ↔ t.nanos = 0 := by
  rw [Instant.ext_iff]
  exact ⟨fun h => h.2.symm, fun h => ⟨rfl, h.symm⟩⟩

/-- The seconds of an instant behind an at-sign are read as the second in which it lies. -/
theorem instant?_secs (t : Instant) :
    instant? (String.ofList ('@' :: Decimal.intChars t.secs)) = some t.wholeSecond := by
  rw [instant?_intText, ofUnix?, dif_pos ⟨t.inRange, by decide, fun h => absurd h (by decide)⟩]
  rfl

end Calendar.Instant

namespace Value

open Calendar (Instant)

/-- The literal of an instant in a year of four digits is read as the instant that clocks show. -/
theorem ofLiteral_literal_of_year {t : Instant} (hyear : 0 ≤ t.date.year ∧ t.date.year ≤ 9999) :
    ofLiteral (literal (.instant t)) = .instant t.shown := by
  have hliteral : literal (.instant t) = "(*date)" ++ Calendar.internetText t := by
    simp only [literal, instantLiteral]
    exact if_pos hyear
  rw [hliteral]
  refine (Literal.hasKind_front .date _).ofLiteral_instant ?_
  rw [String.ofList_toList, Calendar.instant?_internetText hyear]

/-- The literal of an instant in any other year is read as the second in which it lies. -/
theorem ofLiteral_literal_of_not_year {t : Instant}
    (hyear : ¬(0 ≤ t.date.year ∧ t.date.year ≤ 9999)) :
    ofLiteral (literal (.instant t)) = .instant t.wholeSecond := by
  have hliteral : literal (.instant t) =
      "(*date)" ++ String.ofList ('@' :: Decimal.intChars t.secs) := by
    simp only [literal, instantLiteral]
    rw [if_neg hyear, Decimal.intText, String.ofList_cons, ← String.append_assoc]
    rfl
  rw [hliteral]
  refine (Literal.hasKind_front .date _).ofLiteral_instant ?_
  rw [String.ofList_toList, t.instant?_secs]

/-- An instant that comes of a literal is in no leap second within a minute. -/
theorem leapEndsMinute_of_ofLiteral {raw : String} {t : Instant} (h : ofLiteral raw = .instant t) :
    t.LeapEndsMinute := by
  have hdenotes := Literal.denotes_ofLiteral raw
  rw [h] at hdenotes
  cases hdenotes with
  | instant _ hread => exact Calendar.leapEndsMinute_of_instant? hread

/-- The literal of an instant is read as that instant if its year has four digits and no sign and it
is in no leap second within a minute, or if it is a whole second. In years of another form it is
read as the second in which it lies. An instant that comes of a literal is in no leap second within
a minute, so that only the year and the fraction count for it. -/
theorem ofLiteral_literal_instant (t : Instant) :
    (ofLiteral (literal (.instant t)) = .instant t ↔
      (0 ≤ t.date.year ∧ t.date.year ≤ 9999) ∧ t.LeapEndsMinute ∨ t.nanos = 0) ∧
    (¬(0 ≤ t.date.year ∧ t.date.year ≤ 9999) →
      ofLiteral (literal (.instant t)) = .instant t.wholeSecond) ∧
    ∀ raw, ofLiteral raw = .instant t → t.LeapEndsMinute ∧
      (ofLiteral (literal (.instant t)) = .instant t ↔
        (0 ≤ t.date.year ∧ t.date.year ≤ 9999) ∨ t.nanos = 0) := by
  have hexact : ofLiteral (literal (.instant t)) = .instant t ↔
      (0 ≤ t.date.year ∧ t.date.year ≤ 9999) ∧ t.LeapEndsMinute ∨ t.nanos = 0 := by
    by_cases hyear : 0 ≤ t.date.year ∧ t.date.year ≤ 9999
    · -- A whole second is in no leap second at all.
      have hwhole : t.nanos = 0 → t.LeapEndsMinute := fun hzero hleap =>
        absurd (hzero ▸ hleap) (by decide)
      rw [ofLiteral_literal_of_year hyear, Value.instant.injEq, t.shown_eq_self_iff,
        and_iff_right hyear, or_iff_left_of_imp hwhole]
    · rw [ofLiteral_literal_of_not_year hyear, Value.instant.injEq, t.wholeSecond_eq_self_iff,
        or_iff_right fun h => hyear h.1]
  refine ⟨hexact, ofLiteral_literal_of_not_year, fun raw hraw => ?_⟩
  have hleap := leapEndsMinute_of_ofLiteral hraw
  exact ⟨hleap, by rw [hexact, and_iff_left hleap]⟩

/-- Half a second before the year ends an hour west of Greenwich, the year 10000 has begun, and the
literal loses the half second. -/
theorem ofLiteral_literal_newYear :
    ∃ t : Instant, ofLiteral "(*date)9999-12-31T23:59:59.5-01:00" = .instant t ∧
      t.nanos = 500000000 ∧ ofLiteral (literal (.instant t)) ≠ .instant t := by
  have hkind : HasKind "(*date)9999-12-31T23:59:59.5-01:00" .date
      "9999-12-31T23:59:59.5-01:00".toList :=
    Literal.hasKind_front .date "9999-12-31T23:59:59.5-01:00"
  have hread : Calendar.instant? (String.ofList "9999-12-31T23:59:59.5-01:00".toList) =
      Instant.ofUnix? 253402304399 500000000 := by
    decide +kernel
  -- Read in universal time, it is in the first hour of the year 10000.
  refine ⟨⟨253402304399, 500000000, by decide, by decide⟩,
    hkind.ofLiteral_instant (hread.trans (by decide +kernel)), rfl, fun heq => ?_⟩
  rw [ofLiteral_literal_of_not_year (by decide +kernel)] at heq
  have hnanos := (Instant.wholeSecond_eq_self_iff _).mp (Value.instant.inj heq)
  exact absurd hnanos (by decide)

end Value

end AccessPolicy
