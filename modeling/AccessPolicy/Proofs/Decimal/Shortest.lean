import AccessPolicy.Proofs.Decimal.Digits
import AccessPolicy.Proofs.Decimal.Rounding
import Mathlib

/-!
# The shortest decimal is one that reads back

`shortest_contains` shows that the decimal chosen for a number lies among the reals that round to
it. That one of the eighteen grids has such a decimal is the usual count of digits: the interval of
a number is no shorter than its `2 ^ 53`rd part, and the finest grid is finer than that
(`onGrid?_isSome`).
-/

namespace AccessPolicy.Decimal

/-! ## Grids -/

/-- The factors of a grid compare a multiple of its step with a multiple of the unit. -/
theorem gridFactors_le_iff (unit k : Int) (n d : Nat) :
    (n * (gridFactors unit k).1 ≤ d * (gridFactors unit k).2 ↔
      (n : ℚ) * 2 ^ unit ≤ d * 10 ^ k) ∧
    (d * (gridFactors unit k).2 ≤ n * (gridFactors unit k).1 ↔
      (d : ℚ) * 10 ^ k ≤ n * 2 ^ unit) := by
  have h2 : (0 : ℚ) < 2 ^ (-unit).toNat := by positivity
  have h10 : (0 : ℚ) < 10 ^ (-k).toNat := by positivity
  -- Both sides are multiplied by the same powers, which clear the denominators.
  have hn : ((n * (gridFactors unit k).1 : Nat) : ℚ) =
      n * 2 ^ unit * (2 ^ (-unit).toNat * 10 ^ (-k).toNat) := by
    rw [zpow_eq_div 2 unit]
    simp only [gridFactors, Nat.pow_eq]
    push_cast
    field_simp
  have hd : ((d * (gridFactors unit k).2 : Nat) : ℚ) =
      d * 10 ^ k * (2 ^ (-unit).toNat * 10 ^ (-k).toNat) := by
    rw [zpow_eq_div 10 k]
    simp only [gridFactors, Nat.pow_eq]
    push_cast
    field_simp
  constructor
  · rw [← Nat.cast_le (α := ℚ), hn, hd, mul_le_mul_iff_left₀ (by positivity)]
  · rw [← Nat.cast_le (α := ℚ), hn, hd, mul_le_mul_iff_left₀ (by positivity)]

namespace Interval

/-- Whether a multiple of `10 ^ k` is in the interval. -/
def isInside (i : Interval) (k : Int) (d : Nat) : Bool :=
  let (a, b) := gridFactors i.unit k
  if i.closed then i.low * a ≤ d * b && d * b ≤ i.high * a
  else i.low * a < d * b && d * b < i.high * a

/-- The test on whole numbers says whether the multiple is among the reals of the interval. -/
theorem isInside_iff {i : Interval} {k : Int} {d : Nat} :
    i.isInside k d = true ↔ i.Contains (d * 10 ^ k) := by
  obtain ⟨hlow, hlow'⟩ := gridFactors_le_iff i.unit k i.low d
  obtain ⟨hhigh, hhigh'⟩ := gridFactors_le_iff i.unit k i.high d
  rw [isInside, Contains]
  -- The ends count in a closed interval only.
  cases i.closed with
  | true =>
    simp only [if_true, Bool.and_eq_true, decide_eq_true_eq, hlow, hhigh']
    exact ⟨fun h => ⟨h.1, h.2, fun hopen => absurd hopen.symm Bool.false_ne_true⟩,
      fun h => ⟨h.1, h.2.1⟩⟩
  | false =>
    simp only [Bool.false_eq_true, if_false, Bool.and_eq_true, decide_eq_true_eq, ← not_le, hlow',
      hhigh]
    simp only [not_le]
    exact ⟨fun h => ⟨h.1.le, h.2.le, fun _ => h⟩, fun h => h.2.2 trivial⟩

/-- The multiple below the center and the one above it are tried. -/
theorem onGrid?_eq (i : Interval) (tie : Tie) (k : Int) :
    i.onGrid? tie k =
      let (a, b) := gridFactors i.unit k
      let d := i.center * a / b
      match i.isInside k d, i.isInside k (d + 1) with
      | true, true =>
        if tie.takesLower d (compare (2 * (i.center * a)) ((2 * d + 1) * b)) then some d
        else some (d + 1)
      | true, false => some d
      | false, true => some (d + 1)
      | false, false => none := rfl

/-- The multiple that is taken is in the interval. -/
theorem contains_of_onGrid? {i : Interval} {tie : Tie} {k : Int} {d : Nat}
    (h : i.onGrid? tie k = some d) : i.Contains (d * 10 ^ k) := by
  rw [← isInside_iff]
  -- Whichever of the two multiples is taken was tested before.
  rw [onGrid?_eq] at h
  simp only at h
  split at h
  · next hd hd' =>
    split_ifs at h
    · obtain rfl := Option.some_inj.mp h
      exact hd
    · obtain rfl := Option.some_inj.mp h
      exact hd'
  · next hd _ =>
    obtain rfl := Option.some_inj.mp h
    exact hd
  · next _ hd' =>
    obtain rfl := Option.some_inj.mp h
    exact hd'
  · exact nomatch h

/-- A multiple is taken if the steps of the grid are shorter than the interval. -/
theorem onGrid?_isSome {i : Interval} (hlow : i.low < i.center) (hhigh : i.center < i.high)
    (tie : Tie) {k : Int} (hstep : (10 : ℚ) ^ k < (i.high - i.low) * 2 ^ i.unit) :
    (i.onGrid? tie k).isSome = true := by
  have hunit : (0 : ℚ) < 2 ^ i.unit := by positivity
  have hlow' : (i.low : ℚ) * 2 ^ i.unit < i.center * 2 ^ i.unit := by gcongr
  have hhigh' : (i.center : ℚ) * 2 ^ i.unit < i.high * 2 ^ i.unit := by gcongr
  have hb : 0 < (gridFactors i.unit k).2 := by
    simp only [gridFactors, Nat.pow_eq]
    positivity
  obtain ⟨-, hbelow⟩ := gridFactors_le_iff i.unit k i.center
    (i.center * (gridFactors i.unit k).1 / (gridFactors i.unit k).2)
  obtain ⟨habove, -⟩ := gridFactors_le_iff i.unit k i.center
    (i.center * (gridFactors i.unit k).1 / (gridFactors i.unit k).2 + 1)
  rw [onGrid?_eq]
  simp only
  generalize hd : i.center * (gridFactors i.unit k).1 / (gridFactors i.unit k).2 = d
    at hbelow habove ⊢
  -- The center lies between the two multiples.
  have hcenter : (d : ℚ) * 10 ^ k ≤ i.center * 2 ^ i.unit := by
    rw [← hbelow, ← hd]
    exact Nat.div_mul_le_self _ _
  have hcenter' : (i.center : ℚ) * 2 ^ i.unit ≤ (d + 1 : Nat) * 10 ^ k := by
    rw [← habove, ← hd, Nat.add_mul, Nat.one_mul]
    exact (Nat.lt_div_mul_add hb).le
  split
  · split_ifs <;> rfl
  · rfl
  · rfl
  · next hout hout' =>
    -- If both of them were outside, the step would be no shorter than the interval.
    have hfar : (d : ℚ) * 10 ^ k ≤ i.low * 2 ^ i.unit := by
      by_contra hlt
      rw [not_le] at hlt
      have hinside := isInside_iff.mpr
        ⟨hlt.le, (hcenter.trans_lt hhigh').le, fun _ => ⟨hlt, hcenter.trans_lt hhigh'⟩⟩
      exact absurd hinside (by rw [hout]; exact Bool.false_ne_true)
    have hfar' : (i.high : ℚ) * 2 ^ i.unit ≤ (d + 1 : Nat) * 10 ^ k := by
      by_contra hlt
      rw [not_le] at hlt
      have hinside := isInside_iff.mpr
        ⟨(hlow'.trans_le hcenter').le, hlt.le, fun _ => ⟨hlow'.trans_le hcenter', hlt⟩⟩
      exact absurd hinside (by rw [hout']; exact Bool.false_ne_true)
    push_cast at hfar'
    linarith

end Interval

/-! ## The first digit -/

/-- The first digit of a quotient stands for a power of ten that is not above the quotient. -/
theorem firstPlace_le {num den : Nat} (hnum : 0 < num) (hden : 0 < den) :
    (10 : ℚ) ^ firstPlace num den ≤ num / den := by
  have hden' : (0 : ℚ) < den := by exact_mod_cast hden
  have hnum' : (0 : ℚ) < num := by exact_mod_cast hnum
  rw [firstPlace]
  split_ifs with hle
  · -- A quotient of at least one has as many digits as its integer part.
    have hpos := length_digits_pos (num / den)
    obtain ⟨hge, -⟩ := length_digits_spec (Nat.div_pos hle hden)
    rw [digits] at hpos hge
    generalize (Nat.toDigits 10 (num / den)).length = count at hpos hge ⊢
    rw [le_div_iff₀ hden', show (count : Int) - 1 = (count - 1 : Nat) by omega, zpow_natCast]
    exact_mod_cast (Nat.le_div_iff_mul_le hden).mp hge
  · -- A smaller quotient is the inverse of one that is not.
    obtain ⟨-, hlt⟩ := length_digits_spec (Nat.div_pos (Nat.le_of_not_le hle) hnum)
    have hpos := length_digits_pos (den / num)
    rw [digits] at hpos hlt
    generalize (Nat.toDigits 10 (den / num)).length = count at hpos hlt ⊢
    simp only [Nat.pow_eq]
    split_ifs with heq
    · rw [show 1 - (count : Int) = -(count - 1 : Nat) by omega, zpow_neg, zpow_natCast, ← heq,
        Nat.cast_mul, div_mul_cancel_left₀ hnum'.ne']
      push_cast
      exact le_rfl
    · rw [zpow_neg, zpow_natCast, inv_le_iff_one_le_mul₀ (by positivity), div_mul_eq_mul_div,
        le_div_iff₀ hden', one_mul]
      have hle := (Nat.div_lt_iff_lt_mul hnum).mp hlt
      rw [Nat.mul_comm] at hle
      exact_mod_cast hle.le

/-! ## The shortest decimal -/

/-- The interval of a number is longer than the `10 ^ 16`th part of the number. -/
theorem lt_width {m : Nat} {q : Int} (h : Canonical m q) :
    (m : ℚ) * 2 ^ q / 10 ^ 16 <
      ((Interval.of m q).high - (Interval.of m q).low) * 2 ^ (Interval.of m q).unit := by
  have hq : (0 : ℚ) < 2 ^ q := by positivity
  have hpos := h.pos
  have hm : (m : ℚ) < 9007199254740992 := by
    have := h.lt
    exact_mod_cast this
  have hunit : (2 : ℚ) ^ (q - 2) = 2 ^ q / 4 := by
    rw [zpow_sub₀ two_ne_zero]
    norm_num
  -- In quarters of a unit the interval is three or four long, and the mantissa is below `2 ^ 53`.
  have hwidth : (m : ℚ) / 10 ^ 16 * 4 < (Interval.of m q).high - (Interval.of m q).low := by
    simp only [Interval.of]
    split_ifs with hpower
    · obtain ⟨rfl, -⟩ := hpower
      norm_num
    · rw [Nat.cast_sub (by omega)]
      push_cast
      linarith
  rw [show (Interval.of m q).unit = q - 2 from rfl, hunit]
  calc (m : ℚ) * 2 ^ q / 10 ^ 16 = m / 10 ^ 16 * 4 * (2 ^ q / 4) := by ring
    _ < _ := mul_lt_mul_of_pos_right hwidth (by positivity)

/-- The shortest decimal of a number is among the reals that round to it. -/
theorem shortest_contains (tie : Tie) {m : Nat} {q : Int} (h : Canonical m q) :
    (Interval.of m q).Contains ((shortest tie m q).digits * 10 ^ (shortest tie m q).exponent) := by
  have hpos := h.pos
  have hfirst : (10 : ℚ) ^ firstPlace (m * Nat.pow 2 q.toNat) (Nat.pow 2 (-q).toNat) ≤
      m * 2 ^ q := by
    have hle := firstPlace_le
      (Nat.mul_pos hpos (Nat.pow_pos (by decide)) : 0 < m * Nat.pow 2 q.toNat)
      (Nat.pow_pos (by decide) : 0 < Nat.pow 2 (-q).toNat)
    rw [zpow_eq_div 2 q, mul_div_assoc']
    exact_mod_cast hle
  rw [shortest]
  generalize firstPlace (m * Nat.pow 2 q.toNat) (Nat.pow 2 (-q).toNat) = first at hfirst ⊢
  -- The finest of the grids has a decimal in the interval.
  have hfinest : ((Interval.of m q).onGrid? tie (first + 1 - (17 : Nat))).isSome = true := by
    refine Interval.onGrid?_isSome ?_ ?_ tie ?_
    · simp only [Interval.of]
      split_ifs <;> omega
    · simp only [Interval.of]
      omega
    · calc (10 : ℚ) ^ (first + 1 - (17 : Nat)) = 10 ^ first / 10 ^ 16 := by
            rw [show first + 1 - (17 : Nat) = first - 16 by omega, zpow_sub₀ (by norm_num)]
            norm_num
        _ ≤ m * 2 ^ q / 10 ^ 16 := by gcongr
        _ < _ := lt_width h
  obtain ⟨s, hs⟩ : ∃ s, ((List.range 18).findSome? fun n =>
      ((Interval.of m q).onGrid? tie (first + 1 - (n : Nat))).map
        fun d => (⟨d, first + 1 - (n : Nat)⟩ : Scaled)) = some s := by
    rw [← Option.isSome_iff_exists, List.findSome?_isSome_iff]
    refine ⟨17, List.mem_range.mpr (by decide), ?_⟩
    rw [Option.isSome_map]
    exact hfinest
  simp only [hs, Option.getD_some]
  obtain ⟨n, -, hn⟩ := List.exists_of_findSome?_eq_some hs
  obtain ⟨d, hd, rfl⟩ := Option.map_eq_some_iff.mp hn
  exact Interval.contains_of_onGrid? hd

end AccessPolicy.Decimal
