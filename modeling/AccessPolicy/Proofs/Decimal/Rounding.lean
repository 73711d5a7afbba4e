import AccessPolicy.Decimal.Rounding
import AccessPolicy.Decimal.Shortest
import Mathlib

/-!
# Rounding a quotient

Every quotient in the interval of a double-precision number is rounded to that number
(`nearestBits?_of_contains`). In the units of the last place of the number the quotient is at most a
half away from the mantissa, and less if the mantissa is odd, so that it is rounded to the mantissa
(`roundedQuotient_eq`). Just below a power of two the unit is half as long; there the quotient is
rounded up to `2 ^ 53`, which carries into the exponent. Intervals are compared as rational numbers,
where exponents of either sign are alike.
-/

namespace AccessPolicy.Decimal

/-! ## Powers -/

/-- A power of two with a whole exponent, as a quotient of powers with natural ones. -/
theorem zpow_eq_div (b : ℚ) (e : Int) :
    b ^ e = b ^ e.toNat / b ^ (-e).toNat := by
  rcases Int.le_total 0 e with h | h
  · obtain ⟨k, rfl⟩ := Int.eq_ofNat_of_zero_le h
    simp
  · obtain ⟨k, hk⟩ := Int.eq_ofNat_of_zero_le (Int.neg_nonneg_of_nonpos h)
    obtain rfl : e = -(k : Int) := by omega
    simp

/-! ## Scaling -/

/-- Scaling divides the quotient by a power of two. -/
theorem scaledBy_div (num den : Nat) (scale : Int) :
    ((scaledBy num den scale).1 : ℚ) / (scaledBy num den scale).2 =
      num / den / 2 ^ scale := by
  rw [zpow_eq_div 2]
  simp only [scaledBy, Nat.pow_eq, Nat.cast_mul, Nat.cast_pow, Nat.cast_ofNat]
  field_simp

/-- The denominator of a scaled quotient is not zero. -/
theorem scaledBy_pos {den : Nat} (hden : 0 < den) (num : Nat) (scale : Int) :
    0 < (scaledBy num den scale).2 := by
  simp only [scaledBy, Nat.pow_eq]
  positivity

/-- Whether a scaled quotient is below a bound. -/
theorem scaledBy_lt_iff {num den bound : Nat} (hden : 0 < den) (scale : Int) :
    (scaledBy num den scale).1 < bound * (scaledBy num den scale).2 ↔
      (num : ℚ) / den < bound * 2 ^ scale := by
  have hd : (0 : ℚ) < (scaledBy num den scale).2 := by exact_mod_cast scaledBy_pos hden num scale
  rw [← Nat.cast_lt (α := ℚ), Nat.cast_mul, ← div_lt_iff₀ hd, scaledBy_div,
    div_lt_iff₀ (by positivity)]

/-- A number lies between the power of two of its logarithm and the next one. -/
theorem two_zpow_log2_le {n : Nat} (hn : 0 < n) :
    (2 : ℚ) ^ (n.log2 : Int) ≤ n ∧ (n : ℚ) < 2 ^ ((n.log2 : Int) + 1) := by
  constructor
  · rw [zpow_natCast]
    exact_mod_cast Nat.log2_self_le hn.ne'
  · have h : n < 2 ^ (n.log2 + 1) := Nat.lt_log2_self
    rw [← Nat.cast_succ, zpow_natCast]
    exact_mod_cast h

/-- The estimate of the scale is right or too low by one. -/
theorem estimate_bounds {num den : Nat} (hnum : 0 < num) (hden : 0 < den) :
    (2 : ℚ) ^ ((num.log2 : Int) - den.log2 - 53 + 52) < num / den ∧
      (num : ℚ) / den < 2 ^ ((num.log2 : Int) - den.log2 - 53 + 54) := by
  obtain ⟨hn, hn'⟩ := two_zpow_log2_le hnum
  obtain ⟨hd, hd'⟩ := two_zpow_log2_le hden
  have hden' : (0 : ℚ) < den := by exact_mod_cast hden
  constructor
  · -- The denominator is less than the next power of two above it.
    rw [lt_div_iff₀ hden']
    calc (2 : ℚ) ^ ((num.log2 : Int) - den.log2 - 53 + 52) * den
        < 2 ^ ((num.log2 : Int) - den.log2 - 53 + 52) * 2 ^ ((den.log2 : Int) + 1) := by gcongr
      _ = 2 ^ (num.log2 : Int) := by
        rw [← zpow_add₀ two_ne_zero]
        congr 1
        omega
      _ ≤ num := hn
  · -- The numerator is less than the next power of two above it.
    rw [div_lt_iff₀ hden']
    calc (num : ℚ) < 2 ^ ((num.log2 : Int) + 1) := hn'
      _ = 2 ^ ((num.log2 : Int) - den.log2 - 53 + 54) * 2 ^ (den.log2 : Int) := by
        rw [← zpow_add₀ two_ne_zero]
        congr 1
        omega
      _ ≤ 2 ^ ((num.log2 : Int) - den.log2 - 53 + 54) * den := by gcongr

/-- Exponents of two compare as the powers do. -/
theorem lt_of_two_zpow_lt {a b : Int} (h : (2 : ℚ) ^ a < 2 ^ b) : a < b :=
  (zpow_lt_zpow_iff_right₀ one_lt_two).mp h

/-- At its scale a quotient is below `2 ^ 53`, and not below `2 ^ 52` unless the scale is that of
the smallest number. -/
theorem scaleOf_spec {num den : Nat} (hnum : 0 < num) (hden : 0 < den) :
    (num : ℚ) / den < 2 ^ (scaleOf num den + 53) ∧ -1074 ≤ scaleOf num den ∧
      (scaleOf num den = -1074 ∨ (2 : ℚ) ^ (scaleOf num den + 52) ≤ num / den) := by
  obtain ⟨hlow, hhigh⟩ := estimate_bounds hnum hden
  rw [scaleOf]
  generalize hestimate : (num.log2 : Int) - den.log2 - 53 = estimate at hlow hhigh
  -- Of the estimate and its successor one has the quotient in its range.
  obtain ⟨exact, hexact, hge, hlt⟩ : ∃ exact : Int,
      (if (scaledBy num den estimate).1 < 0x20000000000000 * (scaledBy num den estimate).2
        then estimate else estimate + 1) = exact ∧
      (2 : ℚ) ^ (exact + 52) ≤ num / den ∧ (num : ℚ) / den < 2 ^ (exact + 53) := by
    have hbound : ((0x20000000000000 : Nat) : ℚ) * 2 ^ estimate = 2 ^ (estimate + 53) := by
      rw [zpow_add₀ two_ne_zero]
      norm_num
      ring
    by_cases h : (scaledBy num den estimate).1 < 0x20000000000000 * (scaledBy num den estimate).2
    · refine ⟨estimate, if_pos h, hlow.le, ?_⟩
      rw [scaledBy_lt_iff hden, hbound] at h
      exact h
    · refine ⟨estimate + 1, if_neg h, ?_, ?_⟩
      · rw [scaledBy_lt_iff hden, hbound, not_lt] at h
        rw [show estimate + 1 + 52 = estimate + 53 by ring]
        exact h
      · rw [show estimate + 1 + 53 = estimate + 54 by ring]
        exact hhigh
  simp only [hexact]
  rcases le_total (-1074) exact with hle | hle
  · rw [max_eq_right hle]
    exact ⟨hlt, hle, .inr hge⟩
  · rw [max_eq_left hle]
    have hpow : (2 : ℚ) ^ (exact + 53) ≤ 2 ^ (-1074 + 53 : Int) :=
      zpow_le_zpow_right₀ one_le_two (by omega)
    exact ⟨hlt.trans_le hpow, le_refl _, .inl rfl⟩

/-- A scale is no greater than another one if its quotient is no greater. -/
theorem scale_le_scale {x y : ℚ} (hxy : x ≤ y) {scale scale' : Int}
    (hx : scale = -1074 ∨ (2 : ℚ) ^ (scale + 52) ≤ x) (hy : y < 2 ^ (scale' + 53))
    (hscale : -1074 ≤ scale') : scale ≤ scale' := by
  rcases hx with rfl | hx
  · exact hscale
  · have := lt_of_two_zpow_lt ((hx.trans hxy).trans_lt hy)
    omega

/-- The scale is the least one at which the quotient is below `2 ^ 53`, but not below that of the
smallest number. -/
theorem scaleOf_eq {num den : Nat} (hnum : 0 < num) (hden : 0 < den) {scale : Int}
    (hlt : (num : ℚ) / den < 2 ^ (scale + 53))
    (hle : -1074 ≤ scale ∧ (scale = -1074 ∨ (2 : ℚ) ^ (scale + 52) ≤ num / den)) :
    scaleOf num den = scale := by
  obtain ⟨hlt', hlow', hfull'⟩ := scaleOf_spec hnum hden
  exact le_antisymm (scale_le_scale le_rfl hfull' hlt hle.1)
    (scale_le_scale le_rfl hle.2 hlt' hlow')

/-! ## Rounding -/

/-- A quotient is rounded to a number from which it differs by less than a half, or by a half if
that number is even. -/
theorem roundedQuotient_eq {num den m : Nat} (hden : 0 < den)
    (hlow : 2 * m * den ≤ 2 * num + den) (hhigh : 2 * num ≤ (2 * m + 1) * den)
    (hodd : m % 2 = 1 → 2 * m * den < 2 * num + den ∧ 2 * num < (2 * m + 1) * den) :
    roundedQuotient num den = m := by
  have hdiv : num = den * (num / den) + num % den := (Nat.div_add_mod num den).symm
  have hmod : num % den < den := Nat.mod_lt num hden
  rw [roundedQuotient]
  generalize num / den = floor at hdiv ⊢
  generalize num % den = rest at hdiv hmod ⊢
  subst hdiv
  have hle : floor ≤ m := by
    by_contra hlt
    nlinarith
  have hge : m ≤ floor + 1 := by
    by_contra hlt
    nlinarith
  rcases Nat.le_iff_lt_or_eq.mp hle with hlt | rfl
  · -- The quotient lies above the floor by a half at least, and by more if the floor is even.
    obtain rfl : m = floor + 1 := by omega
    have hhalf : den ≤ 2 * rest := by nlinarith
    have htie : 2 * rest = den → floor % 2 = 1 := by
      intro heq
      by_contra heven
      have := hodd (by omega)
      nlinarith
    rw [if_neg (by omega)]
  · have hhalf : 2 * rest ≤ den := by nlinarith
    have htie : 2 * rest = den → floor % 2 = 0 := by
      intro heq
      by_contra hne
      have := hodd (by omega)
      nlinarith
    rw [if_pos (by omega)]

/-! ## The numbers of double precision -/

/-- The parts of a positive number: the mantissa is below `2 ^ 53`, and not below `2 ^ 52` unless
the exponent is the lowest. -/
structure Canonical (m : Nat) (q : Int) : Prop where
  pos : 0 < m
  lt : m < 2 ^ 53
  low : -1074 ≤ q
  high : q ≤ 971
  full : q = -1074 ∨ 2 ^ 52 ≤ m

/-- The bit pattern of the number `m * 2 ^ q`. -/
def finiteBits (m : Nat) (q : Int) : Nat :=
  if m < 2 ^ 52 then m else (q + 1075).toNat * 2 ^ 52 + (m - 2 ^ 52)

/-- Finite numbers have smaller bit patterns than infinity. -/
theorem Canonical.finiteBits_lt {m : Nat} {q : Int} (h : Canonical m q) :
    finiteBits m q < 0x7FF0000000000000 := by
  obtain ⟨hpos, hlt, hlow, hhigh, hfull⟩ := h
  rw [finiteBits]
  split <;> omega

/-- Whether a real is among those of an interval. -/
def Interval.Contains (i : Interval) (x : ℚ) : Prop :=
  i.low * 2 ^ i.unit ≤ x ∧ x ≤ i.high * 2 ^ i.unit ∧
    (i.closed = false → i.low * 2 ^ i.unit < x ∧ x < i.high * 2 ^ i.unit)

/-- A scaled quotient is rounded like any other. -/
theorem roundedQuotient_scaledBy {num den : Nat} (hden : 0 < den) {m : Nat} {scale : Int} {y : ℚ}
    (hy : (num : ℚ) / den / 2 ^ scale = y) (hlow : 2 * m - 1 ≤ 2 * y) (hhigh : 2 * y ≤ 2 * m + 1)
    (hodd : m % 2 = 1 → 2 * m - 1 < 2 * y ∧ 2 * y < 2 * m + 1) :
    roundedQuotient (scaledBy num den scale).1 (scaledBy num den scale).2 = m := by
  have hd := scaledBy_pos hden num scale
  have hd' : (0 : ℚ) < (scaledBy num den scale).2 := by exact_mod_cast hd
  -- Both sides of the quotient are scaled alike, so that bounds for it are bounds for them.
  have hratio : ((scaledBy num den scale).1 : ℚ) = y * (scaledBy num den scale).2 := by
    rw [← hy, ← scaledBy_div, div_mul_cancel₀ _ hd'.ne']
  generalize scaledBy num den scale = scaled at hd hd' hratio ⊢
  obtain ⟨n, d⟩ := scaled
  simp only at hd hd' hratio ⊢
  refine roundedQuotient_eq hd ?_ ?_ fun hm => ⟨?_, ?_⟩
  · have : (2 * m * d : ℚ) ≤ 2 * n + d := by
      rw [hratio]
      linarith [mul_le_mul_of_nonneg_right hlow hd'.le]
    exact_mod_cast this
  · have : (2 * n : ℚ) ≤ (2 * m + 1) * d := by
      rw [hratio]
      linarith [mul_le_mul_of_nonneg_right hhigh hd'.le]
    exact_mod_cast this
  · have : (2 * m * d : ℚ) < 2 * n + d := by
      rw [hratio]
      linarith [mul_lt_mul_of_pos_right (hodd hm).1 hd']
    exact_mod_cast this
  · have : (2 * n : ℚ) < (2 * m + 1) * d := by
      rw [hratio]
      linarith [mul_lt_mul_of_pos_right (hodd hm).2 hd']
    exact_mod_cast this

/-- The interval of a number in quarters of the unit of its last place. -/
theorem Interval.contains_of_iff {m : Nat} {q : Int} (hm : 0 < m) (y : ℚ) :
    (Interval.of m q).Contains (y * 2 ^ q) ↔
      (if m = 2 ^ 52 ∧ -1074 < q then (4 * m - 1 : ℚ) else 4 * m - 2) ≤ 4 * y ∧ 4 * y ≤ 4 * m + 2 ∧
      (m % 2 = 1 → (if m = 2 ^ 52 ∧ -1074 < q then (4 * m - 1 : ℚ) else 4 * m - 2) < 4 * y ∧
        4 * y < 4 * m + 2) := by
  have hq : (0 : ℚ) < 2 ^ q / 4 := by positivity
  have hunit : (2 : ℚ) ^ (q - 2) = 2 ^ q / 4 := by
    rw [zpow_sub₀ two_ne_zero]
    norm_num
  -- The lower end is nearer for a power of two, below which the numbers stand closer.
  have hlow : ((Interval.of m q).low : ℚ) =
      if m = 2 ^ 52 ∧ -1074 < q then (4 * m - 1 : ℚ) else 4 * m - 2 := by
    simp only [Interval.of]
    norm_num
    split
    · rw [Nat.cast_sub (by omega)]
      push_cast
      ring
    · rw [Nat.cast_sub (by omega)]
      push_cast
      ring
  have hhigh : ((Interval.of m q).high : ℚ) = 4 * m + 2 := by
    simp only [Interval.of]
    push_cast
    ring
  have hclosed : (Interval.of m q).closed = false ↔ m % 2 = 1 := by
    simp only [Interval.of, decide_eq_false_iff_not]
    omega
  have hy : y * 2 ^ q = 4 * y * (2 ^ q / 4) := by ring
  rw [Interval.Contains, hclosed, hlow, hhigh, hy, show (Interval.of m q).unit = q - 2 from rfl,
    hunit]
  simp only [mul_le_mul_iff_left₀ hq, mul_lt_mul_iff_left₀ hq]

/-- The powers of two that are 52 and 53 places above a unit, in such units. -/
theorem two_zpow_add (q : Int) :
    (2 : ℚ) ^ (q + 52) = 4503599627370496 * 2 ^ q ∧
    (2 : ℚ) ^ (q + 53) = 9007199254740992 * 2 ^ q := by
  constructor
  · rw [zpow_add₀ two_ne_zero, mul_comm]
    norm_num
  · rw [zpow_add₀ two_ne_zero, mul_comm]
    norm_num

section Nearest

variable {num den : Nat} (hnum : 0 < num) (hden : 0 < den) {q : Int} {y : ℚ}
  (hy : (num : ℚ) / den = y * 2 ^ q)

include hnum hden hy

/-- A quotient that has the exponent of a number, and lies within half a unit of it, is rounded to
it. -/
theorem nearestBits?_of_le {m : Nat} (h : Canonical m q) (hfit : 4503599627370496 ≤ y ∨ q = -1074)
    (hlow : 2 * m - 1 ≤ 2 * y) (hhigh : 2 * y ≤ 2 * m + 1)
    (hodd : m % 2 = 1 → 2 * m - 1 < 2 * y ∧ 2 * y < 2 * m + 1) :
    nearestBits? num den = some (finiteBits m q) := by
  have hq : (0 : ℚ) < 2 ^ q := by positivity
  have hm : (m : ℚ) ≤ 9007199254740991 := by
    have : m ≤ 9007199254740991 := Nat.le_of_lt_succ h.lt
    exact_mod_cast this
  obtain ⟨h52, h53⟩ := two_zpow_add q
  -- The quotient has the scale of the number, as it has 53 bits at that scale.
  have hscale : scaleOf num den = q := by
    refine scaleOf_eq hnum hden ?_ ⟨h.low, ?_⟩
    · rw [hy, h53]
      exact mul_lt_mul_of_pos_right (by linarith) hq
    · rw [hy, h52]
      exact hfit.symm.imp_right fun hle => mul_le_mul_of_nonneg_right hle hq.le
  -- Within half a unit it is rounded to the mantissa.
  have hround : roundedQuotient (scaledBy num den q).1 (scaledBy num den q).2 = m :=
    roundedQuotient_scaledBy hden (by rw [hy, mul_div_cancel_right₀ _ hq.ne']) hlow hhigh hodd
  rw [nearestBits?, if_neg hnum.ne']
  simp only [hscale, hround]
  exact if_pos h.finiteBits_lt

/-- A quotient at most a quarter of a unit below a power of two is rounded up to it: there the unit
is half as long, and the mantissa `2 ^ 53` carries into the exponent. -/
theorem nearestBits?_of_lt (h : Canonical (2 ^ 52) q) (hq' : -1074 < q) (hlt : y < 4503599627370496)
    (hlow : 18014398509481983 ≤ 4 * y) : nearestBits? num den = some (finiteBits (2 ^ 52) q) := by
  -- One scale below, the same quotient is twice as many units.
  have hhalf : (2 : ℚ) ^ q = 2 * 2 ^ (q - 1) := by
    rw [zpow_sub_one₀ two_ne_zero]
    ring
  have hhalf_pos : (0 : ℚ) < 2 ^ (q - 1) := by positivity
  have hy' : (num : ℚ) / den = 2 * y * 2 ^ (q - 1) := by
    rw [hy, hhalf]
    ring
  obtain ⟨h52, h53⟩ := two_zpow_add (q - 1)
  have hscale : scaleOf num den = q - 1 := by
    refine scaleOf_eq hnum hden ?_ ⟨by omega, .inr ?_⟩
    · rw [hy', h53]
      exact mul_lt_mul_of_pos_right (by linarith) hhalf_pos
    · rw [hy', h52]
      exact mul_le_mul_of_nonneg_right (by linarith) hhalf_pos.le
  -- There it is rounded to one bit more than a mantissa has.
  have hround : roundedQuotient (scaledBy num den (q - 1)).1 (scaledBy num den (q - 1)).2 =
      2 ^ 53 := by
    refine roundedQuotient_scaledBy hden (by rw [hy', mul_div_cancel_right₀ _ hhalf_pos.ne']) ?_ ?_
      fun hodd => absurd hodd (by norm_num)
    · norm_num
      linarith
    · norm_num
      linarith
  -- The carry goes into the exponent, which gives the power of two.
  have hcarry : (if 2 ^ 53 < 0x10000000000000 then 2 ^ 53
      else (q - 1 + 1075).toNat * 0x10000000000000 + (2 ^ 53 - 0x10000000000000)) =
        finiteBits (2 ^ 52) q := by
    rw [finiteBits, if_neg (by norm_num), if_neg (by norm_num)]
    omega
  rw [nearestBits?, if_neg hnum.ne']
  simp only [hscale, hround, hcarry]
  exact if_pos h.finiteBits_lt

end Nearest

/-- Every quotient in the interval of a number is rounded to that number. -/
theorem nearestBits?_of_contains {m : Nat} {q : Int} (h : Canonical m q) {num den : Nat}
    (hden : 0 < den) (hx : (Interval.of m q).Contains (num / den)) :
    nearestBits? num den = some (finiteBits m q) := by
  have hq : (0 : ℚ) < 2 ^ q := by positivity
  -- The quotient in units of the last place of the number.
  obtain ⟨y, hy⟩ : ∃ y : ℚ, (num : ℚ) / den = y * 2 ^ q :=
    ⟨num / den / 2 ^ q, by rw [div_mul_cancel₀ _ hq.ne']⟩
  rw [hy, Interval.contains_of_iff h.pos] at hx
  obtain ⟨hxlow, hxhigh, hxodd⟩ := hx
  have hxlow' : (4 * m - 2 : ℚ) ≤ 4 * y := by
    split_ifs at hxlow
    · linarith
    · exact hxlow
  have hnum : 0 < num := by
    have hm : (1 : ℚ) ≤ m := by exact_mod_cast h.pos
    have hpos : (0 : ℚ) < num / den := hy ▸ mul_pos (by linarith) hq
    refine Nat.pos_of_ne_zero fun hzero => ?_
    rw [hzero, Nat.cast_zero, zero_div] at hpos
    exact absurd hpos (lt_irrefl 0)
  by_cases hfit : 4503599627370496 ≤ y ∨ q = -1074
  · refine nearestBits?_of_le hnum hden hy h hfit (by linarith) (by linarith) fun hm => ?_
    obtain ⟨h1, h2⟩ := hxodd hm
    rw [if_neg (by omega)] at h1
    exact ⟨by linarith, by linarith⟩
  · -- Only a power of two has an interval that reaches below its own exponent.
    obtain ⟨hlt, hne⟩ := not_or.mp hfit
    rw [not_le] at hlt
    obtain rfl : m = 2 ^ 52 := by
      refine le_antisymm (Nat.le_of_not_lt fun hm => ?_) (h.full.resolve_left hne)
      have : (4503599627370497 : ℚ) ≤ m := by exact_mod_cast hm
      linarith
    have hq' : -1074 < q := lt_of_le_of_ne h.low (Ne.symm hne)
    rw [if_pos ⟨rfl, hq'⟩] at hxlow
    refine nearestBits?_of_lt hnum hden hy h hq' hlt ?_
    norm_num at hxlow
    linarith

end AccessPolicy.Decimal
