import AccessPolicy.Decimal.Integer
import AccessPolicy.Proofs.Decimal.Binary

/-!
# Rounding keeps the order

A greater quotient is rounded to no smaller number (`nearestBits?_mono`). Quotients of one scale are
rounded on one grid, and a quotient of a greater scale is rounded to no less than the power of two
at which that scale begins, which the quotients of a smaller scale do not exceed when they are
rounded. The order of numbers is that of their places, so the numbers nearest to integers that fit a
word lie in the order of the integers (`ofInteger_mono`). Different integers may have the same
nearest number, however.
-/

namespace AccessPolicy.Decimal

/-! ## Mantissas -/

/-- Of two quotients with one denominator, the greater one is rounded to no less than the other. -/
theorem roundedQuotient_mono {m n : Nat} (h : m ≤ n) (den : Nat) :
    roundedQuotient m den ≤ roundedQuotient n den := by
  have hfloor : m / den ≤ n / den := Nat.div_le_div_right h
  have hm : den * (m / den) + m % den = m := Nat.div_add_mod m den
  have hn : den * (n / den) + n % den = n := Nat.div_add_mod n den
  unfold roundedQuotient
  dsimp only
  rcases Nat.lt_or_eq_of_le hfloor with hlt | heq
  · split_ifs <;> omega
  · -- With one floor, what decides is how much is left.
    rw [heq] at hm ⊢
    have hrest : m % den ≤ n % den := by omega
    split_ifs <;> omega

/-- A whole quotient is rounded to itself. -/
theorem roundedQuotient_mul (k : Nat) {den : Nat} (hden : 0 < den) :
    roundedQuotient (k * den) den = k := by
  have hdiv : k * den / den = k := Nat.mul_div_cancel k hden
  have hmod : k * den % den = 0 := Nat.mul_mod_left k den
  unfold roundedQuotient
  dsimp only
  rw [hdiv, hmod, if_pos (.inl (by omega))]

/-- The mantissa of a quotient at a scale. -/
def mantissaAt (num den : Nat) (scale : Int) : Nat :=
  roundedQuotient (scaledBy num den scale).1 (scaledBy num den scale).2

/-- At one scale a greater quotient has no smaller mantissa. -/
theorem mantissaAt_mono {num num' : Nat} (h : num ≤ num') (den : Nat) (scale : Int) :
    mantissaAt num den scale ≤ mantissaAt num' den scale :=
  roundedQuotient_mono (Nat.mul_le_mul_right _ h) _

/-- The mantissa is at most `2 ^ 53` at a scale that is great enough. -/
theorem mantissaAt_le {num den : Nat} (hden : 0 < den) {scale : Int}
    (h : (num : ℚ) / den < 2 ^ (scale + 53)) : mantissaAt num den scale ≤ 2 ^ 53 := by
  have hpow : ((2 ^ 53 : Nat) : ℚ) * 2 ^ scale = 2 ^ (scale + 53) := by
    rw [(two_zpow_add scale).2]
    norm_num
  have hlt : (scaledBy num den scale).1 < 2 ^ 53 * (scaledBy num den scale).2 := by
    rw [scaledBy_lt_iff hden, hpow]
    exact h
  calc mantissaAt num den scale
      ≤ roundedQuotient (2 ^ 53 * (scaledBy num den scale).2) (scaledBy num den scale).2 :=
        roundedQuotient_mono hlt.le _
    _ = 2 ^ 53 := roundedQuotient_mul _ (scaledBy_pos hden num scale)

/-- The mantissa is at least `2 ^ 52` at a scale that is small enough. -/
theorem le_mantissaAt {num den : Nat} (hden : 0 < den) {scale : Int}
    (h : (2 : ℚ) ^ (scale + 52) ≤ num / den) : 2 ^ 52 ≤ mantissaAt num den scale := by
  have hpow : ((2 ^ 52 : Nat) : ℚ) * 2 ^ scale = 2 ^ (scale + 52) := by
    rw [(two_zpow_add scale).1]
    norm_num
  have hle : 2 ^ 52 * (scaledBy num den scale).2 ≤ (scaledBy num den scale).1 := by
    rw [← Nat.not_lt, scaledBy_lt_iff hden, hpow, not_lt]
    exact h
  calc 2 ^ 52 = roundedQuotient (2 ^ 52 * (scaledBy num den scale).2) (scaledBy num den scale).2 :=
        (roundedQuotient_mul _ (scaledBy_pos hden num scale)).symm
    _ ≤ mantissaAt num den scale := roundedQuotient_mono hle _

/-! ## Bit patterns -/

/-- A greater mantissa with the same exponent has no smaller bit pattern. -/
theorem finiteBits_mono {m n : Nat} (h : m ≤ n) {q : Int} (hq : -1074 ≤ q) :
    finiteBits m q ≤ finiteBits n q := by
  unfold finiteBits
  split_ifs <;> omega

/-- A number with a smaller exponent has no greater bit pattern, if the mantissa of the other number
is full. The mantissa `2 ^ 53` carries into the exponent. -/
theorem finiteBits_le_of_lt {m n : Nat} {q r : Int} (hq : -1074 ≤ q) (hqr : q < r) (hm : m ≤ 2 ^ 53)
    (hn : 2 ^ 52 ≤ n) : finiteBits m q ≤ finiteBits n r := by
  unfold finiteBits
  split_ifs <;> omega

/-- The bit pattern that a quotient is rounded to, be it in range or not. -/
def roundedBits (num den : Nat) : Nat :=
  finiteBits (mantissaAt num den (scaleOf num den)) (scaleOf num den)

/-- The nearest number is the rounded one, if that is in range. -/
theorem nearestBits?_eq {num : Nat} (hnum : 0 < num) (den : Nat) :
    nearestBits? num den =
      if roundedBits num den < 0x7FF0000000000000 then some (roundedBits num den) else none :=
  if_neg hnum.ne'

/-- A greater quotient is not rounded to a smaller bit pattern. -/
theorem roundedBits_mono {num num' den : Nat} (hnum : 0 < num) (hden : 0 < den) (h : num ≤ num') :
    roundedBits num den ≤ roundedBits num' den := by
  have hle : (num : ℚ) / den ≤ num' / den := by gcongr
  obtain ⟨hlt, hlow, hfull⟩ := scaleOf_spec hnum hden
  obtain ⟨hlt', hlow', hfull'⟩ := scaleOf_spec (hnum.trans_le h) hden
  unfold roundedBits
  have hscales := scale_le_scale hle hfull hlt' hlow'
  rcases hscales.lt_or_eq with hscale | hscale
  · -- The greater quotient lies above the least scale, so that its mantissa is full.
    have hfull'' := hfull'.resolve_left (by omega)
    exact finiteBits_le_of_lt hlow hscale (mantissaAt_le hden hlt) (le_mantissaAt hden hfull'')
  · rw [hscale]
    exact finiteBits_mono (mantissaAt_mono h den _) hlow'

/-- What is no greater than a quotient in range is in range, and not rounded to a greater number. -/
theorem nearestBits?_mono {num num' den bits' : Nat} (hden : 0 < den) (h : num ≤ num')
    (hbits' : nearestBits? num' den = some bits') :
    ∃ bits, nearestBits? num den = some bits ∧ bits ≤ bits' := by
  rcases Nat.eq_zero_or_pos num with rfl | hnum
  · exact ⟨0, if_pos rfl, Nat.zero_le bits'⟩
  · have hmono := roundedBits_mono hnum hden h
    rw [nearestBits?_eq (hnum.trans_le h)] at hbits'
    split_ifs at hbits' with hrange
    obtain rfl := Option.some_inj.mp hbits'
    refine ⟨roundedBits num den, ?_, hmono⟩
    rw [nearestBits?_eq hnum, if_pos (hmono.trans_lt hrange)]

/-! ## Places -/

/-- The place of a number is its bit pattern, and that of its opposite is the opposite. -/
theorem place?_of_nearest? {negative : Bool} {num den : Nat} {x : Float}
    (h : nearest? negative num den = some x) :
    ∃ bits, nearestBits? num den = some bits ∧
      place? x = some (if negative then -(bits : Int) else bits) := by
  obtain ⟨bits, hbits, hlt, hword⟩ := toBits_of_nearest? h
  refine ⟨bits, hbits, ?_⟩
  rw [place?, hword]
  cases negative with
  | false =>
    -- The sign bit is taken off again, which leaves the magnitude.
    have hmod : bits % 0x8000000000000000 = bits := by omega
    simp only [Bool.false_eq_true, if_false, hmod]
    rw [if_neg (by omega), if_pos (by omega)]
  | true =>
    have hmod : (0x8000000000000000 + bits) % 0x8000000000000000 = bits := by omega
    simp only [if_true, hmod]
    rw [if_neg (by omega), if_neg (by omega)]

/-- An integer that fits a word is in range. -/
theorem ofInteger_spec {i : Int} (hi : FitsInt64 i) :
    ∃ bits, nearestBits? i.natAbs 1 = some bits ∧
      place? (ofInteger i) = some (if i < 0 then -(bits : Int) else bits) := by
  obtain ⟨hlow, hhigh⟩ := hi
  simp only [minInt64, maxInt64] at hlow hhigh
  -- The magnitude of the least word is in range, and all others are smaller.
  have hgreatest : nearestBits? 0x8000000000000000 1 = some 0x43E0000000000000 := by decide +kernel
  obtain ⟨bits, hbits, -⟩ := nearestBits?_mono Nat.one_pos (by omega : i.natAbs ≤ _) hgreatest
  obtain ⟨x, hx⟩ : ∃ x, nearest? (i < 0) i.natAbs 1 = some x := by
    rw [nearest?, hbits]
    exact ⟨_, rfl⟩
  obtain ⟨bits', hbits', hplace⟩ := place?_of_nearest? hx
  refine ⟨bits', hbits', ?_⟩
  rw [ofInteger, hx, Option.getD_some, hplace]
  simp only [decide_eq_true_eq]

/-- The numbers nearest to integers that fit a word lie in the order of the integers. -/
theorem ofInteger_mono {i j : Int} (hi : FitsInt64 i) (hj : FitsInt64 j) (h : i ≤ j) :
    ∃ p q, place? (ofInteger i) = some p ∧ place? (ofInteger j) = some q ∧ p ≤ q := by
  obtain ⟨a, ha, hp⟩ := ofInteger_spec hi
  obtain ⟨b, hb, hq⟩ := ofInteger_spec hj
  refine ⟨_, _, hp, hq, ?_⟩
  rcases Int.lt_or_le i 0 with hineg | hipos
  · rcases Int.lt_or_le j 0 with hjneg | hjpos
    · -- Below zero the order of the magnitudes is the opposite one.
      obtain ⟨b', hb', hle⟩ := nearestBits?_mono Nat.one_pos (by omega : j.natAbs ≤ i.natAbs) ha
      obtain rfl := Option.some_inj.mp (hb.symm.trans hb')
      rw [if_pos hineg, if_pos hjneg]
      omega
    · rw [if_pos hineg, if_neg (by omega)]
      omega
  · obtain ⟨a', ha', hle⟩ := nearestBits?_mono Nat.one_pos (by omega : i.natAbs ≤ j.natAbs) hb
    obtain rfl := Option.some_inj.mp (ha.symm.trans ha')
    rw [if_neg (by omega), if_neg (by omega)]
    omega

end AccessPolicy.Decimal
