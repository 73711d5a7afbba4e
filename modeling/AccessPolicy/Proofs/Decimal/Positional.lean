import AccessPolicy.Decimal.Shortest
import AccessPolicy.Decimal.Numeral
import AccessPolicy.Proofs.Decimal.Binary
import AccessPolicy.Proofs.Decimal.Digits
import AccessPolicy.Proofs.Decimal.Shortest
import AccessPolicy.Proofs.Decimal.Spelling

/-!
# Numbers written positionally are read back

A layout without an exponent and without a needless point writes a finite number as digits, some of
them behind a point if the number is not whole (`positionalChars_eq`). The reader divides such a
text into the same digits (`ArePlaces.split_signed`), which denote the shortest decimal of the
number, and rounds that to the number again (`number?_write`).
-/

namespace AccessPolicy.Decimal

/-! ## Texts with a point -/

/-- A text behind a minus sign, if it is that of a negative number. -/
def signed (negative : Bool) (body : List Char) : List Char :=
  if negative then '-' :: body else body

/-- Digits, and a point in front of the rest of them, if there is a rest. -/
def pointed (whole fraction : List Char) : List Char :=
  if fraction = [] then whole else whole ++ '.' :: fraction

/-- What the digits before and behind a point are to be. -/
structure ArePlaces (whole fraction : List Char) : Prop where
  whole_ne_nil : whole ≠ []
  isDigit_whole : ∀ c ∈ whole, c.isDigit
  isDigit_fraction : ∀ c ∈ fraction, c.isDigit

namespace ArePlaces

variable {whole fraction : List Char} (h : ArePlaces whole fraction)

/-- Places are spelled as a numeral without an exponent. -/
def spelling (negative : Bool) : NumeralText where
  sign := if negative then .minus else .absent
  whole := whole
  fraction := if fraction = [] then none else some fraction
  exponent := none
  isDigit_whole := h.isDigit_whole
  isDigit_fraction ds hds := by
    split at hds
    · exact nomatch hds
    · exact Option.some_inj.mp hds ▸ h.isDigit_fraction
  has_digit := .inl h.whole_ne_nil

/-- The characters of a number with a sign and a point. -/
theorem chars_spelling (negative : Bool) :
    (h.spelling negative).chars = signed negative (pointed whole fraction) := by
  have hpoint : whole ++ (pointChars (if fraction = [] then none else some fraction) ++ []) =
      pointed whole fraction := by
    rw [List.append_nil]
    unfold pointed
    split
    · exact List.append_nil whole
    · rfl
  unfold NumeralText.chars spelling
  cases negative with
  | true => exact congrArg ('-' :: ·) hpoint
  | false => exact hpoint

/-- What a number with a sign and a point denotes: what all its digits denote, with as many places
as there are behind the point. -/
theorem numeral_spelling (negative : Bool) :
    (h.spelling negative).numeral =
      ⟨negative, valueOf (whole ++ fraction), -(fraction.length : Int)⟩ := by
  -- No fraction and an empty one are spelled alike.
  have hfraction : (if fraction = [] then none else some fraction).getD [] = fraction := by
    split
    · next hnil => exact hnil.symm
    · rfl
  have hsign : Sign.isMinus (if negative then .minus else .absent) = negative := by
    cases negative <;> rfl
  unfold NumeralText.numeral spelling
  rw [hsign]
  simp only [hfraction, ExponentText.valueIn, zero_sub]
  rfl

include h

/-- A text with a sign and a point is read as the number that all its digits denote, with as many
places as there are behind the point. -/
theorem split_signed (negative : Bool) :
    Numeral.split (signed negative (pointed whole fraction)) =
      some (⟨negative, valueOf (whole ++ fraction), -(fraction.length : Int)⟩, []) := by
  rw [← h.chars_spelling, NumeralText.split_chars, h.numeral_spelling]

end ArePlaces

/-- The digits of a whole number. -/
theorem arePlaces_digits (n : Nat) : ArePlaces (digits n) [] :=
  ⟨digits_ne_nil n, fun _ hc => isDigit_of_mem_digits hc, fun _ hc => nomatch hc⟩

/-- The text of an integer has a sign and no point. -/
theorem intChars_eq_signed (i : Int) :
    intChars i = signed (decide (i < 0)) (pointed (digits i.natAbs) []) := by
  rw [intChars, signed, pointed, if_pos rfl]
  simp only [decide_eq_true_eq]

/-! ## Positional texts -/

/-- A positional text without a needless point has the digits of the number, and zeros where there
are none. -/
theorem positionalChars_eq {l : Layout} (hpoint : l.showsPoint = false) (d : Nat) (e : Int) :
    ∃ whole fraction,
      l.positionalChars (digits d) (e + (digits d).length) = pointed whole fraction ∧
      ArePlaces whole fraction ∧ valueOf (whole ++ fraction) = d * 10 ^ e.toNat ∧
      fraction.length = (-e).toNat := by
  have hdigits : ∀ c ∈ digits d, c.isDigit := fun c hc => isDigit_of_mem_digits hc
  have hzeros : ∀ n, ∀ c ∈ List.replicate n '0', c.isDigit := fun n c hc =>
    List.eq_of_mem_replicate hc ▸ (by decide)
  have hpos := length_digits_pos d
  rw [Layout.positionalChars]
  split_ifs with hsmall hwhole hshows
  · -- The point stands in front of all the digits.
    refine ⟨['0'], List.replicate (-(e + (digits d).length)).toNat '0' ++ digits d, ?_, ?_, ?_, ?_⟩
    · rw [pointed, if_neg fun hnil => digits_ne_nil d (List.append_eq_nil_iff.mp hnil).2]
      rfl
    · exact ⟨List.cons_ne_nil _ _, fun c hc => List.mem_singleton.mp hc ▸ (by decide),
        List.forall_mem_append.mpr ⟨hzeros _, hdigits⟩⟩
    · have hzero : e.toNat = 0 := by omega
      rw [← List.append_assoc, hzero, Nat.pow_zero, Nat.mul_one]
      exact (valueOf_replicate_zero_append (_ + 1) (digits d)).trans (valueOf_digits d)
    · rw [List.length_append, List.length_replicate]
      omega
  · exact absurd (hpoint ▸ hshows) Bool.false_ne_true
  · -- There are zeros, or nothing, up to the point.
    have he : (e + (digits d).length).toNat - (digits d).length = e.toNat := by omega
    refine ⟨digits d ++ List.replicate e.toNat '0', [], ?_, ?_, ?_, ?_⟩
    · rw [he, List.append_nil]
      rfl
    · exact ⟨fun hnil => digits_ne_nil d (List.append_eq_nil_iff.mp hnil).1,
        List.forall_mem_append.mpr ⟨hdigits, hzeros _⟩, fun c hc => nomatch hc⟩
    · rw [List.append_nil, valueOf_append_replicate_zero, valueOf_digits]
    · rw [List.length_nil]
      omega
  · -- The point stands within the digits.
    have hlt : (e + (digits d).length).toNat < (digits d).length := by omega
    refine ⟨(digits d).take (e + (digits d).length).toNat,
      (digits d).drop (e + (digits d).length).toNat, ?_, ?_, ?_, ?_⟩
    · rw [pointed, if_neg]
      rw [List.drop_eq_nil_iff]
      omega
    · refine ⟨fun hnil => ?_, fun c hc => hdigits c (List.mem_of_mem_take hc),
        fun c hc => hdigits c (List.mem_of_mem_drop hc)⟩
      have := congrArg List.length hnil
      rw [List.length_take, List.length_nil] at this
      omega
    · have hzero : e.toNat = 0 := by omega
      rw [List.take_append_drop, valueOf_digits, hzero, Nat.pow_zero, Nat.mul_one]
    · rw [List.length_drop]
      omega

/-! ## Numbers -/

/-- The greatest power of ten that is computed is above all the powers of two that matter. -/
theorem two_zpow_le_scaleLimit : (2 : ℚ) ^ ((13 * 100 : Nat) : Int) ≤ 10 ^ scaleLimit :=
  calc (2 : ℚ) ^ ((13 * 100 : Nat) : Int) = (2 ^ 13) ^ 100 := by rw [zpow_natCast, pow_mul]
    _ ≤ (10 ^ 4) ^ 100 := by
      gcongr
      norm_num
    _ = 10 ^ scaleLimit := by
      rw [← pow_mul, ← zpow_natCast]
      rfl

/-- What rounds to a number is neither too small nor too great for the reader. -/
theorem Canonical.bounds {m : Nat} {q : Int} (h : Canonical m q) {x : ℚ}
    (hx : (Interval.of m q).Contains x) :
    (10 : ℚ) ^ (-scaleLimit) ≤ x ∧ x < 10 ^ scaleLimit := by
  obtain ⟨hpos, hlt, hlow, hhigh, -⟩ := h
  obtain ⟨hge, hle, -⟩ := hx
  have hlow' : (2 : ℚ) ≤ (Interval.of m q).low := by
    have : 2 ≤ (Interval.of m q).low := by
      simp only [Interval.of]
      split_ifs <;> omega
    exact_mod_cast this
  have hhigh' : ((Interval.of m q).high : ℚ) ≤ 2 ^ 55 := by
    have : (Interval.of m q).high ≤ 2 ^ 55 := by
      simp only [Interval.of]
      omega
    exact_mod_cast this
  have hunit : (Interval.of m q).unit = q - 2 := rfl
  rw [hunit] at hge hle
  constructor
  · -- The interval starts above the smallest power of ten that the reader keeps.
    calc (10 : ℚ) ^ (-scaleLimit) ≤ 2 ^ (-(13 * 100 : Nat) : Int) := by
          rw [zpow_neg, zpow_neg]
          exact inv_anti₀ (by positivity) two_zpow_le_scaleLimit
      _ ≤ 1 * 2 ^ (q - 2) := by
          rw [one_mul]
          exact zpow_le_zpow_right₀ one_le_two (by omega)
      _ ≤ (Interval.of m q).low * 2 ^ (q - 2) := by
          gcongr
          linarith
      _ ≤ x := hge
  · -- It ends below the greatest one.
    calc x ≤ (Interval.of m q).high * 2 ^ (q - 2) := hle
      _ ≤ 2 ^ (55 : Int) * 2 ^ (969 : Int) := by
          gcongr
          · exact_mod_cast hhigh'
          · exact one_le_two
          · omega
      _ < 2 ^ ((13 * 100 : Nat) : Int) := by
          rw [← zpow_add₀ two_ne_zero]
          exact zpow_lt_zpow_right₀ one_lt_two (by norm_num)
      _ ≤ 10 ^ scaleLimit := two_zpow_le_scaleLimit

/-- A decimal that is among the reals of a number is rounded to that number. -/
theorem toFloat?_of_contains {m : Nat} {q : Int} (h : Canonical m q) {d : Nat} {e : Int}
    (hx : (Interval.of m q).Contains (d * 10 ^ e)) (negative : Bool) :
    Numeral.toFloat? ⟨negative, d * 10 ^ e.toNat, -((-e).toNat : Int)⟩ =
      some (Float.ofBits (UInt64.ofNat
        (if negative then 0x8000000000000000 + finiteBits m q else finiteBits m q))) := by
  obtain ⟨hmin, hmax⟩ := h.bounds hx
  -- The exponent is written as zeros behind the digits, or as places behind the point.
  have hvalue : (d : ℚ) * 10 ^ e = (d * 10 ^ e.toNat : Nat) / 10 ^ (-e).toNat := by
    rw [zpow_eq_div 10 e, mul_div_assoc']
    push_cast
    rfl
  rw [hvalue] at hx hmin hmax
  generalize d * 10 ^ e.toNat = mantissa at hx hmin hmax ⊢
  generalize (-e).toNat = places at hx hmin hmax ⊢
  have hplaces : (0 : ℚ) < 10 ^ places := by positivity
  have hne : mantissa ≠ 0 := by
    rintro rfl
    rw [Nat.cast_zero, zero_div] at hmin
    exact absurd hmin (not_le.mpr (by positivity))
  obtain ⟨hge, hlt⟩ := length_digits_spec (Nat.pos_of_ne_zero hne)
  have hlength := length_digits_pos mantissa
  rw [Numeral.toFloat?]
  simp only
  generalize (digits mantissa).length = length at hge hlt hlength ⊢
  -- As many digits behind so many places are a value that is not too small.
  have hlow : ¬(-(places : Int) + length < -scaleLimit) := by
    have hpow : (10 : ℚ) ^ (-scaleLimit) < 10 ^ (-(places : Int) + length) := by
      refine hmin.trans_lt ?_
      rw [div_lt_iff₀ hplaces, ← zpow_natCast, ← zpow_add₀ (by norm_num),
        neg_add_cancel_comm, zpow_natCast]
      exact_mod_cast hlt
    have := (zpow_lt_zpow_iff_right₀ (by norm_num)).mp hpow
    omega
  -- Nor are they one that is too great.
  have hhigh : ¬scaleLimit < -(places : Int) + length := by
    have hpow : (10 : ℚ) ^ (-(places : Int) + (length - 1 : Nat)) < 10 ^ scaleLimit := by
      refine lt_of_le_of_lt ?_ hmax
      rw [le_div_iff₀ hplaces, ← zpow_natCast, ← zpow_add₀ (by norm_num),
        neg_add_cancel_comm, zpow_natCast]
      exact_mod_cast hge
    have := (zpow_lt_zpow_iff_right₀ (by norm_num)).mp hpow
    omega
  have hscale : (-(places : Int)).toNat = 0 := by omega
  have hscale' : (- -(places : Int)).toNat = places := by omega
  -- What is left is to round the quotient.
  have hread := nearestBits?_of_contains h (Nat.pow_pos (by decide) : 0 < 10 ^ places)
    (by exact_mod_cast hx)
  rw [if_neg (not_or.mpr ⟨hne, hlow⟩), if_neg hhigh, hscale, hscale', nearest?]
  simp only [Nat.pow_eq, Nat.pow_zero, Nat.mul_one, hread, Option.map_some]

/-- A finite number is written as digits with at most one point, which denote a decimal that is
rounded to the number. -/
theorem write_eq_pointed {l : Layout} (hpositional : l.positional = none)
    (hpoint : l.showsPoint = false) {x : Float} (hx : isFinite x = true) :
    ∃ negative whole fraction, (l.write x).toList = signed negative (pointed whole fraction) ∧
      ArePlaces whole fraction ∧
      Numeral.toFloat? ⟨negative, valueOf (whole ++ fraction), -(fraction.length : Int)⟩ =
        some x := by
  obtain ⟨negative, m, q, hparts, hm, heq⟩ := parts_of_isFinite hx
  -- Zero is written on its own, and the other numbers by their shortest decimals.
  have hwrite : (l.write x).toList = signed negative
      (if m = 0 then l.positionalChars ['0'] 1 else l.positiveChars m q) := by
    rw [Layout.write, hparts, String.toList_ofList]
    rfl
  rcases Nat.eq_zero_or_pos m with rfl | hpos
  · obtain ⟨whole, fraction, htext, hplaces, hvalue, hlength⟩ := positionalChars_eq hpoint 0 0
    refine ⟨negative, whole, fraction, ?_, hplaces, ?_⟩
    · rw [hwrite, if_pos rfl, ← htext]
      rfl
    · rw [hvalue, Nat.zero_mul, Numeral.toFloat?, if_pos (.inl rfl), heq]
      rfl
  · have hcanonical := hm.resolve_left hpos.ne'
    obtain ⟨whole, fraction, htext, hplaces, hvalue, hlength⟩ :=
      positionalChars_eq hpoint (shortest l.tie m q).digits (shortest l.tie m q).exponent
    refine ⟨negative, whole, fraction, ?_, hplaces, ?_⟩
    · rw [hwrite, if_neg hpos.ne', ← htext, Layout.positiveChars]
      simp only [Layout.isPositional, hpositional, if_true]
    · rw [hvalue, hlength, toFloat?_of_contains hcanonical (shortest_contains l.tie hcanonical),
        heq]

/-- What is read of a numeral is finite. -/
theorem isFinite_of_number? {cs : List Char} {x : Float} (h : number? cs = some x) :
    isFinite x = true := by
  unfold number? at h
  split at h
  · next n _ =>
    unfold Numeral.toFloat? at h
    simp only at h
    split_ifs at h
    · exact isFinite_of_nearest? h
    · exact isFinite_of_nearest? h
  · exact nomatch h

/-- The positional text of a finite number is read as that number. -/
theorem number?_write {l : Layout} (hpositional : l.positional = none)
    (hpoint : l.showsPoint = false)
    {x : Float} (hx : isFinite x = true) : number? (l.write x).toList = some x := by
  obtain ⟨negative, whole, fraction, htext, hplaces, hread⟩ :=
    write_eq_pointed hpositional hpoint hx
  rw [number?, htext, hplaces.split_signed]
  exact hread

end AccessPolicy.Decimal
