import AccessPolicy.Proofs.Decimal.Rounding
import Mathlib

/-!
# Numbers and their bit patterns

A finite number is taken apart into a sign, a mantissa and an exponent, from which its bit pattern
can be put together again (`parts_of_isFinite`). What a quotient is rounded to is finite
(`isFinite_of_nearest?`).
-/

namespace AccessPolicy.Decimal

open Float.Model (UnpackedFloat)

/-- A number keeps the bit pattern that it is made from, unless that has the exponent of what is not
a number. -/
theorem toBits_ofBits {bits : UInt64} (h : bits.toNat / 0x10000000000000 % 0x800 ≠ 0x7FF) :
    (Float.ofBits bits).toBits = bits := by
  have hnan : @UnpackedFloat.isNaNBits .binary64 bits.toBitVec = false := by
    rw [UnpackedFloat.isNaNBits, decide_eq_false_iff_not]
    rintro ⟨hexponent, -⟩
    have hnat := congrArg BitVec.toNat hexponent
    rw [UnpackedFloat.unpackExponent_def, BitVec.extractLsb'_toNat,
      Nat.shiftRight_eq_div_pow] at hnat
    exact h hnat
  have hpack := @UnpackedFloat.pack_unpack .binary64 bits.toBitVec (by decide)
  rw [hnan, if_neg Bool.false_ne_true] at hpack
  exact UInt64.toBitVec_inj.mp hpack

/-- A number is finite if its exponent is not the greatest one. -/
theorem isFinite_iff (x : Float) :
    isFinite x = true ↔ x.toBits.toNat / 0x10000000000000 % 0x800 ≠ 0x7FF := by
  simp only [isFinite, Binary.ofFloat, Binary.ofBits]
  by_cases hbiased : x.toBits.toNat / 0x10000000000000 % 0x800 = 0x7FF
  · refine iff_of_false ?_ (not_not.mpr hbiased)
    rw [if_pos hbiased]
    split_ifs <;> exact id
  · refine iff_of_true ?_ hbiased
    rw [if_neg hbiased]
    split_ifs <;> rfl

/-- A finite number is the same number as itself. -/
theorem sameNumber_self {x : Float} (h : isFinite x = true) : sameNumber x x = true := by
  rw [isFinite_iff] at h
  obtain ⟨place, hplace⟩ : ∃ place, place? x = some place := by
    have hbits := x.toBits.toNat_lt
    rw [place?]
    generalize x.toBits.toNat = bits at h hbits ⊢
    have hnumber : ¬bits % 0x8000000000000000 > 0x7FF0000000000000 := by omega
    simp only [if_neg hnumber]
    split_ifs <;> exact ⟨_, rfl⟩
  rw [sameNumber, order?, hplace, beq_iff_eq]
  exact congrArg some (compare_eq_iff_eq.mpr rfl)

/-- A finite number is put together from its parts: it is zero, or its mantissa is the one that goes
with its exponent. -/
theorem parts_of_isFinite {x : Float} (h : isFinite x = true) :
    ∃ negative m q, Binary.ofFloat x = .finite negative m q ∧ (m = 0 ∨ Canonical m q) ∧
      x = Float.ofBits (UInt64.ofNat
        (if negative then 0x8000000000000000 + finiteBits m q else finiteBits m q)) := by
  rw [isFinite_iff] at h
  have hbits := x.toBits.toNat_lt
  suffices hparts : ∃ negative m q, Binary.ofFloat x = .finite negative m q ∧
      (m = 0 ∨ Canonical m q) ∧
      x.toBits.toNat = if negative then 0x8000000000000000 + finiteBits m q else finiteBits m q by
    obtain ⟨negative, m, q, hfinite, hcanonical, heq⟩ := hparts
    refine ⟨negative, m, q, hfinite, hcanonical, ?_⟩
    rw [← heq, UInt64.ofNat_toNat, Float.ofBits_toBits]
  -- A pattern of bits that is not all ones in the exponent is split into the two fields.
  rw [Binary.ofFloat, Binary.ofBits]
  generalize x.toBits.toNat = bits at h hbits ⊢
  simp only [if_neg h]
  by_cases hbiased : bits / 0x10000000000000 % 0x800 = 0
  · -- A subnormal number has the exponent of the smallest normal ones, and no hidden bit.
    have hlt : bits % 0x10000000000000 < 2 ^ 52 := Nat.mod_lt _ (by decide)
    refine ⟨_, _, _, if_pos hbiased, ?_, ?_⟩
    · by_cases hzero : bits % 0x10000000000000 = 0
      · exact .inl hzero
      · exact .inr ⟨by omega, by omega, by omega, by omega, .inl rfl⟩
    · simp only [finiteBits, if_pos hlt, decide_eq_true_eq]
      split_ifs <;> omega
  · -- Any other one has the hidden bit.
    have hge : ¬0x10000000000000 + bits % 0x10000000000000 < 2 ^ 52 := by omega
    refine ⟨_, _, _, if_neg hbiased, ?_, ?_⟩
    · exact .inr ⟨by omega, by omega, by omega, by omega, .inr (by omega)⟩
    · simp only [finiteBits, if_neg hge, decide_eq_true_eq]
      split_ifs <;> omega

/-- A quotient is rounded to the bit pattern of a finite number. -/
theorem nearestBits?_lt {num den bits : Nat} (h : nearestBits? num den = some bits) :
    bits < 0x7FF0000000000000 := by
  unfold nearestBits? at h
  split at h
  · obtain rfl := Option.some_inj.mp h
    omega
  · simp only at h
    split_ifs at h with hsmall hlt hlt
    all_goals
      obtain rfl := Option.some_inj.mp h
      exact hlt

/-- The bit pattern of what a quotient is rounded to is that of its magnitude, which is below the
one of infinity, behind the sign bit. -/
theorem toBits_of_nearest? {negative : Bool} {num den : Nat} {x : Float}
    (h : nearest? negative num den = some x) :
    ∃ bits, nearestBits? num den = some bits ∧ bits < 0x7FF0000000000000 ∧
      x.toBits.toNat = if negative then 0x8000000000000000 + bits else bits := by
  obtain ⟨bits, hbits, rfl⟩ := Option.map_eq_some_iff.mp h
  -- The sign bit is above all bits of a magnitude, so that the sum is a word.
  have hlt := nearestBits?_lt hbits
  have hword : (UInt64.ofNat (if negative then 0x8000000000000000 + bits else bits)).toNat =
      if negative then 0x8000000000000000 + bits else bits := by
    rw [UInt64.toNat_ofNat']
    split_ifs <;> omega
  refine ⟨bits, hbits, hlt, ?_⟩
  rw [toBits_ofBits, hword]
  rw [hword]
  split_ifs <;> omega

/-- A quotient is rounded to a finite number. -/
theorem isFinite_of_nearest? {negative : Bool} {num den : Nat} {x : Float}
    (h : nearest? negative num den = some x) : isFinite x = true := by
  obtain ⟨bits, -, hlt, hword⟩ := toBits_of_nearest? h
  rw [isFinite_iff, hword]
  split_ifs <;> omega

end AccessPolicy.Decimal
