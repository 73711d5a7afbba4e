import AccessPolicy.Decimal.Binary

/-!
# Rounding to a floating-point number

The double-precision number nearest to a quotient of two whole numbers, a tie going to the neighbour
with an even mantissa. All arithmetic is exact: the quotient is scaled by a power of two until its
whole part has as many bits as a mantissa (`scaleOf`), and rounded there (`roundedQuotient`).
-/

namespace AccessPolicy.Decimal

/-- The whole number nearest to `num / den`, a tie going to the even one. -/
def roundedQuotient (num den : Nat) : Nat :=
  let floor := num / den
  let rest := 2 * (num % den)
  if rest < den ∨ (rest = den ∧ floor % 2 = 0) then floor else floor + 1

/-- The numerator and denominator of `num / den * 2 ^ (-scale)`. -/
def scaledBy (num den : Nat) (scale : Int) : Nat × Nat :=
  (num * Nat.pow 2 (-scale).toNat, den * Nat.pow 2 scale.toNat)

/-- The exponent of the last bit of the mantissa that holds `num / den`: the least for which the
quotient has at most 53 bits before the point, and no less than that of the smallest number. -/
def scaleOf (num den : Nat) : Int :=
  let estimate : Int := (Nat.log2 num : Int) - Nat.log2 den - 53
  let (n, d) := scaledBy num den estimate
  max (-1074) (if n < 0x20000000000000 * d then estimate else estimate + 1)

/-- The bit pattern of the positive number nearest to `num / den`; none if that is out of range. -/
def nearestBits? (num den : Nat) : Option Nat :=
  if num = 0 then some 0
  else
    let scale := scaleOf num den
    let (n, d) := scaledBy num den scale
    let mantissa := roundedQuotient n d
    -- A mantissa that rounds up to `2 ^ 53` carries into the exponent.
    let bits :=
      if mantissa < 0x10000000000000 then mantissa
      else (scale + 1075).toNat * 0x10000000000000 + (mantissa - 0x10000000000000)
    if bits < 0x7FF0000000000000 then some bits else none

/-- The number nearest to `num / den`, or its opposite; none if that is out of range. -/
def nearest? (negative : Bool) (num den : Nat) : Option Float :=
  (nearestBits? num den).map fun bits =>
    Float.ofBits (UInt64.ofNat (if negative then 0x8000000000000000 + bits else bits))

/-- The number nearest to an integer that fits a machine word. -/
def ofInteger (i : Int) : Float :=
  (nearest? (i < 0) i.natAbs 1).getD 0.0

example : nearestBits? 1 10 = some (0.1 : Float).toBits.toNat := by decide +kernel
example : nearestBits? (2 ^ 53 + 1) 1 = nearestBits? (2 ^ 53) 1 := by decide +kernel

end AccessPolicy.Decimal
