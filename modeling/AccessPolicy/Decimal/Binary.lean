/-!
# Binary floating-point numbers

A double-precision number is a sign, a whole number `mantissa` and a power of two, or an infinity,
or not a number at all. `Binary.ofFloat` takes a number apart; the readers and writers of decimals
work on the parts. `order?` compares two numbers by their bit patterns, which for numbers of one
sign lie in the order of the numbers.
-/

namespace AccessPolicy.Decimal

/-- The parts of a double-precision number. -/
inductive Binary where
  | nan
  | infinite (negative : Bool)
  /-- The number `mantissa * 2 ^ exponent`, or its opposite. -/
  | finite (negative : Bool) (mantissa : Nat) (exponent : Int)
  deriving DecidableEq

/-- The parts of a number given by its bit pattern. -/
def Binary.ofBits (bits : Nat) : Binary :=
  let negative := decide (0x8000000000000000 ≤ bits)
  let biased : Nat := bits / 0x10000000000000 % 0x800
  let fraction := bits % 0x10000000000000
  if biased = 0x7FF then
    if fraction = 0 then .infinite negative else .nan
  else if biased = 0 then .finite negative fraction (-1074)
  else .finite negative (0x10000000000000 + fraction) ((biased : Int) - 1075)

/-- The parts of a number. -/
def Binary.ofFloat (x : Float) : Binary :=
  .ofBits x.toBits.toNat

/-- Whether a number is neither infinite nor not a number. -/
def isFinite (x : Float) : Bool :=
  match Binary.ofFloat x with
  | .finite .. => true
  | _ => false

/-- The place of a number in the order of all numbers. Both zeros have place 0; what is not a number
has no place. -/
def place? (x : Float) : Option Int :=
  let bits := x.toBits.toNat
  let magnitude : Nat := bits % 0x8000000000000000
  if magnitude > 0x7FF0000000000000 then none
  else if bits < 0x8000000000000000 then some (magnitude : Int)
  else some (-(magnitude : Int))

/-- How two numbers compare; nothing compares with what is not a number. -/
def order? (x y : Float) : Option Ordering :=
  match place? x, place? y with
  | some a, some b => some (compare a b)
  | _, _ => none

/-- Whether two numbers are the same number; both zeros are. -/
def sameNumber (x y : Float) : Bool :=
  order? x y == some .eq

/-- Exchanged numbers compare the other way round. -/
theorem order?_swap (x y : Float) : order? y x = (order? x y).map Ordering.swap := by
  unfold order?
  rcases place? x with _ | a <;> rcases place? y with _ | b <;> simp only [Option.map]
  rw [Int.compare_swap]

example : order? 0.0 (-0.0) = some .eq := by decide +kernel
example : order? (-1.5) 2.0 = some .lt := by decide +kernel
example : order? (0.0 / 0.0) 2.0 = none := by decide +kernel

end AccessPolicy.Decimal
