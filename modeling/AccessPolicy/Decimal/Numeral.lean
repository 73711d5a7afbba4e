import AccessPolicy.Decimal.Integer
import AccessPolicy.Decimal.Rounding

/-!
# Decimal numerals

A numeral is a run of digits with at most one point in it, behind an optional sign and before an
optional exponent. `Numeral.split` takes the longest one off the front of a text; `number?` reads a
text that is a numeral as a whole, and gives the number nearest to what it denotes.

There is a quick way to read a numeral in floating-point arithmetic (`quickNumber?`): its leading
digits are taken as a whole number, as many as fit an unsigned 64-bit word, and the floating-point
number nearest to that is multiplied or divided by a power of ten. Both steps round, so that the
result may be off by a unit in the last place, which `number?` never is.
-/

namespace AccessPolicy.Decimal

open Text (digitValue)

/-- The decimal `mantissa * 10 ^ scale`, or its opposite. -/
structure Numeral where
  negative : Bool
  mantissa : Nat
  scale : Int
  deriving DecidableEq

/-- The greatest power of ten that is ever computed; beyond it a numeral is out of range or zero. -/
def scaleLimit : Int := 400

/-- The number nearest to what a numeral denotes; none if that is out of range. -/
def Numeral.toFloat? (n : Numeral) : Option Float :=
  let place : Int := n.scale + (digits n.mantissa).length
  if n.mantissa = 0 ∨ place < -scaleLimit then nearest? n.negative 0 1
  else if scaleLimit < place then none
  else nearest? n.negative (n.mantissa * Nat.pow 10 n.scale.toNat) (Nat.pow 10 (-n.scale).toNat)

/-- The sign at the front of a text, and the rest. -/
def splitSign : List Char → Bool × List Char
  | '-' :: cs => (true, cs)
  | '+' :: cs => (false, cs)
  | cs => (false, cs)

/-- The exponent at the front of a text, and the rest: `e` or `E`, an optional sign, and digits.
Where there is none it is zero and nothing is taken. -/
def splitExponent (cs : List Char) : Int × List Char :=
  match cs with
  | [] => (0, [])
  | e :: after =>
    if e = 'e' ∨ e = 'E' then
      let (negative, rest) := splitSign after
      let ds := rest.takeWhile Char.isDigit
      if ds = [] then (0, cs)
      else
        let n : Int := valueOf ds
        (if negative then -n else n, rest.dropWhile Char.isDigit)
    else (0, cs)

/-- The digits after a point at the front of a text, and the rest. -/
def splitFraction : List Char → List Char × List Char
  | '.' :: cs => (cs.takeWhile Char.isDigit, cs.dropWhile Char.isDigit)
  | cs => ([], cs)

/-- The longest numeral at the front of a text, and the rest. -/
def Numeral.split (cs : List Char) : Option (Numeral × List Char) :=
  let (negative, unsigned) := splitSign cs
  let whole := unsigned.takeWhile Char.isDigit
  let (fraction, rest) := splitFraction (unsigned.dropWhile Char.isDigit)
  if whole = [] ∧ fraction = [] then none
  else
    let (exponent, rest) := splitExponent rest
    some (⟨negative, valueOf (whole ++ fraction), exponent - fraction.length⟩, rest)

/-- Reads a text that is a numeral as a whole. -/
def number? (cs : List Char) : Option Float :=
  match Numeral.split cs with
  | some (n, []) => n.toFloat?
  | _ => none

/-! ## The quick way -/

/-- The number that the digits denote together with those before them, which denote `n`, as long as
that fits an unsigned word; and the digits that are left. -/
def wordOf (n : Nat) : List Char → Nat × List Char
  | [] => (n, [])
  | c :: cs =>
    let m := 10 * n + digitValue c
    if m < 0x10000000000000000 then wordOf m cs else (n, c :: cs)

/-- The greatest power of ten that is a floating-point number. -/
def greatestPower : Nat := 308

/-- A power of ten. -/
def powerOfTen (n : Nat) : Float :=
  (nearest? false (Nat.pow 10 n) 1).getD 0.0

/-- A number divided by a power of ten, in several steps if the power is too great for one. -/
def divideByPower (x : Float) (n : Nat) : Float :=
  if n ≤ greatestPower then x / powerOfTen n
  else if x == 0.0 then x
  else divideByPower (x / powerOfTen greatestPower) (n - greatestPower)
termination_by n
decreasing_by
  simp only [greatestPower] at *
  omega

/-- The whole number `n` multiplied by a power of ten; none if that is out of range. -/
def scaled? (n : Nat) (exponent : Int) : Option Float :=
  if n = 0 then some 0.0
  else if exponent < 0 then some (divideByPower (ofInteger n) exponent.natAbs)
  else if (greatestPower : Int) < exponent then none
  else
    let x := ofInteger n * powerOfTen exponent.toNat
    if isFinite x then some x else none

/-- The number of a numeral with the given digits before and behind the point; none if it is out of
range. -/
def quickNumber? (negative : Bool) (whole fraction : List Char) (exponent : Int) : Option Float :=
  let (n, left) := wordOf 0 whole
  let (m, beyond) := wordOf n fraction
  let place : Int := left.length - (fraction.length - beyond.length : Nat)
  (scaled? m (place + exponent)).map fun x => if negative then -x else x

end AccessPolicy.Decimal
