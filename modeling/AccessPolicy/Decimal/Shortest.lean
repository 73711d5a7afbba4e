import AccessPolicy.Decimal.Binary
import AccessPolicy.Decimal.Integer

/-!
# Shortest decimals and written forms

The decimal with the fewest digits among those that read back as a given floating-point number, and
the nearest one to it among those. A number `m * 2 ^ q` stands for an interval of reals that round
to it (`Interval.of`); the grids of multiples of `10 ^ k` are tried from the coarsest to the finest,
and on each the two neighbours of the number (`Interval.onGrid?`).

A number is written with the digits of its shortest decimal. `Layout` holds what remains to be
decided: which exponents are written positionally and which behind an `e`, whether a whole number
shows a point, and which of two equally near decimals is taken.
-/

namespace AccessPolicy.Decimal

/-- Which of two equally near decimals is chosen. -/
inductive Tie where
  /-- The one whose last digit is even. -/
  | toEven
  /-- The larger one. -/
  | up
  deriving DecidableEq

/-- Whether `d` is chosen over `d + 1` for a number that compares to their middle as given. -/
def Tie.takesLower (tie : Tie) (d : Nat) : Ordering → Bool
  | .lt => true
  | .eq => tie = .toEven ∧ d % 2 = 0
  | .gt => false

/-- The reals that round to a number, as multiples of `2 ^ unit`. -/
structure Interval where
  low : Nat
  center : Nat
  high : Nat
  unit : Int
  /-- Whether the ends belong to it. -/
  closed : Bool

/-- The reals that round to `m * 2 ^ q`. The gap below a power of two is half the one
above it. -/
def Interval.of (m : Nat) (q : Int) : Interval :=
  let low := if m = 0x10000000000000 ∧ -1074 < q then 4 * m - 1 else 4 * m - 2
  ⟨low, 4 * m, 4 * m + 2, q - 2, m % 2 = 0⟩

/-- A multiple `d` of `10 ^ k` is in the interval if `d` times the second factor lies between the
ends times the first. -/
def gridFactors (unit k : Int) : Nat × Nat :=
  (Nat.pow 2 unit.toNat * Nat.pow 10 (-k).toNat, Nat.pow 2 (-unit).toNat * Nat.pow 10 k.toNat)

/-- The multiple of `10 ^ k` in the interval that is nearest to its center. -/
def Interval.onGrid? (i : Interval) (tie : Tie) (k : Int) : Option Nat :=
  let (a, b) := gridFactors i.unit k
  let inside (d : Nat) : Bool :=
    if i.closed then i.low * a ≤ d * b && d * b ≤ i.high * a
    else i.low * a < d * b && d * b < i.high * a
  let d := i.center * a / b
  match inside d, inside (d + 1) with
  | true, true =>
    if tie.takesLower d (compare (2 * (i.center * a)) ((2 * d + 1) * b)) then some d
    else some (d + 1)
  | true, false => some d
  | false, true => some (d + 1)
  | false, false => none

/-- The exponent of the first decimal digit of `num / den`: the greatest `e` with `10 ^ e` not above
the quotient. -/
def firstPlace (num den : Nat) : Int :=
  if den ≤ num then ((Nat.toDigits 10 (num / den)).length : Int) - 1
  else
    let count := (Nat.toDigits 10 (den / num)).length
    if num * Nat.pow 10 (count - 1) = den then 1 - (count : Int) else -(count : Int)

/-- A decimal `digits * 10 ^ exponent`. -/
structure Scaled where
  digits : Nat
  exponent : Int
  deriving DecidableEq

/-- The shortest decimal that reads back as `m * 2 ^ q`. Seventeen digits always suffice. -/
def shortest (tie : Tie) (m : Nat) (q : Int) : Scaled :=
  let i := Interval.of m q
  let first := firstPlace (m * Nat.pow 2 q.toNat) (Nat.pow 2 (-q).toNat)
  -- The coarsest grid is that of the next power of ten, which the number may round up to.
  let found := (List.range 18).findSome? fun (n : Nat) =>
    let k : Int := first + 1 - n
    (i.onGrid? tie k).map fun d => (⟨d, k⟩ : Scaled)
  found.getD ⟨0, 0⟩

example : shortest .toEven 0x10C6F7A0B5ED8D (-72) = ⟨1, -6⟩ := by decide +kernel
example : shortest .toEven 1 (-1074) = ⟨5, -324⟩ := by decide +kernel
example : shortest .toEven (2 ^ 52) 971 = ⟨898846567431158, 293⟩ := by decide +kernel
example : shortest .toEven (2 ^ 52 + 1) (-2) = ⟨11258999068426242, -1⟩ := by decide +kernel
example : shortest .up (2 ^ 52 + 1) (-2) = ⟨11258999068426243, -1⟩ := by decide +kernel

/-! ## Written forms -/

/-- The decisions of a written form. -/
structure Layout where
  tie : Tie
  /-- The exponents of the first digit that are written positionally; all if there are no bounds. -/
  positional : Option (Int × Int)
  /-- Whether a whole number ends in `.0`. -/
  showsPoint : Bool

namespace Layout

/-- Whether a number whose first digit stands for `10 ^ place` is written positionally. -/
def isPositional (l : Layout) (place : Int) : Bool :=
  match l.positional with
  | none => true
  | some (least, greatest) => least ≤ place && place ≤ greatest

/-- The digits `ds` with the point behind the first `point` places. -/
def positionalChars (l : Layout) (ds : List Char) (point : Int) : List Char :=
  if point ≤ 0 then '0' :: '.' :: (List.replicate (-point).toNat '0' ++ ds)
  else if ds.length ≤ point.toNat then
    ds ++ List.replicate (point.toNat - ds.length) '0' ++ (if l.showsPoint then ['.', '0'] else [])
  else ds.take point.toNat ++ '.' :: ds.drop point.toNat

/-- The digits `ds` with the point behind the first one, and the exponent with its sign. -/
def exponentChars (ds : List Char) (place : Int) : List Char :=
  let fraction := if ds.length ≤ 1 then [] else '.' :: ds.drop 1
  let sign := if place < 0 then '-' else '+'
  ds.take 1 ++ fraction ++ 'e' :: sign :: digits place.natAbs

/-- The written form of the positive number `m * 2 ^ q`. -/
def positiveChars (l : Layout) (m : Nat) (q : Int) : List Char :=
  let s := shortest l.tie m q
  let ds := digits s.digits
  let point := s.exponent + ds.length
  if l.isPositional (point - 1) then l.positionalChars ds point else exponentChars ds (point - 1)

/-- The written form of a number. -/
def write (l : Layout) (x : Float) : String :=
  match Binary.ofFloat x with
  | .nan => "NaN"
  | .infinite negative => if negative then "-inf" else "inf"
  | .finite negative m q =>
    let body := if m = 0 then l.positionalChars ['0'] 1 else l.positiveChars m q
    String.ofList (if negative then '-' :: body else body)

end Layout

end AccessPolicy.Decimal
