import AccessPolicy.Decimal.Numeral
import AccessPolicy.Text.Character
import AccessPolicy.Value.Basic

/-!
# Comparing values

Three ways in which values compare. `same` is equality of type and content. `equals` is what
conditions go by: a network equals each address in it, and a literal that could not be read equals
nothing. `order?` is the order of numbers, texts, addresses and instants, and relates numbers also
with texts that are numerals.
-/

namespace AccessPolicy.Value

open Decimal (order? sameNumber)

/-- The number that a text denotes, blanks on either side not counting. -/
def numeral? (s : String) : Option Float :=
  Decimal.number? (Text.trim s.toList)

/-- The number of a value: of an integer, a floating-point number, or a text that is a numeral. -/
def number? : Value → Option Float
  | .int i => some (Decimal.ofInteger i)
  | .float x => some x
  | .str s => numeral? s
  | _ => none

mutual

/-- Whether two values are the same in type and content. -/
def same : Value → Value → Bool
  | .null, .null => true
  | .bool a, .bool b => a == b
  | .int a, .int b => a == b
  | .float a, .float b => sameNumber a b
  | .str a, .str b => a == b
  | .arr xs, .arr ys => sameItems xs ys
  | .obj fs, .obj gs => sameFields fs gs
  | .address a, .address b => a == b
  | .instant a, .instant b => a == b
  | .network a, .network b => a == b
  | .invalid a, .invalid b => a == b
  | _, _ => false

/-- Whether two arrays have the same elements. -/
def sameItems : List Value → List Value → Bool
  | [], [] => true
  | x :: xs, y :: ys => same x y && sameItems xs ys
  | _, _ => false

/-- Whether two objects have the same fields. -/
def sameFields : List (String × Value) → List (String × Value) → Bool
  | [], [] => true
  | (k, x) :: fs, (l, y) :: gs => k == l && same x y && sameFields fs gs
  | _, _ => false

end

mutual

/-- Whether two values are equal for the purposes of a condition. -/
def equals : Value → Value → Bool
  | .null, .null => true
  | .bool a, .bool b => a == b
  | .int a, .int b => a == b
  | .float a, .float b => sameNumber a b
  | .str a, .str b => a == b
  | .arr xs, .arr ys => equalItems xs ys
  | .obj fs, .obj gs => fs.length == gs.length && equalFields fs gs
  | .address a, .address b => a == b
  | .address a, .network n => n.contains a
  | .instant a, .instant b => a == b
  | .network n, .address a => n.contains a
  | .network a, .network b => a == b
  | _, _ => false

/-- Whether two arrays have equal elements. -/
def equalItems : List Value → List Value → Bool
  | [], [] => true
  | x :: xs, y :: ys => equals x y && equalItems xs ys
  | _, _ => false

/-- Whether each of the first fields has an equal one of its name among the second. -/
def equalFields : List (String × Value) → List (String × Value) → Bool
  | [], _ => true
  | (k, x) :: fs, gs =>
    (match Entries.get? gs k with
      | some y => equals x y
      | none => false) &&
      equalFields fs gs

end

/-- The order of two texts: of the numbers they denote if both are numerals, and otherwise by code
points. -/
def textOrder? (a b : String) : Option Ordering :=
  match numeral? a, numeral? b with
  | some x, some y => order? x y
  | _, _ => some (compare a b)

/-- The order of two values; none if they are not comparable. -/
def order? : Value → Value → Option Ordering
  | .null, .null => some .eq
  | .bool a, .bool b => some (compare a.toNat b.toNat)
  | .int a, .int b => some (compare a b)
  | .address a, .address b => some (a.order b)
  | .instant a, .instant b => some (a.order b)
  | .str a, .str b => textOrder? a b
  | v, w =>
    match number? v, number? w with
    | some x, some y => Decimal.order? x y
    | _, _ => none

/-- Whether the first value is comparable to the second and not below it. -/
def atLeast (v w : Value) : Bool :=
  order? v w == some .gt || order? v w == some .eq

/-- Whether the first value is comparable to the second and not above it. -/
def atMost (v w : Value) : Bool :=
  order? v w == some .lt || order? v w == some .eq

end AccessPolicy.Value
