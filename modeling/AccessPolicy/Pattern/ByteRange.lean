import AccessPolicy.Text.Ranges

/-!
# Ranges of encoded characters

The UTF-8 encodings of the characters of a range, as sequences of ranges of bytes: a text of as many
bytes is the encoding of a character of the range if each byte lies in its range of one of the
sequences. The sequences are in ascending order.
-/

namespace AccessPolicy.Pattern

open Text (Ranges)

/-- A byte range for each byte of an encoding. -/
abbrev ByteRanges := List (Nat × Nat)

/-- The bytes behind the first one that have six bits of a code point each. -/
def continuation : Nat × Nat := (0x80, 0xBF)

/-- The encodings of the numbers from `low` to `high` by a byte that counts from `base` and `k`
bytes with six bits each. A first byte that not all encodings starting with it belong to has
sequences of its own. -/
def spread (base : Nat) : (k : Nat) → (low high : Nat) → List ByteRanges
  | 0, low, high => [[(base + low, base + high)]]
  | k + 1, low, high =>
    let unit := 64 ^ (k + 1)
    let a := low / unit
    let b := high / unit
    let led (n : Nat) (tails : List ByteRanges) : List ByteRanges :=
      tails.map fun tail => (base + n, base + n) :: tail
    if a = b then led a (spread 0x80 k (low % unit) (high % unit))
    else
      let wholeLow := low % unit = 0
      let wholeHigh := high % unit = unit - 1
      let first := if wholeLow then a else a + 1
      let last := if wholeHigh then b + 1 else b
      (if wholeLow then [] else led a (spread 0x80 k (low % unit) (unit - 1))) ++
        (if first < last then
          [(base + first, base + last - 1) :: List.replicate (k + 1) continuation]
        else []) ++
        (if wholeHigh then [] else led b (spread 0x80 k 0 (high % unit)))

/-- The numbers of a range that are in another one. -/
def clipped (r bounds : Nat × Nat) : Option (Nat × Nat) :=
  let low := max r.1 bounds.1
  let high := min r.2 bounds.2
  if low ≤ high then some (low, high) else none

/-- The lengths of encodings: the code points, the first byte for the number zero, and how many
bytes follow. The surrogates are left out. -/
def encodingLengths : List ((Nat × Nat) × Nat × Nat) := [
  ((0x0, 0x7F), 0x0, 0), ((0x80, 0x7FF), 0xC0, 1), ((0x800, 0xD7FF), 0xE0, 2),
  ((0xE000, 0xFFFF), 0xE0, 2), ((0x10000, 0x10FFFF), 0xF0, 3)]

/-- The encodings of the characters of a set. -/
def encodings (rs : Ranges) : List ByteRanges :=
  rs.flatMap fun r =>
    encodingLengths.flatMap fun (bounds, base, k) =>
      match clipped r bounds with
      | some (low, high) => spread base k low high
      | none => []

/-- The bytes of the encoding of a character. -/
def encodedBytes (c : Char) : List Nat :=
  (encodings [(c.toNat, c.toNat)]).flatMap fun ranges => ranges.map (·.1)

example : encodings [(0x3B1, 0x3C9)] =
    [[(0xCE, 0xCE), (0xB1, 0xBF)], [(0xCF, 0xCF), (0x80, 0x89)]] := by
  decide

end AccessPolicy.Pattern
